import JobControl.Machine.Names

/-!
# Programs in files

A file is executed as a program of the machine, which its first bytes name, or by the interpreter
that its first line names.

## Main definitions

* `Machine.mark` — how a file starts that holds a program.
* `Machine.program` — the file that a path leads to, if it can be executed.
* `Machine.image` — the program that a file holds or leads to, with its arguments.
-/

namespace JobControl.Machine

/-- How a file starts that holds a program, before the name of the program. -/
def mark : String := "\x7fELF "

/-- How much of a file is looked at. -/
def imageSize : Nat := 256

/-- Whether a byte separates words. -/
def isBlank (b : UInt8) : Bool := b = 32 || b = 9

/-- The first line of a script, from the beginning of the file after the mark of a script.  A line
that does not end there counts as far as it goes, if its first word ends. -/
def scriptLine? (bytes : List UInt8) : Option (List UInt8) :=
  let line := bytes.takeWhile fun b => b ≠ 10 && b ≠ 0
  if (bytes.drop line.length).head? = some 10 then some line
  else if (bytes.dropWhile isBlank).any fun b => isBlank b || b = 0 then some bytes.dropLast
  else none

/-- The interpreter that a script asks for, and the rest of its line as one argument. -/
def interpreter? (bytes : List UInt8) : Option (String × List String) := do
  let line ← scriptLine? bytes
  let line := ((line.reverse.dropWhile isBlank).reverse).dropWhile isBlank
  if line.isEmpty then none
  else
    let name := line.takeWhile fun b => !isBlank b && b ≠ 0
    let rest := line.drop name.length
    let argument := if rest.head?.any isBlank then
        [Text.octetsOf ((rest.dropWhile isBlank).takeWhile (· ≠ 0))]
      else []
    some (Text.octetsOf name, argument)

/-- How many files lead to one another at most until there is a program. -/
def maxImages : Nat := 6

/-- The longest argument, and all arguments with the environment together, in bytes. -/
def maxArgument : Nat := 131071
def maxArguments : Nat := 2097152 - 4096

/-- The file that a path leads to, to be executed: nobody may have it open for writing. -/
def program (m : Machine) (pid : Pid) (p : Process) (path : String) : Except Errno Ino := do
  if path = "" then throw .eacces
  match ← m.existing pid p true path with
  | .node ino =>
    match m.files.node? ino with
    | some (.regular _) =>
      if !m.allows ino .execute then throw .eacces
      if m.isWritten ino then throw .etxtbsy
      return ino
    | _ => throw .eacces
  | _ => throw .eacces

/-- The program that a file holds or leads to, the arguments it starts with, and the file that holds
it.  The file was found under `path`. -/
def image (m : Machine) (pid : Pid) (p : Process) (ino : Ino) (path : String) (argv : List String) :
    Nat → Except Errno (String × List String × Ino)
  | 0 => .error .eloop
  | depth + 1 => do
    match m.files.node? ino with
    | some (.regular content) =>
      let bytes := (content.extract 0 imageSize).toList
      match bytes with
      | 35 :: 33 :: rest =>
        match interpreter? (rest ++ List.replicate (imageSize - bytes.length) 0) with
        | none => throw .enoexec
        | some (name, argument) =>
          let interpreter ← m.program pid p name
          m.image pid p interpreter name (name :: argument ++ path :: argv.drop 1) depth
      | _ =>
        let text := Text.octetsOf bytes
        if text.startsWith mark then return ((text.drop mark.length).toString, argv, ino)
        else throw .enoexec
    | _ => throw .eacces

end JobControl.Machine
