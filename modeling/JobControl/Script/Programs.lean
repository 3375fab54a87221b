import JobControl.Script.Options
import JobControl.Script.Redirection

/-!
# Looking for commands

A command is a function, a command of the language itself or a program, which is looked for in the
directories that a variable names.

## Main definitions

* `Found` — what a name stands for.
* `Run.find` — what a name stands for.
* `Run.become` — carries out a program in place of the script.
* `Run.describe` — says what a name stands for.
-/

namespace JobControl

/-- The commands of the language itself.  A mistake in a special one ends the script. -/
def Interpreter.specialCommands : List String :=
  [".", ":", "break", "continue", "eval", "exec", "exit", "export", "local", "readonly", "return",
   "set", "shift", "times", "trap", "unset"]

/-- The commands of the language itself that are not special. -/
def Interpreter.plainCommands : List String :=
  ["[", "alias", "bg", "cd", "chdir", "command", "echo", "false", "fg", "getopts", "hash", "jobs",
    "kill", "printf", "pwd", "read", "test", "true", "type", "ulimit", "umask", "unalias", "wait"]

/-- What a name stands for. -/
inductive Found
  | function (body : Script)
  | command (isSpecial : Bool)
  /-- A program, to be looked for from a directory on. -/
  | program (path : String) (index : Nat)
  | nothing (e : Errno)

namespace Run

/-- The directories in which programs are looked for if nothing else is said. -/
def usualPath : String := "/usr/local/sbin:/usr/local/bin:/usr/sbin:/usr/bin:/sbin:/bin"

/-- The paths under which a program may be found. -/
def candidates (path name : String) : List String :=
  (path.splitOn ":").map fun directory => if directory = "" then name else directory ++ "/" ++ name

/-- The directories in which the programs of a script are looked for. -/
def searchPath (i : Interpreter) : String := (i.value? "PATH").getD ""

/-! ### Finding -/

/-- Looks for a program under some paths, the first of which has a number. -/
def search (failure : Errno) (index : Nat) : List String → Run Found
  | [] => return .nothing failure
  | path :: rest => do
    match ← call (.metadata path true) with
    | .error e =>
      search (if e = .enoent || e = .enotdir then failure else e) (index + 1) rest
    | .ok status =>
      let isProgram := status.kind = .regular && (← call (.access path .execute)).toOption.isSome
      if isProgram then return .program path index else search .eacces (index + 1) rest

/-- Remembers where a program was found, or that it was not. -/
def remember (name : String) (found : Found) : Run Unit := modify fun i =>
  match found with
  | .program path index =>
    let entry : FoundProgram := { name, path, index }
    if i.found.any fun other => other.name = name then
      { i with found := i.found.map fun other => if other.name = name then entry else other }
    else { i with found := i.found ++ [entry] }
  | _ => { i with found := i.found.filter fun other => other.name ≠ name }

/-- What a name stands for.  Programs are looked for in other directories than usual if `path` names
some, and functions do not count if `noFunctions`. -/
def find (name : String) (path : Option String) (noFunctions : Bool) : Run Found := do
  let i ← get
  if name.toList.contains '/' then return .program name 0
  match if noFunctions then none else i.functions.lookup name with
  | some body => return .function body
  | none =>
    if Interpreter.specialCommands.contains name then return .command true
    else if Interpreter.plainCommands.contains name then return .command false
    else
      match path, i.found.find? fun entry => entry.name = name && !entry.isStale with
      | none, some entry => return .program entry.path entry.index
      | none, none =>
        let found ← search .enoent 0 (candidates (searchPath i) name)
        remember name found
        return found
      | some path, _ => search .enoent 0 (candidates path name)

/-- Why a command is not carried out. -/
def reason (e : Errno) : String := if e = .enoent || e = .enotdir then "not found" else e.sentence

/-! ### Becoming a program -/

/-- How much of a file is looked at to see whether it may be a script. -/
def sampleSize : Nat := 128

/-- Whether bytes may begin a script: in their first line there are no characters that cannot be
written. -/
def mayBeScript (bytes : List UInt8) : Bool :=
  (bytes.takeWhile (· ≠ 10)).all fun b => !(b < 9 || (15 < b && b < 32 && b ≠ 27) || b = 127)

/-- The first bytes of a file. -/
def sample (path : String) : Run (List UInt8) := do
  match ← call (.openFile path .read 0 true) with
  | .error _ => return []
  | .ok fd =>
    let bytes ← call (.read fd sampleSize)
    let _ ← call (.close fd)
    return (bytes.toOption.getD ByteArray.empty).toList

/-- Tries a path as the program; why that fails.  A text is carried out as a script. -/
def tryProgram (path : String) (argv : List String) (environment : List (String × String)) :
    Run Errno := do
  let e ← call (.execute path argv environment)
  if e = .enoexec && mayBeScript (← sample path) then
    call (.execute "/bin/sh" ("/bin/sh" :: path :: argv.drop 1) environment)
  else return e

/-- Tries some paths in turn as the program; the most telling failure. -/
def tryPrograms (argv : List String) (environment : List (String × String)) (failure : Errno) :
    List String → Run Errno
  | [] => return failure
  | path :: rest => do
    let e ← tryProgram path argv environment
    tryPrograms argv environment (if e = .enoent || e = .enotdir then failure else e) rest

/-- Carries out a program in place of the script, looked for from a directory on. -/
def become {α : Type} (argv : List String) (path : Option String) (index : Nat) : Run α := do
  let i ← get
  let name := argv.headD ""
  let environment := i.environment
  let e ← if name.toList.contains '/' then tryProgram name argv environment
    else
      tryPrograms argv environment .enoent ((candidates (path.getD (searchPath i)) name).drop index)
  let isMissing := e = .enoent || e = .enotdir || e = .eloop || e = .enametoolong
  setStatus (if isMissing then 127 else 126)
  warn s!"{name}: {reason e}"
  throw .ending

/-! ### Saying what a name stands for -/

/-- An alias as a script lists it. -/
def aliasText (name value : String) : String := s!"{name}={Text.quoted value}\n"

/-- Says what a name stands for, at length or as briefly as can be; the status. -/
def describe (name : String) (path : Option String) (atLength : Bool) : Run (String × Nat) := do
  let i ← get
  let text (long short : String) : Run (String × Nat) :=
    return ((if atLength then name ++ long else short) ++ "\n", 0)
  if Reader.reserved.contains name then text " is a shell keyword" name
  else
    match i.aliases.lookup name with
    | some value =>
      if atLength then text s!" is an alias for {value}" name
      else return ("alias " ++ aliasText name value, 0)
    | none =>
      match ← find name path false with
      | .function _ => text " is a shell function" name
      | .command isSpecial =>
        text (if isSpecial then " is a special shell builtin" else " is a shell builtin") name
      | .program found _ =>
        let isTracked := path.isNone && i.found.any fun entry => entry.name = name
        let isThere := (← call (.metadata found true)).toOption.isSome
        if !isThere && name.toList.contains '/' then
          return (if atLength then name ++ ": not found\n" else "", 127)
        else text ((if isTracked then " is a tracked alias for " else " is ") ++ found) found
      | .nothing _ => return (if atLength then name ++ ": not found\n" else "", 127)

end Run
end JobControl
