import JobControl.Utility.Operands

/-!
# The environment of programs

## Main definitions

* `Utility.env` — starts a program in another environment.
* `Utility.printenv` — prints variables of the environment.
-/

namespace JobControl.Utility

open Routine

/-- What a program inherits: names with values. -/
abbrev Variables := List (String × String)

/-- Variables with the value of one of them changed. -/
def withVariable (environment : Variables) (name value : String) : Variables :=
  if (environment.lookup name).isSome then
    environment.map fun entry => if entry.1 = name then (name, value) else entry
  else environment ++ [(name, value)]

/-- Variables without one of them. -/
def withoutVariable (environment : Variables) (name : String) : Variables :=
  environment.filter fun entry => entry.1 ≠ name

/-- Variables with those that the first arguments assign, and the arguments after them. -/
def leadingAssignments (environment : Variables) : List String → Variables × List String
  | [] => (environment, [])
  | argument :: rest =>
    let name := argument.toList.takeWhile (· ≠ '=')
    if name.length = argument.length then (environment, argument :: rest)
    else
      let value := String.ofList (argument.toList.drop (name.length + 1))
      leadingAssignments (withVariable environment (String.ofList name) value) rest

/-- Starts the program in a file, or carries out the script in it; why that fails. -/
def startFile (path : String) (argv : List String) (environment : Variables) : Routine Errno := do
  let e ← call (.execute path argv environment)
  if e = .enoexec then call (.execute "/bin/sh" ("/bin/sh" :: path :: argv.drop 1) environment)
  else return e

/-- Starts the first program that can be started among some paths; why none can. -/
def startFirst (argv : List String) (environment : Variables) (failure : Errno) :
    List String → Routine Errno
  | [] => pure failure
  | path :: rest => do
    let e ← startFile path argv environment
    if e = .enoent || e = .enotdir then startFirst argv environment failure rest
    else if e = .eacces then startFirst argv environment .eacces rest
    else return e

/-- Starts a program, looked for in the directories that a variable names; why that fails. -/
def startProgram (argv : List String) (environment : Variables) : Routine Errno :=
  let program := argv.headD ""
  if program = "" then pure .enoent
  else if program.toList.contains '/' then startFile program argv environment
  else
    let directories := ((environment.lookup "PATH").getD "/bin:/usr/bin").splitOn ":"
    startFirst argv environment .enoent
      (directories.map fun directory =>
        if directory = "" then program else directory ++ "/" ++ program)

/-- The options of `env`. -/
def envOptions : Options where
  letters := "C:iu:v0"
  names := [("ignore-environment", "i", .nothing), ("null", "0", .nothing),
    ("unset", "u", .required), ("chdir", "C", .required), ("debug", "v", .nothing)]
  isStrict := true

/-- Prints the environment, or starts a program in another one. -/
def env (environment : Variables) : Utility := fun name arguments =>
  withOptions envOptions 125 name arguments fun found => do
    let (isLone, rest) := match found.operands with
      | "-" :: rest => (true, rest)
      | operands => (false, operands)
    let refused (option value : String) : Bool :=
      option = "u" && (value = "" || value.toList.contains '=')
    if let some (_, value) := found.chosen.find? fun (option, value) => refused option value then
      report name s!"cannot unset {Quoting.plain value}" .einval
      return 125
    let start := if isLone || found.has "i" then [] else environment
    let start := found.chosen.foldl (fun environment (option, value) =>
      if option = "u" then withoutVariable environment value else environment) start
    let (environment, argv) := leadingAssignments start rest
    match argv with
    | [] => printing name 125 do
      let lineEnd := if found.has "0" then "\x00" else "\n"
      Printer.put (String.join (environment.map fun (name, value) => s!"{name}={value}{lineEnd}"))
      return 0
    | program :: _ =>
      if found.has "0" then
        let _ ← misuse name "cannot specify --null (-0) with command"
        return 125
      if let some directory := found.value? "C" then
        if let .error e ← call (.changeDirectory directory) then
          report name s!"cannot change directory to {Quoting.always directory}" e
          return 125
      let e ← startProgram argv environment
      report name (Quoting.plain program) e
      if e = .enoent && program.toList.any Text.isSpace then
        complain s!"{name}: use -[v]S to pass options in shebang lines\n"
      return if e = .enoent then 127 else 126

/-- The options of `printenv`. -/
def printenvOptions : Options where
  letters := "iu:0"
  names := [("null", "0", .nothing)]
  isStrict := true

/-- Prints variables of the environment.  Two options of `env` are known, but wrong. -/
def printenv (environment : Variables) : Utility := fun name arguments =>
  let hint : Routine Nat := do
    complain s!"Try '{name} --help' for more information.\n"
    return 2
  let check (option _ : String) : Option (Routine Nat) := if option = "0" then none else some hint
  withValues printenvOptions 2 check name arguments fun found => printing name 2 do
    let lineEnd := if found.has "0" then "\x00" else "\n"
    if found.operands.isEmpty then
      Printer.put (String.join (environment.map fun (name, value) => s!"{name}={value}{lineEnd}"))
      return 0
    else
      let values := found.operands.map fun name => environment.lookup name
      Printer.put (String.join (values.map fun value => (value.map (· ++ lineEnd)).getD ""))
      return if values.all (·.isSome) then 0 else 1

end JobControl.Utility
