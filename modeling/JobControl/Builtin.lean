import JobControl.Shell
import JobControl.Text.Numeral
import JobControl.Text.Utf8

/-!
# Builtins

The commands that the shell carries out itself.

## Main definitions

* `Builtin`, `Builtin.table` — the builtins, with their names and what they do.
* `Builtin.ofName?` — the builtin with a name.
* `Builtin.run` — carries out a builtin.
-/

namespace JobControl

/-- A command that the shell carries out itself. -/
inductive Builtin
  | help
  | exit
  | changeDirectory
  | workingDirectory
  | foreground
  | background
  | foregroundGroup
  | backgroundGroup
  | terminalGroup
  deriving DecidableEq

/-- How a builtin ends: with a status below 256, or with the wish to leave the shell. -/
inductive BuiltinResult
  | status (value : Nat)
  | exit (code : Int)
  deriving DecidableEq

namespace Builtin

/-- The builtins by name, in the order of the menu, with what they do. -/
def table : List (String × Builtin × String) :=
  [("?", help, "show this help menu"),
   ("help", help, "show this help menu"),
   ("exit", exit, "exit the command shell"),
   ("cd", changeDirectory, "change current working directory"),
   ("pwd", workingDirectory, "print current working directory"),
   ("fg", foreground, "resume the background job in the foreground"),
   ("bg", background, "resume a stopped background job in the background"),
   ("fgpgid", foregroundGroup, "print this shell's foreground process group"),
   ("bgpgid", backgroundGroup, "print this shell's background process group"),
   ("pfgpgid", terminalGroup, "print the terminal's foreground process group")]

/-- The builtin with a name. -/
def ofName? (name : String) : Option Builtin := (table.lookup name).map (·.1)

/-- Fails with a complaint. -/
def complain (name cause : String) (status : Nat) : Action BuiltinResult := do
  Action.say (.complaint name cause)
  return .status status

/-- Leaves the shell with the status that the first argument spells. -/
def leave : List String → Action BuiltinResult
  | [] => return .exit 0
  | argument :: _ =>
    match Text.signed32? argument with
    | some code => return .exit code
    | none => complain "exit" s!"{argument}: numeric argument required" 2

/-- Makes a directory the working directory. -/
def enter (directory : List UInt8) : Action BuiltinResult := do
  if Text.hasNulByte directory then
    complain "cd" s!"{Text.ofBytes directory}: {FileError.nulInPath.message}" 1
  else
    match ← Action.changeDirectory directory with
    | .ok () => return .status 0
    | .error e => complain "cd" s!"{Text.ofBytes directory}: {(FileError.refused e).message}" 1

/-- Makes the directory of the first argument, or the home directory, the working directory. -/
def goTo : List String → Action BuiltinResult
  | directory :: _ => enter (Text.toBytes directory)
  | [] => do
    match ← Action.environment "HOME" with
    | some home => enter home
    | none => complain "cd" "HOME not set" 1

/-- Shows the working directory. -/
def showDirectory : Action BuiltinResult := do
  match ← Action.workingDirectory with
  | .ok path =>
    Action.say (.directory (Text.ofBytes path))
    return .status 0
  | .error e => complain "pwd" e.wording 1

/-- Shows a process group. -/
def showGroup (group : Option Pid) : Action BuiltinResult := do
  Action.say (.group group)
  return .status 0

/-- Carries out a builtin. -/
def run (b : Builtin) (shell : Shell) (arguments : List String) :
    Action (Shell × BuiltinResult) := do
  match b with
  | help =>
    Action.say (.menu (table.map fun (name, _, purpose) => (name, purpose)))
    return (shell, .status 0)
  | exit => return (shell, ← leave arguments)
  | changeDirectory => return (shell, ← goTo arguments)
  | workingDirectory => return (shell, ← showDirectory)
  | foreground =>
    match ← shell.resumeForeground with
    | (shell, .ok (some outcome)) => return (shell, .status (outcome.code % 256).toNat)
    | (shell, .ok none) => return (shell, ← complain "fg" "no current job" 1)
    | (shell, .error e) => return (shell, ← complain "fg" e.symbolic 1)
  | background =>
    match ← shell.resumeBackground with
    | (shell, .ok (some _)) => return (shell, .status 0)
    | (shell, .ok none) => return (shell, ← complain "bg" "no current job" 1)
    | (shell, .error e) => return (shell, ← complain "bg" e.symbolic 1)
  | foregroundGroup => return (shell, ← showGroup shell.jobs.foregroundGroup)
  | backgroundGroup => return (shell, ← showGroup shell.jobs.backgroundGroup)
  | terminalGroup =>
    match ← Action.terminalGroup with
    | .ok group => return (shell, ← showGroup (some group))
    | .error e => return (shell, ← complain "pfgpgid" e.symbolic 1)

end Builtin
end JobControl
