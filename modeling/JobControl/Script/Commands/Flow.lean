import JobControl.Script.Commands.Names
import JobControl.Script.Source

/-!
# Commands on the flow of a script

The commands of the script language that leave loops, functions and the script, and those that carry
out texts and files as commands.

## Main definitions

* `Commands.leaveLoops`, `Commands.back`, `Commands.exitCommand` — leaving.
* `Commands.eval`, `Commands.dot`, `Commands.exec` — carrying out.
-/

namespace JobControl.Commands

/-- The commands `break` and `continue`: leave loops, or begin their next rounds. -/
def leaveLoops (skip : Nat → Skip) : ScriptCommand := fun _ _ arguments => do
  let count ← match arguments with
    | [] => pure 1
    | text :: _ => do
      let n ← Run.number text
      if n = 0 then Run.fail s!"Illegal number: {text}" else pure n
  let count := Nat.min count (← get).loops
  if count ≠ 0 then modify fun i => { i with skip := skip count }
  return 0

/-- The command `return`: leaves a function or a file. -/
def back : ScriptCommand := fun _ _ arguments => do
  match arguments with
  | [] =>
    modify fun i => { i with skip := .back false }
    return (← get).status
  | text :: _ =>
    let status ← Run.number text
    modify fun i => { i with skip := .back true }
    return status

/-- The command `exit`: leaves the script. -/
def exitCommand : ScriptCommand := fun _ _ arguments => do
  if let text :: _ := arguments then
    let status ← Run.number text
    modify fun i => { i with outerStatus := some status }
  throw .leaving

/-- The command `eval`: carries out its arguments as commands. -/
def eval : ScriptCommand := fun evaluate setting arguments =>
  if arguments.isEmpty then return 0
  else Run.text evaluate { setting with isLast := false } (String.intercalate " " arguments)

/-- The path of a file with commands. -/
def dotFile (name : String) : Run String := do
  if name.toList.contains '/' then return name
  let rec look : List String → Run String
    | [] => Run.fail s!"{name}: not found"
    | path :: rest => do
      match ← Run.call (.metadata path true) with
      | .ok status => if status.kind = .regular then return path else look rest
      | .error _ => look rest
  look (Run.candidates (Run.searchPath (← get)) name)

/-- The command `.`: carries out the commands of a file. -/
def dot : ScriptCommand := fun evaluate _ arguments => do
  let (_, operands) ← Run.options "" arguments
  match operands with
  | [] => return 0
  | name :: _ =>
    let path ← dotFile name
    let fd ← Run.openSource path
    modify fun i => { i with command := some path }
    let outcome ← Run.attempt (Run.follow evaluate fd)
    let _ ← Run.call (.close fd)
    Run.resume outcome

/-- The command `exec`: becomes another program. -/
def exec : ScriptCommand := fun _ _ arguments => do
  let (_, operands) ← Run.options "" arguments
  if operands.isEmpty then return 0 else Run.become operands none 0

end JobControl.Commands
