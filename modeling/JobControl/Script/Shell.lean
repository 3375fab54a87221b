import JobControl.Script.Evaluation

/-!
# The program that carries out scripts

A script is an argument, a file or what the standard input says.

## Main definitions

* `Script.initial` — the variables of a script before its first command.
* `Script.begin` — carries out the script that arguments name.
* `Script.program` — the program.
-/

namespace JobControl.Script

/-- How commands are carried out. -/
def evaluate : Evaluator := Evaluation.evaluate Evaluation.depth

/-! ### Variables -/

/-- The variables that every script has; a value in the environment takes their place. -/
def usual : List Variable :=
  [{ name := "PATH", value := some Run.usualPath }, { name := "PS1", value := some "$ " },
   { name := "PS2", value := some "> " }, { name := "PS4", value := some "+ " },
   { name := "OPTIND", value := some "1" }, { name := "IFS", value := some " \t\n" }]

/-- The variables that keep their value whatever the environment says. -/
def fixed : List String := ["OPTIND", "IFS"]

/-- The variables of a script before its first command. -/
def initial (environment : List (String × String)) : List Variable :=
  let inherited := environment.filter fun entry => Reader.isGoodName entry.1
  let state := inherited.foldl (fun (i : Interpreter) (name, value) =>
    let value := if fixed.contains name then (i.value? name).getD value else value
    i.setVariable { name, value := some value, isExported := true })
    ({ name := "", bindings := usual } : Interpreter)
  state.bindings

/-- Takes note of the working directory: the inherited name of it, if that is right. -/
def locate : Run Unit := do
  let inherited := ((← get).value? "PWD").filter (·.startsWith "/")
  let here := (← Run.call (.metadata "." true)).toOption
  let named ← match inherited with
    | none => pure none
    | some path => pure (← Run.call (.metadata path true)).toOption
  let isRight : Bool := named.any fun status => here.any fun other => status.ino = other.ino
  let directory ← if isRight then pure (inherited.getD "") else Commands.physicalDirectory
  modify fun i => { i with directory }
  Run.setValue "PWD" (some directory) true

/-- Sets the variables of a script. -/
def prepare (environment : List (String × String)) : Run Unit := do
  let identity ← Run.call .identity
  modify fun i => { i with pid := identity.pid, bindings := initial environment }
  Run.assign "PPID" (toString identity.parent)
  locate

/-! ### The script -/

/-- Settles the options, and finds the script: the text of it, if it is an argument. -/
def find (arguments : List String) : Run (Option String) := do
  let remainder ← Run.setOptions true arguments
  if remainder.rest.isEmpty then
    if remainder.wantsCommand then Run.fail "-c requires an argument"
    modify fun i => i.setOption 's' true
  let isFromInput := (← get).isOn 's'
  match remainder.wantsCommand, remainder.rest with
  | true, text :: rest =>
    modify fun i => { i with name := rest.headD i.name, arguments := rest.drop 1 }
    return some text
  | _, rest =>
    if isFromInput then modify fun i => { i with isFromInput, arguments := rest }
    else
      let path := rest.headD ""
      let fd ← Run.openSource path
      modify fun i => { i with source := some fd, name := path, arguments := rest.drop 1 }
    return none

/-- Carries out the script that arguments name; the first of them names it until they are looked
at. -/
def begin (argv : List String) (environment : List (String × String)) : Run Unit := do
  Run.handle .chld
  prepare environment
  modify fun i => { i with name := argv.headD "" }
  let text ← find (argv.drop 1)
  [Signal.int, .quit, .term].forM Run.handle
  let isFromInput := (← get).isOn 's'
  if let some commands := text then
    let _ ← Run.text evaluate {} commands
  if text.isNone || isFromInput then
    let _ ← Run.follow evaluate ((← get).source.getD Fd.standardInput)

/-- The program that carries out scripts. -/
def program (argv : List String) (environment : List (String × String)) : Routine Nat := do
  let whole : Run Nat := do
    let outcome ← Run.attempt (begin argv environment)
    Run.finish evaluate (match outcome with
      | .ok () => none
      | .error abort => some abort)
  let (status, _) ← whole.run { name := "sh" }
  return status.toOption.getD 2

end JobControl.Script
