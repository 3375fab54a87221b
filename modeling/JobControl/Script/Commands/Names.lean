import JobControl.Script.Programs

/-!
# Commands on names

The commands of the script language that are about commands: their other names, where they are found
and what they are.

## Main definitions

* `ScriptCommand` — what a command of the language does.
* `Commands.aliases`, `Commands.unalias` — other names.
* `Commands.hash`, `Commands.type` — where commands are found.
-/

namespace JobControl

/-- What a command of the language does with its arguments; its status. -/
abbrev ScriptCommand := Evaluator → Setting → List String → Run Nat

namespace Commands

/-- The number of places among which commands are distributed. -/
def places : Nat := 31

/-- The place of a name among some number of them. -/
def place (count : Nat) (name : String) : Nat :=
  let numbers := name.toList.map Char.toNat
  (16 * numbers.headD 0 + numbers.foldl (· + ·) 0) % count

/-- The command `alias`: lists other names, or gives them. -/
def aliases : ScriptCommand := fun _ _ arguments => do
  let i ← get
  if arguments.isEmpty then
    let listed := i.aliases.reverse.mergeSort fun a b =>
      place Interpreter.places a.1 ≤ place Interpreter.places b.1
    Run.say (String.join (listed.map fun (name, value) => Run.aliasText name value))
    return 0
  let mut status := 0
  for argument in arguments do
    let name := argument.toList.take 1 ++ (argument.toList.drop 1).takeWhile (· ≠ '=')
    let value := argument.toList.drop name.length
    let name := String.ofList name
    match value, (← get).aliases.lookup name with
    | [], none =>
      Run.complain s!"alias: {name} not found\n"
      status := 1
    | [], some value => Run.say (Run.aliasText name value)
    | _ :: value, known =>
      let value := String.ofList value
      modify fun i => { i with
        aliases := if known.isSome then
            i.aliases.map fun entry => if entry.1 = name then (name, value) else entry
          else (name, value) :: i.aliases }
  return status

/-- The command `unalias`: takes other names away. -/
def unalias : ScriptCommand := fun _ _ arguments => do
  let (options, names) ← Run.options "a" arguments
  if !options.isEmpty then
    modify fun i => { i with aliases := [] }
    return 0
  let mut status := 0
  for name in names do
    if ((← get).aliases.lookup name).isNone then
      Run.complain s!"unalias: {name} not found\n"
      status := 1
    modify fun i => { i with aliases := i.aliases.filter fun entry => entry.1 ≠ name }
  return status

/-- The command `hash`: lists or forgets where programs were found, or looks for some again. -/
def hash : ScriptCommand := fun _ _ arguments => do
  let (options, names) ← Run.options "r" arguments
  if !options.isEmpty then
    modify fun i => { i with found := [] }
    return 0
  if names.isEmpty then
    let listed := (← get).found.mergeSort fun a b => place places a.name ≤ place places b.name
    Run.say (String.join (listed.map fun entry =>
      entry.path ++ (if entry.isStale then "*" else "") ++ "\n"))
    return 0
  let mut status := 0
  for name in names do
    modify fun i => { i with found := i.found.filter fun entry => entry.name ≠ name }
    if let .nothing e ← Run.find name none false then
      Run.warn s!"{name}: {Run.reason e}"
      status := 1
  return status

/-- The command `type`: says what names stand for. -/
def type : ScriptCommand := fun _ _ arguments => do
  let mut status := 0
  let mut texts := []
  for name in arguments do
    let (text, found) ← Run.describe name none true
    texts := text :: texts
    status := status ||| found
  Run.say (String.join texts.reverse)
  return status

end Commands
end JobControl
