import JobControl.Script.Interpreter

/-!
# What a script does when signals arrive

A script may arrange actions for signals, and one for its own end.  Signals are noticed between
commands.  An interrupt for which nothing is arranged ends the script, but not while it waits for a
command.

## Main definitions

* `Occasion.name`, `Occasion.ofText?` — the names of occasions.
* `Run.text` — carries out the commands that a text spells.
* `Run.act` — carries out the actions for the signals noticed.
* `Run.finish` — ends a script.
* `Run.arrange` — arranges an action.
-/

namespace JobControl

namespace Occasion

/-- The numbers of the first and the last of the signals without a meaning of their own that
programs may use. -/
def least : Nat := 34
def greatest : Nat := 64

/-- The name of a signal that has only a number. -/
def numbered (n : Nat) : String :=
  if n < least then toString n
  else if n = least then "RTMIN"
  else if n < least + 16 then s!"RTMIN+{n - least}"
  else if n < greatest then s!"RTMAX-{greatest - n}"
  else "RTMAX"

/-- The name of an occasion as scripts write it. -/
def name : Occasion → String
  | leaving => "EXIT"
  | signal .stkflt => numbered Signal.stkflt.number
  | signal s => if s.isNamed then (s.name.drop 3).toString else numbered s.number

/-- All occasions, in the order of their numbers. -/
def all : List Occasion :=
  leaving :: (List.range greatest).filterMap fun n => (Signal.ofNumber? (n + 1)).map .signal

/-- The occasion with a number. -/
def ofNumber? (n : Nat) : Option Occasion :=
  if n = 0 then some leaving else (Signal.ofNumber? n).map .signal

/-- The number that digits stand for, if there is nothing else. -/
def digits? (text : String) : Option Nat :=
  if text.toList.isEmpty || !text.toList.all Char.isDigit then none else text.toNat?

/-- The occasion that a number or a name stands for; capitals count as other letters. -/
def ofText? (text : String) : Option Occasion :=
  match digits? text with
  | some n => ofNumber? n
  | none => all.find? fun occasion => occasion.name = text.toUpper

end Occasion

namespace Interpreter

/-- How a signal is to be handled.  An interrupt is always caught by a script that does not read its
commands from the standard input, and so is the change of a child. -/
def handling (i : Interpreter) (signal : Signal) : Handling :=
  match i.action? (.signal signal) with
  | some action => if action = "" then .ignore else .catch
  | none =>
    if signal = .chld || (signal = .int && i.isMain && !i.isFromInput) then .catch
    else .default

end Interpreter

namespace Run

/-! ### Signals -/

/-- Has a signal handled as the script arranges it, unless the script began with the signal
ignored. -/
def handle (signal : Signal) : Run Unit := do
  let i ← get
  if i.settled.lookup signal = some true then return
  if (i.settled.lookup signal).isNone then
    let isFixed := (← call (.handling signal)) = .ignore && signal ≠ .chld
    modify fun i => { i with settled := (signal, isFixed) :: i.settled }
    if isFixed then return
  let _ ← call (.setHandling signal (i.handling signal))

/-- Ignores a signal from now on. -/
def ignore (signal : Signal) : Run Unit := do
  let _ ← call (.setHandling signal .ignore)
  modify fun i => { i with
    settled := (signal, true) :: i.settled.filter fun entry => entry.1 ≠ signal }

/-! ### Texts with commands -/

/-- Reads the commands up to the end of a line; nothing if more of the script is needed. -/
def unit (r : Reading) : Run (Option (Reading.Portion × Reading)) := do
  let i ← get
  match Reading.unit { r with aliases := i.aliases, nextDocument := i.documents.length } with
  | .ok (portion, r) =>
    modify fun i => { i with documents := r.documents ++ i.documents }
    return some (portion, r)
  | .error .hungry => return none
  | .error (.wrong line problem) =>
    modify fun i => { i with line }
    fail problem

/-- Carries out commands that are all there, after some with a status. -/
def units (evaluate : Evaluator) (setting : Setting) (status : Nat) (r : Reading) : Nat → Run Nat
  | 0 => return status
  | n + 1 => do
    match ← unit r with
    | some (.commands script, r) =>
      let status ← match script with
        | none => pure status
        | some script => evaluate script setting
      if (← get).skip ≠ .nothing then return status
      units evaluate setting status r n
    | _ => return status

/-- The beginning of a text with commands. -/
def beginning (text : String) : Reading :=
  { rest := Reader.glyphs text.toList, isAll := true, line := 1 }

/-- Carries out the commands that a text spells. -/
def text (evaluate : Evaluator) (setting : Setting) (commands : String) : Run Nat :=
  units evaluate setting 0 (beginning commands) Routine.rounds

/-! ### Actions -/

/-- Carries out the actions for signals noticed; their status is put back unless they left a
function with another. -/
def actOn (evaluate : Evaluator) (status : Nat) : List Signal → Run Unit
  | [] => pure ()
  | signal :: rest => do
    if (← get).skip ≠ .nothing then return
    modify fun i => { i with noticed := i.noticed.erase signal }
    if let some action := (← get).action? (.signal signal) then
      let _ ← text evaluate {} action
      if (← get).skip ≠ .back true then setStatus status
    actOn evaluate status rest

/-- Takes note of signals and carries out the actions for them. -/
def act (evaluate : Evaluator) : Run Unit := do
  notice
  let i ← get
  unless i.noticed.isEmpty do
    let status := i.outerStatus.getD i.status
    modify fun i => { i with outerStatus := some status }
    actOn evaluate status (i.noticed.mergeSort fun a b => a.number ≤ b.number)
    modify fun j => { j with outerStatus := i.outerStatus }

/-- The state for what comes after a script was given up. -/
def settle (abort : Option Abort) : Run Unit := modify fun i =>
  let status := match i.outerStatus with
    | some outer => if abort = some .leaving || i.skip = .back false then outer else i.status
    | none => i.status
  { i with status, outerStatus := none, skip := .nothing, loops := 0 }

/-- Ends a script that gave up for a reason, after the action that is arranged for that; its
status. -/
def finish (evaluate : Evaluator) (abort : Option Abort) : Run Nat := do
  settle abort
  let i ← get
  modify fun i => { i with outerStatus := some i.status }
  let last ← match i.action? .leaving with
    | none => pure abort
    | some action =>
      modify fun i => { i with actions := i.actions.filter fun entry => entry.1 ≠ .leaving }
      match ← attempt (text evaluate {} action) with
      | .ok _ =>
        modify fun i => { i with skip := .back false }
        pure abort
      | .error abort => pure (some abort)
  settle last
  return (← get).status

/-- Arranges an action for an occasion; without an action, what happens by default. -/
def arrange (occasion : Occasion) (action : Option String) : Run Unit := do
  modify fun i => { i with
    actions := (action.map fun action => (occasion, action)).toList ++
      i.actions.filter fun entry => entry.1 ≠ occasion }
  if let .signal signal := occasion then
    handle signal

/-- Forgets all actions, but ignores what was ignored. -/
def forgetActions : Run Unit := do
  let actions := (← get).actions.filter fun entry => entry.2 ≠ ""
  modify fun i => { i with actions := i.actions.filter fun entry => entry.2 = "" }
  for (occasion, _) in actions do
    if let .signal signal := occasion then
      handle signal

end Run
end JobControl
