import JobControl.Utility.Operands
import JobControl.Utility.TerminalReport

/-!
# Changing the modes of a terminal

All settings are read before any of them is made, and all modes change at once.

## Main definitions

* `TerminalRequest` — what the arguments ask for.
* `TerminalSetting` — one of the settings to be made.
* `Utility.stty` — shows and changes the modes of a terminal.
-/

namespace JobControl

/-- What arguments ask for.  Arguments that are options leave a gap among the settings. -/
structure TerminalRequest where
  chosen : List (String × String) := []
  settings : List (Option String) := []
  /-- Whether a setting keeps the modes from being shown. -/
  isChange : Bool := false

namespace TerminalRequest

/-- The options; any other argument is a setting. -/
def options : Options where
  letters := "agF:"
  names := [("all", "a", .nothing), ("save", "g", .nothing), ("file", "F", .required)]

/-- A request with more options and arguments before. -/
def adding (chosen : List (String × String)) (settings : List (Option String))
    (r : TerminalRequest) : TerminalRequest :=
  { r with chosen := chosen ++ r.chosen, settings := settings ++ r.settings }

/-- A request with a setting before. -/
def addingSetting (chosen : List (String × String)) (setting : String) (r : TerminalRequest) :
    TerminalRequest :=
  let r := r.adding chosen [some setting]
  if setting = "drain" || setting = "-drain" then r else { r with isChange := true }

/-- What arguments ask for. -/
def ofArguments : List String → TerminalRequest
  | [] => {}
  | argument :: rest =>
    let (chosen, next) : List (String × String) × Options.Next := match argument.toList with
      | ['-', '-'] => ([], .free)
      | '-' :: '-' :: name => options.named (String.ofList name)
      | '-' :: letter :: letters => options.cluster (letter :: letters)
      | _ => ([], .wrong "")
    match next with
    | .free =>
      if argument = "--" then { settings := (argument :: rest).map some }
      else (ofArguments rest).adding chosen [none]
    | .wrong _ => (ofArguments rest).addingSetting chosen argument
    | .value option _ =>
      match rest with
      | [] => addingSetting chosen argument {}
      | value :: rest => (ofArguments rest).adding (chosen ++ [(option, value)]) [none, none]

end TerminalRequest

/-- A setting to be made. -/
inductive TerminalSetting
  | nothing
  /-- Other modes; there may be something to be said about them. -/
  | change (apply : Modes → Modes) (remark : Option String)
  /-- The height or the width of the window. -/
  | rows (value : String)
  | columns (value : String)
  /-- The size of the window, or the speed, is shown. -/
  | showSize
  | showSpeed
  /-- Something that only the other side of the terminal can change. -/
  | remote (name : String)
  | wrong (problem : String)
  | wrongNumber (problem : String)

namespace TerminalSetting

/-- The number that a text spells; what is wrong if it is above a bound or no number. -/
def number (largest : Nat) (text : String) : Except String Nat :=
  let problem (reason : String) : Except String Nat :=
    .error s!"invalid integer argument: {Quoting.plain text}{reason}"
  let cs := text.toList.dropWhile Text.isSpace
  let cs := if cs.head? = some '+' then cs.drop 1 else cs
  let (n, rest) := Text.numeral cs
  let unit? : Option Nat := match rest with
    | [] => some 1
    | ['b'] => some 512
    | ['B'] => some 1024
    | _ => none
  match unit? with
  | none => problem ""
  | some unit =>
    if rest.length = cs.length && (cs.isEmpty || cs.length < text.length) then problem ""
    else
      let n := if rest.length = cs.length then unit else n * unit
      if n ≤ largest then .ok n
      else problem (if Nat.pow 2 30 ≤ n + 1 then ": Value too large for defined data type"
        else ": Numerical result out of range")

/-- The character that a text stands for. -/
def character (c : NamedCharacter) (text : String) : Except String Nat :=
  if c.character = .min || c.character = .time then number 255 text
  else
    match text.toList with
    | [] => .ok 0
    | [c] => .ok c.toNat
    | ['^', '-'] => .ok 0
    | '^' :: '?' :: _ => .ok 127
    | '^' :: c :: _ => .ok (c.toNat &&& 0x9f)
    | _ => if text = "undef" then .ok 0 else number 255 text

/-- Another speed. -/
def speed (text : String) : TerminalSetting :=
  match BaudRate.ofText? text with
  | some speed => change (fun m => { m with speed }) none
  | none => wrong s!"invalid argument {Quoting.plain text}"

/-- A setting that takes a value. -/
def valued? (name value : String) : Option TerminalSetting :=
  match NamedCharacter.named? name with
  | some c => some <| match character c value with
    | .ok n => change (fun m => m.setCharacter c.character n) none
    | .error problem => wrongNumber problem
  | none =>
    if name = "ispeed" || name = "ospeed" then
      if (BaudRate.ofText? value).isSome then some (speed value)
      else some (wrong s!"invalid {name} {Quoting.plain value}")
    else if name = "rows" then some (rows value)
    else if name = "cols" || name = "columns" then some (columns value)
    else if name = "line" then some <| match number (Nat.pow 2 64 - 1) value with
      | .ok n => change (fun m => { m with line := n % 256 })
          (if n < 256 then none else some s!"invalid line discipline {Quoting.plain value}")
      | .error problem => wrongNumber problem
    else none

/-- A setting that takes no value. -/
def simple (name : String) : TerminalSetting :=
  if name = "size" then showSize
  else if name = "speed" then showSpeed
  else if (BaudRate.ofText? name).isSome then speed name
  else if (Modes.recovered? .initial name).isSome then
    change (fun m => (m.recovered? name).getD m) none
  else wrong s!"invalid argument {Quoting.plain name}"

/-- A switch or a combination of settings. -/
def switch? (name : String) (isReversed : Bool) : Option TerminalSetting :=
  match NamedSwitch.named? name, TerminalCombination.named? name with
  | some s, _ =>
    if s.switch = .extproc then some (remote name)
    else if isReversed && !s.isReversible then none
    else some (change (fun m => if isReversed then m.clear s.switch else m.turnOn s.switch) none)
  | none, some c =>
    if isReversed && !c.isReversible then none else some (change (c.apply isReversed) none)
  | none, none => none

/-- The settings that arguments name. -/
def ofArguments : List (Option String) → List TerminalSetting
  | [] => []
  | none :: rest => ofArguments rest
  | some argument :: rest =>
    let (isReversed, name) := match argument.toList with
      | '-' :: cs => (true, String.ofList cs)
      | _ => (false, argument)
    if name = "drain" then nothing :: ofArguments rest
    else
      match switch? name isReversed with
      | some s => s :: ofArguments rest
      | none =>
        if isReversed then [wrong s!"invalid argument {Quoting.plain argument}"]
        else if (valued? name "").isNone then simple name :: ofArguments rest
        else
          match rest with
          | some value :: rest => (valued? name value).toList ++ ofArguments rest
          | _ => [wrong s!"missing argument to {Quoting.plain name}"]

/-- What is said about a setting before any is made; whether it keeps them from being made. -/
def check (name : String) : TerminalSetting → Routine Bool
  | change _ (some remark) => do
    Routine.complain s!"{name}: {remark}\n"
    return false
  | wrong problem => do
    let _ ← Utility.misuse name problem
    return true
  | wrongNumber problem => do
    Routine.complain s!"{name}: {problem}\n"
    return true
  | _ => return false

/-- Checks settings up to the first that is wrong; whether there is one. -/
def checkAll (name : String) : List TerminalSetting → Routine Bool
  | [] => return false
  | s :: rest => do if ← check name s then return true else checkAll name rest

end TerminalSetting

namespace Utility

open Routine

/-- The modes to be, and whether they are new. -/
structure TerminalChange where
  modes : Modes
  isNew : Bool := false

/-- Makes a setting; whether the next can be made. -/
def makeSetting (name device : String) (c : TerminalChange) :
    TerminalSetting → Printer (Except Unit TerminalChange)
  | .nothing => return .ok c
  | .change apply remark => do
    if let some remark := remark then Printer.complain s!"{name}: {remark}\n"
    return .ok { modes := apply c.modes, isNew := true }
  | .rows value => resize value fun n (_, columns) => (n, columns)
  | .columns value => resize value fun n (rows, _) => (rows, n)
  | .showSize => do
    match ← Printer.call (.windowSize Fd.standardInput) with
    | .error e => failing device e
    | .ok (rows, columns) =>
      Printer.put s!"{rows} {columns}\n"
      return .ok c
  | .showSpeed => do
    Printer.put s!"{c.modes.speed}\n"
    return .ok c
  | .remote setting => failing s!"{device}: error setting {Quoting.plain setting}" .enotty
  | .wrong _ | .wrongNumber _ => return .error ()
where
  failing (subject : String) (e : Errno) : Printer (Except Unit TerminalChange) := do
    Printer.lift (report name subject e)
    return .error ()
  resize (value : String) (sized : Nat → Nat × Nat → Nat × Nat) :
      Printer (Except Unit TerminalChange) := do
    match TerminalSetting.number (Nat.pow 2 31 - 1) value with
    | .error problem =>
      Printer.complain s!"{name}: {problem}\n"
      return .error ()
    | .ok n =>
      match ← Printer.call (.windowSize Fd.standardInput) with
      | .error e => failing device e
      | .ok size =>
        let (rows, columns) := sized (n % 65536) size
        match ← Printer.call (.setWindowSize Fd.standardInput rows columns) with
        | .error e => failing device e
        | .ok () => return .ok c

/-- Makes settings in turn, up to the first that cannot be made. -/
def makeSettings (name device : String) (c : TerminalChange) :
    List TerminalSetting → Printer (Except Unit TerminalChange)
  | [] => return .ok c
  | s :: rest => do
    match ← makeSetting name device c s with
    | .ok c => makeSettings name device c rest
    | .error () => return .error ()

/-- How wide the screen is. -/
def screenWidth (environment : List (String × String)) : Routine Nat := do
  let usual := 80
  match ← call (.windowSize Fd.standardOutput) with
  | .ok (_, columns) => if 0 < columns then return columns
  | .error _ => pure ()
  match TerminalSetting.number (Nat.pow 2 31 - 1) ((environment.lookup "COLUMNS").getD "") with
  | .ok 0 | .error _ => return usual
  | .ok n => return n

/-- Shows the modes of a terminal. -/
def showModes (environment : List (String × String)) (name device : String) (found : Options.Found)
    (modes : Modes) : Routine Nat := printing name 1 do
  if found.has "g" then
    Printer.put modes.recoverable
    return 0
  let width ← Printer.lift (screenWidth environment)
  if found.has "a" then
    match ← Printer.call (.windowSize Fd.standardInput) with
    | .error e =>
      Printer.lift (report name device e)
      return 1
    | .ok window => Printer.put (modes.shown width (some window))
  else Printer.put (modes.shown width none)
  return 0

/-- Changes the modes of a terminal. -/
def changeModes (name device : String) (settings : List TerminalSetting) (modes : Modes) :
    Routine Nat :=
  printing name 1 do
    match ← makeSettings name device { modes } settings with
    | .error () => return 1
    | .ok c =>
      if !c.isNew then return 0
      if let .error e ← Printer.call (.setModes Fd.standardInput c.modes) then
        Printer.lift (report name device e)
        return 1
      match ← Printer.call (.modes Fd.standardInput) with
      | .error e =>
        Printer.lift (report name device e)
        return 1
      | .ok modes =>
        if modes = c.modes then return 0
        Printer.complain s!"{name}: {device}: unable to perform all requested operations\n"
        return 1

/-- Shows and changes the modes of a terminal. -/
def stty (environment : List (String × String)) : Utility := fun name arguments => do
  let fail (problem : String) : Routine Nat := do
    complain s!"{name}: {problem}\n"
    return 1
  let request := TerminalRequest.ofArguments arguments
  let found : Options.Found := { chosen := request.chosen }
  let devices := (request.chosen.filter fun entry => entry.1 = "F").map (·.2)
  if 1 < devices.length then return ← fail "only one device may be specified"
  if found.has "a" && found.has "g" then
    return ← fail "the options for verbose and stty-readable output styles are\nmutually exclusive"
  let isShown := found.has "a" || found.has "g"
  if request.isChange && isShown then
    return ← fail "when specifying an output style, modes may not be set"
  let settings := TerminalSetting.ofArguments request.settings
  if request.isChange then
    if ← TerminalSetting.checkAll name settings then return 1
  let device := Quoting.subject (devices.headD "standard input")
  if let some path := devices.head? then
    if let .error e ← openAsInput path then
      report name device e
      return 1
  match ← call (.modes Fd.standardInput) with
  | .error e =>
    report name device e
    return 1
  | .ok modes =>
    if request.isChange then changeModes name device settings modes
    else showModes environment name device found modes

end Utility
end JobControl
