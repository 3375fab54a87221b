import JobControl.Machine.Information
import JobControl.Text.Number
import JobControl.Utility.TerminalSettings

/-!
# Showing the modes of a terminal

The settings are shown in lines that are not longer than the screen is wide.

## Main definitions

* `Wrapped` — text in lines of bounded length.
* `Modes.shown` — all settings, or those that are unusual.
* `Modes.recoverable` — all settings in a form that can be read again.
-/

namespace JobControl

/-- Text in lines of bounded length. -/
structure Wrapped where
  text : String := ""
  /-- How much of the last line is used. -/
  column : Nat := 0

namespace Wrapped

/-- A line end. -/
def endLine (w : Wrapped) : Wrapped := { text := w.text ++ "\n" }

/-- A line end, unless nothing stands in the line. -/
def endUsedLine (w : Wrapped) : Wrapped := if w.column = 0 then w else w.endLine

/-- One more entry, on the same line if it fits. -/
def add (width : Nat) (w : Wrapped) (entry : String) : Wrapped :=
  if w.column = 0 then { text := w.text ++ entry, column := entry.length }
  else if width ≤ w.column + entry.length then
    { text := w.text ++ "\n" ++ entry, column := entry.length }
  else { text := w.text ++ " " ++ entry, column := w.column + 1 + entry.length }

/-- More entries. -/
def addAll (width : Nat) (w : Wrapped) (entries : List String) : Wrapped :=
  entries.foldl (add width) w

end Wrapped

namespace Modes

/-- A special character as it is shown. -/
def visible (character : Nat) : String :=
  let low (n : Nat) : String :=
    if n < 32 then "^" ++ (Char.ofNat (n + 64)).toString
    else if n < 127 then (Char.ofNat n).toString else "^?"
  if character = 0 then "<undef>"
  else if character < 128 then low character
  else "M-" ++ low (character - 128)

/-- The special characters of a list. -/
def shownCharacters (m : Modes) (characters : List NamedCharacter) : List String :=
  characters.map fun c => s!"{c.name} = {visible (m.character c.character)};"

/-- The numbers among the special characters. -/
def shownNumbers (m : Modes) : String := s!"min = {m.character .min}; time = {m.character .time};"

/-- A switch; an unusual one only, unless all are shown. -/
def shownSwitch? (m : Modes) (isFull : Bool) (s : NamedSwitch) : Option String :=
  if s.isAlias then none
  else if m.isOn s.switch then if isFull || s.usual = some false then some s.name else none
  else if s.isReversible && (isFull || s.usual = some true) then some ("-" ++ s.name)
  else none

/-- The words of switches in the order in which they are shown. -/
def shownWords : List ModeWord := [.control, .input, .output, .editing]

/-- The switches of a word. -/
def shownWord (m : Modes) (isFull : Bool) (word : ModeWord) : List String :=
  (NamedSwitch.all.filter fun s => s.switch.word = word).filterMap (m.shownSwitch? isFull)

/-- The settings on a screen of some width: all of them together with the size of the window, if
that is given, else the unusual ones. -/
def shown (m : Modes) (width : Nat) (window? : Option (Nat × Nat)) : String :=
  let add := Wrapped.add width
  let addAll := Wrapped.addAll width
  let start := add {} s!"speed {m.speed} baud;"
  let withSwitches (isFull : Bool) (w : Wrapped) : Wrapped :=
    shownWords.foldl (fun w word => (addAll w (m.shownWord isFull word)).endUsedLine) w
  match window? with
  | some (rows, columns) =>
    let first := (addAll start [s!"rows {rows}; columns {columns};", s!"line = {m.line};"]).endLine
    let second := add (addAll first (m.shownCharacters NamedCharacter.all)) m.shownNumbers
    (withSwitches true second.endLine).text
  | none =>
    let first := (add start s!"line = {m.line};").endLine
    let changed := NamedCharacter.all.filter fun c => m.character c.character ≠ c.usual
    let second := addAll first (m.shownCharacters changed)
    let third := if m.isOn .icanon then second.endUsedLine
      else { text := (add second (m.shownNumbers ++ "\n")).text }
    (withSwitches false third).text

/-- All settings in a form that can be read again. -/
def recoverable (m : Modes) : String :=
  let control := m.control + BaudRate.bits m.speed
  let numbers := [m.input, m.output, control, m.editing] ++ m.characters
  String.intercalate ":" (numbers.map (Machine.hexadecimal 1)) ++ "\n"

/-- A word in hexadecimal notation, below a bound. -/
def hexadecimalWord? (bound : Nat) (text : String) : Option Nat :=
  let (negative, rest) := Text.sign text.toList
  let ds := match rest with
    | '0' :: x :: d :: ds =>
      if (x = 'x' || x = 'X') && (Text.digit? d).any (· < 16) then d :: ds else rest
    | ds => ds
  let (n, after) := Text.inBase 16 ds
  if ds.isEmpty || !after.isEmpty then none
  else
    let n := if negative then (Nat.pow 2 64 - n) % Nat.pow 2 64 else n
    if n < bound then some n else none

/-- The settings that a text describes, as far as a text can describe them. -/
def recovered? (m : Modes) (text : String) : Option Modes := do
  match text.splitOn ":" with
  | input :: output :: control :: editing :: characters =>
    let word? := hexadecimalWord? (Nat.pow 2 32)
    let (input, output) := (← word? input, ← word? output)
    let (control, editing) := (← word? control, ← word? editing)
    let characters ← characters.mapM (hexadecimalWord? 256)
    if characters.length = places then
      let bits := control &&& BaudRate.mask
      some { m with
        input, output, editing, characters
        control := control - bits
        speed := BaudRate.ofBits bits }
    else none
  | _ => none

end Modes
end JobControl
