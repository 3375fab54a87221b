import JobControl.Machine.Signals

/-!
# The terminal of the machine

What is typed is edited line by line and turned into signals where the modes say so.  Processes that
do not have the terminal are stopped when they read from it or change it.

## Main definitions

* `Console.accept`, `Console.endLine`, `Console.erase` — the line being typed.
* `Console.take?` — what a read gets.
* `Console.setModes` — other modes, and what they make of the bytes that are there.
* `Machine.type` — types bytes on the terminal.
* `Machine.access` — whether a process may use the terminal.
-/

namespace JobControl

namespace Console

/-- The number of bytes that the terminal keeps until they are read. -/
def capacity : Nat := 4095

/-- Whether a setting is chosen. -/
def isOn (c : Console) (s : ModeSwitch) : Bool := c.modes.isOn s

/-- Whether a byte is a special character. -/
def isSpecial (c : Console) (special : SpecialCharacter) (b : UInt8) : Bool :=
  b ≠ 0 && c.modes.character special = b.toNat

/-- How many bytes are kept. -/
def size (c : Console) : Nat := c.lines.length + c.editing.length

/-- A byte becomes a part of the line. -/
def accept (c : Console) (b : UInt8) : Console :=
  if b = 255 && c.isOn .parmrk then { c with editing := b :: b :: c.editing }
  else { c with editing := b :: c.editing }

/-- The line ends with a byte; the byte zero stands for the end of the input. -/
def endLine (c : Console) (b : UInt8) : Console :=
  { c with lines := c.lines ++ c.editing.reverse.map (·, false) ++ [(b, true)], editing := [] }

/-! ### Erasing -/

/-- Whether a byte is a part of a character that began before it. -/
def isContinuation (c : Console) (b : UInt8) : Bool := c.isOn .iutf8 && b &&& 0xc0 = 0x80

/-- Whether a byte belongs to a word: a letter, also of the upper half of Latin-1, a digit or an
underscore. -/
def isWordByte (b : UInt8) : Bool :=
  (48 ≤ b && b ≤ 57) || (65 ≤ b && b ≤ 90) || (97 ≤ b && b ≤ 122) || b = 95 ||
    (192 ≤ b && b ≠ 215 && b ≠ 247)

/-- The bytes of the last character, and what is before it; nothing if only a part of it is left. -/
def lastCharacter? (c : Console) : List UInt8 → Option (UInt8 × List UInt8)
  | [] => none
  | b :: rest => if c.isContinuation b then c.lastCharacter? rest else some (b, rest)

/-- What is left of a line, the last byte first, without its last word.  `seen` says whether some of
the word was erased. -/
def withoutWord (c : Console) (seen : Bool) : Nat → List UInt8 → List UInt8
  | 0, bytes => bytes
  | n + 1, bytes =>
    match c.lastCharacter? bytes with
    | none => bytes
    | some (b, rest) =>
      if isWordByte b then c.withoutWord true n rest
      else if seen then bytes
      else c.withoutWord false n rest

/-- The line without its last character. -/
def erase (c : Console) : Console :=
  match c.lastCharacter? c.editing with
  | some (_, editing) => { c with editing }
  | none => c

/-- The line without its last word. -/
def eraseWord (c : Console) : Console :=
  { c with editing := c.withoutWord false c.editing.length c.editing }

/-! ### Typing -/

/-- A byte as it comes in: without its highest bit, or as a small letter, if the modes say so. -/
def incoming (c : Console) (b : UInt8) : UInt8 :=
  let b := if c.isOn .istrip then b &&& 0x7f else b
  if c.isOn .iuclc && c.isOn .iexten && 65 ≤ b && b ≤ 90 then b + 32 else b

/-- A byte that is neither quoted nor has to do with signals or the output is typed. -/
def enter (c : Console) (b : UInt8) : Console :=
  if b = 13 && c.isOn .igncr then c
  else
    let b := if b = 13 && c.isOn .icrnl then 10 else if b = 10 && c.isOn .inlcr then 13 else b
    if !c.isOn .icanon then c.accept b
    else if c.isSpecial .erase b then c.erase
    else if c.isSpecial .kill b then { c with editing := [] }
    else if c.isSpecial .werase b && c.isOn .iexten then c.eraseWord
    else if c.isSpecial .lnext b && c.isOn .iexten then { c with quoting := true }
    else if c.isSpecial .rprnt b && c.isOn .iexten && c.isOn .echo then c
    else if c.isSpecial .eof b && b ≠ 10 then c.endLine 0
    else if b = 10 || c.isSpecial .eol b || (c.isSpecial .eol2 b && c.isOn .iexten) then c.endLine b
    else c.accept b

/-! ### Reading -/

/-- The bytes of the next line, up to a number of them, and what is left.  An end of the input right
after the last byte that was asked for goes with it. -/
def takeLine : Nat → List (UInt8 × Bool) → List UInt8 × List (UInt8 × Bool)
  | 0, (0, true) :: rest => ([], rest)
  | 0, rest => ([], rest)
  | _ + 1, [] => ([], [])
  | n + 1, (b, marked) :: rest =>
    if marked then (if b = 0 then [] else [b], rest) else (takeLine n rest).map (b :: ·) id

/-- Whether there is something to read. -/
def isReadable (c : Console) : Bool :=
  if c.isOn .icanon then !c.lines.isEmpty else !c.editing.isEmpty

/-- What a read of a number of bytes gets, if there is something to read. -/
def take? (c : Console) (count : Nat) : Option (List UInt8 × Console) :=
  if count = 0 then some ([], c)
  else if !c.isReadable then none
  else if c.isOn .icanon then
    let (bytes, lines) := takeLine count c.lines
    some (bytes, { c with lines })
  else
    let bytes := c.editing.reverse
    some (bytes.take count, { c with editing := (bytes.drop count).reverse })

/-! ### Changes of the modes -/

/-- The bytes that are there, marked at the last one, as complete lines. -/
def asLine : List UInt8 → List (UInt8 × Bool)
  | [] => []
  | [b] => [(b, true)]
  | b :: rest => (b, false) :: asLine rest

/-- The terminal with other modes.  When input begins to come line by line, what is there is a line;
when it ceases to, what is there can be read as it is. -/
def setModes (c : Console) (modes : Modes) : Console :=
  let modes := modes.accepted
  let stopped := c.stopped && !(c.isOn .ixon && !modes.isOn .ixon)
  let bytes := c.lines.map (·.1) ++ c.editing.reverse
  match c.isOn .icanon, modes.isOn .icanon with
  | false, true => { c with modes, stopped, quoting := false, lines := asLine bytes, editing := [] }
  | true, false =>
    { c with modes, stopped, quoting := false, lines := [], editing := bytes.reverse }
  | _, _ => { c with modes, stopped }

end Console

namespace Machine

/-- The signal that a byte typed on the terminal causes. -/
def typedSignal? (c : Console) (b : UInt8) : Option Signal :=
  if !c.isOn .isig then none
  else if c.isSpecial .intr b then some .int
  else if c.isSpecial .quit b then some .quit
  else if c.isSpecial .susp b then some .tstp
  else none

/-- A signal typed on the terminal goes to the group that has it; what was typed before is lost,
unless the modes say otherwise. -/
def causeSignal (m : Machine) (signal : Signal) : Machine :=
  let m := m.deliverGroup m.console.foreground signal
  let c := m.console
  let c := if c.isOn .noflsh then c else { c with lines := [], editing := [] }
  { m with console := { c with stopped := c.stopped && !c.isOn .ixon } }

/-- Types a byte on the terminal. -/
def typeByte (m : Machine) (b : UInt8) : Machine :=
  let c := m.console
  let b := c.incoming b
  let resumed := { c with stopped := c.stopped && !(c.isOn .ixon && c.isOn .ixany) }
  if c.quoting then { m with console := { resumed with quoting := false }.accept b }
  else if c.isOn .ixon && c.isSpecial .start b then
    { m with console := { c with stopped := false } }
  else if c.isOn .ixon && c.isSpecial .stop b then { m with console := { c with stopped := true } }
  else
    match typedSignal? c b with
    | some signal => m.causeSignal signal
    | none => { m with console := resumed.enter b }

/-- Lets bytes arrive as long as there is room.  A line that is not complete takes any number of
bytes, of which the last one gives its place to the next. -/
def receive (m : Machine) : Nat → Machine
  | 0 => m
  | n + 1 =>
    let c := m.console
    match c.arriving with
    | [] => m
    | b :: arriving =>
      let size := c.size
      if size < Console.capacity then
        receive ({ m with console := { c with arriving } }.typeByte b) n
      else if c.isOn .icanon && c.lines.isEmpty then
        let editing := if Console.capacity < size then c.editing.tail else c.editing
        receive ({ m with console := { c with arriving, editing } }.typeByte b) n
      else m

/-- Types bytes on the terminal. -/
def type (m : Machine) (bytes : List UInt8) : Machine :=
  let arriving := m.console.arriving ++ bytes
  { m with console := { m.console with arriving } }.receive arriving.length

/-- The terminal after something was read from it. -/
def withConsole (m : Machine) (console : Console) : Machine :=
  { m with console }.receive console.arriving.length

/-- Whether a process may use the terminal. -/
inductive Access
  | granted
  | refused
  /-- The process is stopped instead. -/
  | stopped (m : Machine)

/-- Whether a process may read from the terminal or change it, which a group that does not have it
learns by `signal`. -/
def access (m : Machine) (p : Process) (signal : Signal) : Access :=
  if m.console.session ≠ some p.session || p.group = m.console.foreground then .granted
  else if p.ignored.contains signal then if signal = .ttou then .granted else .refused
  else if m.isOrphaned p.group then .refused
  else .stopped (m.deliverGroup p.group signal)

end Machine
end JobControl
