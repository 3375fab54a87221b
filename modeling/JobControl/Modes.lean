/-!
# Terminal modes

What a terminal does with the characters typed on it: its special characters and its switches.  The
switches are bits of four words; some of them choose between several settings instead of two.

## Main definitions

* `ModeWord`, `ModeSwitch` — the words, and a setting of some bits of one of them.
* `SpecialCharacter` — what special characters are for.
* `Modes` — switches and special characters.
* `Modes.initial` — the modes of a new terminal.
* `Modes.isOn`, `Modes.turnOn`, `Modes.turnOff` — reading and changing a switch.
-/

namespace JobControl

/-- The words of switches: what is done with characters that come in, with characters that go out,
on the line to the terminal, and with the line being typed. -/
inductive ModeWord
  | input
  | output
  | control
  | editing
  deriving DecidableEq

/-- A setting: some bits of a word, and the places that they are chosen for. -/
structure ModeSwitch where
  word : ModeWord
  bits : Nat
  mask : Nat := bits
  deriving DecidableEq

namespace ModeSwitch

/-! ### Characters that come in -/

def ignbrk : ModeSwitch := ⟨.input, 0x1, 0x1⟩
def brkint : ModeSwitch := ⟨.input, 0x2, 0x2⟩
def ignpar : ModeSwitch := ⟨.input, 0x4, 0x4⟩
/-- The byte 255 is typed twice. -/
def parmrk : ModeSwitch := ⟨.input, 0x8, 0x8⟩
def inpck : ModeSwitch := ⟨.input, 0x10, 0x10⟩
/-- The highest bit of every byte is taken off. -/
def istrip : ModeSwitch := ⟨.input, 0x20, 0x20⟩
/-- A line end counts as a carriage return. -/
def inlcr : ModeSwitch := ⟨.input, 0x40, 0x40⟩
/-- Carriage returns are dropped. -/
def igncr : ModeSwitch := ⟨.input, 0x80, 0x80⟩
/-- A carriage return counts as a line end. -/
def icrnl : ModeSwitch := ⟨.input, 0x100, 0x100⟩
/-- Capital letters count as small ones. -/
def iuclc : ModeSwitch := ⟨.input, 0x200, 0x200⟩
/-- Two special characters stop the output and let it go on. -/
def ixon : ModeSwitch := ⟨.input, 0x400, 0x400⟩
/-- Any character lets the output go on. -/
def ixany : ModeSwitch := ⟨.input, 0x800, 0x800⟩
def ixoff : ModeSwitch := ⟨.input, 0x1000, 0x1000⟩
def imaxbel : ModeSwitch := ⟨.input, 0x2000, 0x2000⟩
/-- Characters are erased as UTF-8 encodes them. -/
def iutf8 : ModeSwitch := ⟨.input, 0x4000, 0x4000⟩

/-! ### Characters that go out -/

def opost : ModeSwitch := ⟨.output, 0x1, 0x1⟩
def olcuc : ModeSwitch := ⟨.output, 0x2, 0x2⟩
def onlcr : ModeSwitch := ⟨.output, 0x4, 0x4⟩
def ocrnl : ModeSwitch := ⟨.output, 0x8, 0x8⟩
def onocr : ModeSwitch := ⟨.output, 0x10, 0x10⟩
def onlret : ModeSwitch := ⟨.output, 0x20, 0x20⟩
def ofill : ModeSwitch := ⟨.output, 0x40, 0x40⟩
def ofdel : ModeSwitch := ⟨.output, 0x80, 0x80⟩
/-- The delay after a line end, carriage return, tab, backspace, vertical tab and form feed. -/
def newlineDelay (n : Nat) : ModeSwitch := ⟨.output, n * 0x100, 0x100⟩
def returnDelay (n : Nat) : ModeSwitch := ⟨.output, n * 0x200, 0x600⟩
def tabDelay (n : Nat) : ModeSwitch := ⟨.output, n * 0x800, 0x1800⟩
def backspaceDelay (n : Nat) : ModeSwitch := ⟨.output, n * 0x2000, 0x2000⟩
def verticalDelay (n : Nat) : ModeSwitch := ⟨.output, n * 0x4000, 0x4000⟩
def feedDelay (n : Nat) : ModeSwitch := ⟨.output, n * 0x8000, 0x8000⟩

/-! ### The line to the terminal -/

/-- The size of a character: five bits and `n` more. -/
def characterSize (n : Nat) : ModeSwitch := ⟨.control, n * 0x10, 0x30⟩
def cstopb : ModeSwitch := ⟨.control, 0x40, 0x40⟩
def cread : ModeSwitch := ⟨.control, 0x80, 0x80⟩
def parenb : ModeSwitch := ⟨.control, 0x100, 0x100⟩
def parodd : ModeSwitch := ⟨.control, 0x200, 0x200⟩
def hupcl : ModeSwitch := ⟨.control, 0x400, 0x400⟩
def clocal : ModeSwitch := ⟨.control, 0x800, 0x800⟩
def cmspar : ModeSwitch := ⟨.control, 0x40000000, 0x40000000⟩
def crtscts : ModeSwitch := ⟨.control, 0x80000000, 0x80000000⟩

/-! ### The line being typed -/

/-- Three special characters cause signals. -/
def isig : ModeSwitch := ⟨.editing, 0x1, 0x1⟩
/-- Input comes line by line and can be edited before. -/
def icanon : ModeSwitch := ⟨.editing, 0x2, 0x2⟩
def xcase : ModeSwitch := ⟨.editing, 0x4, 0x4⟩
def echo : ModeSwitch := ⟨.editing, 0x8, 0x8⟩
def echoe : ModeSwitch := ⟨.editing, 0x10, 0x10⟩
def echok : ModeSwitch := ⟨.editing, 0x20, 0x20⟩
def echonl : ModeSwitch := ⟨.editing, 0x40, 0x40⟩
/-- What was typed stays when a signal is caused. -/
def noflsh : ModeSwitch := ⟨.editing, 0x80, 0x80⟩
/-- A job that does not have the terminal is stopped when it writes on it. -/
def tostop : ModeSwitch := ⟨.editing, 0x100, 0x100⟩
def echoctl : ModeSwitch := ⟨.editing, 0x200, 0x200⟩
def echoprt : ModeSwitch := ⟨.editing, 0x400, 0x400⟩
def echoke : ModeSwitch := ⟨.editing, 0x800, 0x800⟩
def flusho : ModeSwitch := ⟨.editing, 0x1000, 0x1000⟩
/-- The less common special characters have an effect. -/
def iexten : ModeSwitch := ⟨.editing, 0x8000, 0x8000⟩
def extproc : ModeSwitch := ⟨.editing, 0x10000, 0x10000⟩

end ModeSwitch

/-- What special characters are for, and two numbers that are kept among them. -/
inductive SpecialCharacter
  | intr | quit | erase | kill | eof
  /-- How long a read that is not line by line waits, in tenths of a second. -/
  | time
  /-- How many bytes a read that is not line by line waits for. -/
  | min
  | swtch | start | stop | susp | eol | rprnt | discard | werase | lnext | eol2
  deriving DecidableEq

namespace SpecialCharacter

/-- The place of a special character among all of them. -/
def place : SpecialCharacter → Nat
  | intr => 0
  | quit => 1
  | erase => 2
  | kill => 3
  | eof => 4
  | time => 5
  | min => 6
  | swtch => 7
  | start => 8
  | stop => 9
  | susp => 10
  | eol => 11
  | rprnt => 12
  | discard => 13
  | werase => 14
  | lnext => 15
  | eol2 => 16

end SpecialCharacter

/-- The modes of a terminal. -/
structure Modes where
  input : Nat
  output : Nat
  control : Nat
  editing : Nat
  /-- The kind of the line. -/
  line : Nat := 0
  /-- The special characters, each at its place; zero stands for none. -/
  characters : List Nat
  /-- How many bits pass in a second. -/
  speed : Nat := 38400
  deriving DecidableEq

namespace Modes

/-- How many places there are for special characters. -/
def places : Nat := 32

/-- The modes of a new terminal. -/
def initial : Modes where
  input := 0x500
  output := 0x5
  control := 0xb0
  editing := 0x8a3b
  characters := [3, 28, 127, 21, 4, 0, 1, 0, 17, 19, 26, 0, 18, 15, 23, 22]
    ++ List.replicate (places - 16) 0

/-- One of the words. -/
def word (m : Modes) : ModeWord → Nat
  | .input => m.input
  | .output => m.output
  | .control => m.control
  | .editing => m.editing

/-- The modes with another word. -/
def setWord (m : Modes) (word : ModeWord) (value : Nat) : Modes :=
  match word with
  | .input => { m with input := value }
  | .output => { m with output := value }
  | .control => { m with control := value }
  | .editing => { m with editing := value }

/-- Whether a setting is chosen. -/
def isOn (m : Modes) (s : ModeSwitch) : Bool := m.word s.word &&& s.mask = s.bits

/-- The modes without any of the bits that a setting is about. -/
def clear (m : Modes) (s : ModeSwitch) : Modes :=
  m.setWord s.word (m.word s.word - (m.word s.word &&& s.mask))

/-- The modes with a setting chosen. -/
def turnOn (m : Modes) (s : ModeSwitch) : Modes :=
  let m := m.clear s
  m.setWord s.word (m.word s.word + s.bits)

/-- The modes with a switch off. -/
def turnOff (m : Modes) (s : ModeSwitch) : Modes :=
  m.setWord s.word (m.word s.word - (m.word s.word &&& s.bits))

/-- A special character, as the number of its byte. -/
def character (m : Modes) (c : SpecialCharacter) : Nat := m.characters.getD c.place 0

/-- The modes with another special character. -/
def setCharacter (m : Modes) (c : SpecialCharacter) (value : Nat) : Modes :=
  { m with characters := m.characters.set c.place value }

/-- What a terminal without wires makes of modes: its characters have eight bits, no parity, and can
always be read. -/
def accepted (m : Modes) : Modes :=
  ((m.turnOn (.characterSize 3)).turnOff .parenb).turnOn .cread

end Modes
end JobControl
