import JobControl.Modes

/-!
# The settings of a terminal by name

## Main definitions

* `NamedSwitch`, `NamedCharacter` — switches and special characters with their names.
* `Modes.usual` — the modes of a terminal that works as it should.
* `TerminalCombination` — several settings under one name.
* `BaudRate` — how fast a line can be.
-/

namespace JobControl

/-- A switch with its name. -/
structure NamedSwitch where
  name : String
  switch : ModeSwitch
  /-- Whether it can be turned off. -/
  isReversible : Bool := true
  /-- How it should be; nothing if that depends. -/
  usual : Option Bool := none
  /-- Whether it is a second name of another one. -/
  isAlias : Bool := false

namespace NamedSwitch

/-- One of several settings of the same places. -/
def choice (name : String) (switch : ModeSwitch) (usual : Option Bool) : NamedSwitch :=
  { name, switch, isReversible := false, usual }

/-- All switches, in the order in which they are listed. -/
def all : List NamedSwitch :=
  [{ name := "parenb", switch := .parenb }, { name := "parodd", switch := .parodd },
    { name := "cmspar", switch := .cmspar }, choice "cs5" (.characterSize 0) none,
    choice "cs6" (.characterSize 1) none, choice "cs7" (.characterSize 2) none,
    choice "cs8" (.characterSize 3) none, { name := "hupcl", switch := .hupcl },
    { name := "hup", switch := .hupcl, isAlias := true }, { name := "cstopb", switch := .cstopb },
    { name := "cread", switch := .cread, usual := some true },
    { name := "clocal", switch := .clocal }, { name := "crtscts", switch := .crtscts },
    { name := "ignbrk", switch := .ignbrk, usual := some false },
    { name := "brkint", switch := .brkint, usual := some true },
    { name := "ignpar", switch := .ignpar }, { name := "parmrk", switch := .parmrk },
    { name := "inpck", switch := .inpck }, { name := "istrip", switch := .istrip },
    { name := "inlcr", switch := .inlcr, usual := some false },
    { name := "igncr", switch := .igncr, usual := some false },
    { name := "icrnl", switch := .icrnl, usual := some true }, { name := "ixon", switch := .ixon },
    { name := "ixoff", switch := .ixoff, usual := some false },
    { name := "tandem", switch := .ixoff, isAlias := true },
    { name := "iuclc", switch := .iuclc, usual := some false },
    { name := "ixany", switch := .ixany, usual := some false },
    { name := "imaxbel", switch := .imaxbel, usual := some true },
    { name := "iutf8", switch := .iutf8, usual := some false },
    { name := "opost", switch := .opost, usual := some true },
    { name := "olcuc", switch := .olcuc, usual := some false },
    { name := "ocrnl", switch := .ocrnl, usual := some false },
    { name := "onlcr", switch := .onlcr, usual := some true },
    { name := "onocr", switch := .onocr, usual := some false },
    { name := "onlret", switch := .onlret, usual := some false },
    { name := "ofill", switch := .ofill, usual := some false },
    { name := "ofdel", switch := .ofdel, usual := some false },
    choice "nl1" (.newlineDelay 1) (some false), choice "nl0" (.newlineDelay 0) (some true),
    choice "cr3" (.returnDelay 3) (some false), choice "cr2" (.returnDelay 2) (some false),
    choice "cr1" (.returnDelay 1) (some false), choice "cr0" (.returnDelay 0) (some true),
    choice "tab3" (.tabDelay 3) (some false), choice "tab2" (.tabDelay 2) (some false),
    choice "tab1" (.tabDelay 1) (some false), choice "tab0" (.tabDelay 0) (some true),
    choice "bs1" (.backspaceDelay 1) (some false), choice "bs0" (.backspaceDelay 0) (some true),
    choice "vt1" (.verticalDelay 1) (some false), choice "vt0" (.verticalDelay 0) (some true),
    choice "ff1" (.feedDelay 1) (some false), choice "ff0" (.feedDelay 0) (some true),
    { name := "isig", switch := .isig, usual := some true },
    { name := "icanon", switch := .icanon, usual := some true },
    { name := "iexten", switch := .iexten, usual := some true },
    { name := "echo", switch := .echo, usual := some true },
    { name := "echoe", switch := .echoe, usual := some true },
    { name := "crterase", switch := .echoe, isAlias := true },
    { name := "echok", switch := .echok, usual := some true },
    { name := "echonl", switch := .echonl, usual := some false },
    { name := "noflsh", switch := .noflsh, usual := some false },
    { name := "xcase", switch := .xcase, usual := some false },
    { name := "tostop", switch := .tostop, usual := some false },
    { name := "echoprt", switch := .echoprt, usual := some false },
    { name := "prterase", switch := .echoprt, isAlias := true },
    { name := "echoctl", switch := .echoctl, usual := some true },
    { name := "ctlecho", switch := .echoctl, isAlias := true },
    { name := "echoke", switch := .echoke, usual := some true },
    { name := "crtkill", switch := .echoke, isAlias := true },
    { name := "flusho", switch := .flusho, usual := some false },
    { name := "extproc", switch := .extproc, usual := some false }]

/-- A switch by its name. -/
def named? (name : String) : Option NamedSwitch := all.find? fun s => s.name = name

end NamedSwitch

/-- A special character with its name and the byte that it usually is. -/
structure NamedCharacter where
  name : String
  character : SpecialCharacter
  usual : Nat

namespace NamedCharacter

/-- The special characters, in the order in which they are listed. -/
def all : List NamedCharacter :=
  [⟨"intr", .intr, 3⟩, ⟨"quit", .quit, 28⟩, ⟨"erase", .erase, 127⟩, ⟨"kill", .kill, 21⟩,
    ⟨"eof", .eof, 4⟩, ⟨"eol", .eol, 0⟩, ⟨"eol2", .eol2, 0⟩, ⟨"swtch", .swtch, 0⟩,
    ⟨"start", .start, 17⟩, ⟨"stop", .stop, 19⟩, ⟨"susp", .susp, 26⟩, ⟨"rprnt", .rprnt, 18⟩,
    ⟨"werase", .werase, 23⟩, ⟨"lnext", .lnext, 22⟩, ⟨"discard", .discard, 15⟩]

/-- The numbers that are kept among the special characters. -/
def numbers : List NamedCharacter := [⟨"min", .min, 1⟩, ⟨"time", .time, 0⟩]

/-- A second name of a special character. -/
def flush : NamedCharacter := ⟨"flush", .discard, 15⟩

/-- A special character by its name. -/
def named? (name : String) : Option NamedCharacter :=
  (all ++ flush :: numbers).find? fun c => c.name = name

end NamedCharacter

namespace Modes

/-- The modes with some switches on, or off. -/
def turnAll (m : Modes) (on : Bool) (switches : List ModeSwitch) : Modes :=
  switches.foldl (fun m s => if on then m.turnOn s else m.turnOff s) m

/-- The modes with some special characters. -/
def setAll (m : Modes) (characters : List NamedCharacter) : Modes :=
  characters.foldl (fun m c => m.setCharacter c.character c.usual) m

/-- The modes with everything as it should be. -/
def usual (m : Modes) : Modes :=
  NamedSwitch.all.foldl (fun m s =>
    match s.usual with
    | some true => m.turnOn s.switch
    | some false => m.clear s.switch
    | none => m) (m.setAll (NamedCharacter.all ++ NamedCharacter.numbers))

end Modes

/-- Several settings under one name. -/
structure TerminalCombination where
  name : String
  isReversible : Bool := true
  apply : (isReversed : Bool) → Modes → Modes

namespace TerminalCombination

/-- Characters of eight bits without parity, or of seven bits with parity. -/
def eightBits (m : Modes) : Modes := (m.turnOff .parenb).turnOn (.characterSize 3)
def sevenBits (m : Modes) : Modes := (m.turnOn .parenb).turnOn (.characterSize 2)

/-- Line by line, with signals, or as it comes. -/
def cooked (m : Modes) : Modes :=
  m.turnAll true [.brkint, .ignpar, .istrip, .icrnl, .ixon, .opost, .isig, .icanon]
def raw (m : Modes) : Modes :=
  (({ m with input := 0 }).turnAll false [.opost, .isig, .icanon, .xcase]).setAll
    NamedCharacter.numbers

/-- What is erased disappears. -/
def screen (m : Modes) : Modes := m.turnAll true [.echoe, .echoctl, .echoke]

/-- All combinations. -/
def all : List TerminalCombination :=
  let even (reversed : Bool) (m : Modes) : Modes :=
    if reversed then eightBits m else (sevenBits m).turnOff .parodd
  let lower (reversed : Bool) (m : Modes) : Modes := m.turnAll (!reversed) [.xcase, .iuclc, .olcuc]
  [{ name := "evenp", apply := even }, { name := "parity", apply := even },
    { name := "oddp", apply := fun reversed m =>
        if reversed then eightBits m else (sevenBits m).turnOn .parodd },
    { name := "nl", apply := fun reversed m =>
        if reversed then
          (m.turnAll true [.icrnl, .onlcr]).turnAll false [.inlcr, .igncr, .ocrnl, .onlret]
        else m.turnAll false [.icrnl, .onlcr] },
    { name := "ek", isReversible := false, apply := fun _ m =>
        m.setAll [⟨"erase", .erase, 127⟩, ⟨"kill", .kill, 21⟩] },
    { name := "sane", isReversible := false, apply := fun _ m => m.usual },
    { name := "cooked", apply := fun reversed m => if reversed then raw m else cooked m },
    { name := "raw", apply := fun reversed m => if reversed then cooked m else raw m },
    { name := "pass8", apply := fun reversed m =>
        if reversed then (sevenBits m).turnOn .istrip else (eightBits m).turnOff .istrip },
    { name := "litout", apply := fun reversed m =>
        if reversed then (sevenBits m).turnAll true [.istrip, .opost]
        else (eightBits m).turnAll false [.istrip, .opost] },
    { name := "cbreak", apply := fun reversed m => m.turnAll reversed [.icanon] },
    { name := "decctlq", apply := fun reversed m => m.turnAll reversed [.ixany] },
    { name := "tabs", apply := fun reversed m => m.turnOn (.tabDelay (if reversed then 3 else 0)) },
    { name := "lcase", apply := lower }, { name := "LCASE", apply := lower },
    { name := "crt", isReversible := false, apply := fun _ m => screen m },
    { name := "dec", isReversible := false, apply := fun _ m =>
        ((screen m).turnOff .ixany).setAll
          [⟨"intr", .intr, 3⟩, ⟨"erase", .erase, 127⟩, ⟨"kill", .kill, 21⟩] }]

/-- A combination by its name. -/
def named? (name : String) : Option TerminalCombination := all.find? fun c => c.name = name

end TerminalCombination

namespace BaudRate

/-- The speeds of a line, each with the bits that stand for it. -/
def all : List (Nat × Nat) :=
  let slow := [0, 50, 75, 110, 134, 150, 200, 300, 600, 1200, 1800, 2400, 4800, 9600, 19200, 38400]
  let fast :=
    [57600, 115200, 230400, 460800, 500000, 576000, 921600, 1000000, 1152000, 1500000, 2000000,
    2500000, 3000000, 3500000, 4000000]
  slow.zipIdx ++ fast.zipIdx 0x1001

/-- The speed that a text names. -/
def ofText? (text : String) : Option Nat :=
  match text with
  | "134.5" => some 134
  | "exta" => some 19200
  | "extb" => some 38400
  | text => (all.map (·.1)).find? fun speed => toString speed = text

/-- The bits that stand for a speed. -/
def bits (speed : Nat) : Nat := (all.lookup speed).getD 0

/-- The bits that can stand for speeds. -/
def mask : Nat := 0x100f

/-- The speed that some bits stand for. -/
def ofBits (bits : Nat) : Nat := ((all.find? fun entry => entry.2 = bits).map (·.1)).getD 0

end BaudRate
end JobControl
