import JobControl.Machine.State

/-!
# Information about processes

The system describes its processes as files under `/proc`.

## Main definitions

* `Machine.descriptions` — the texts that describe a process.
* `Machine.descriptorNames` — the names of its descriptors.
-/

namespace JobControl.Machine

/-- The digits of a number to the base sixteen, at least `width` of them. -/
def hexadecimal (width n : Nat) : String :=
  let digits := Nat.toDigits 16 n
  String.ofList (List.replicate (width - digits.length) '0' ++ digits)

/-- The digits of a number to the base eight, at least `width` of them. -/
def octal (width n : Nat) : String :=
  let digits := Nat.toDigits 8 n
  String.ofList (List.replicate (width - digits.length) '0' ++ digits)

/-- The set of some signals as a number. -/
def mask (signals : List Signal) : Nat :=
  (signals.map fun s => Nat.pow 2 (s.number - 1)).foldl (· + ·) 0

/-- What a process does at present, as a letter and as a word. -/
def activity (p : Process) : String × String :=
  match p.condition with
  | .running => if p.isWaiting then ("S", "sleeping") else ("R", "running")
  | .stopped => ("T", "stopped")
  | .ended => ("Z", "zombie")

/-- One line about a process. -/
def statLine (m : Machine) (pid : Pid) (p : Process) : String :=
  let controlled := m.console.session = some p.session
  let owner : Int := if controlled then m.console.foreground else -1
  let terminal : Nat := if controlled then 34816 else 0
  let rest := String.intercalate " " (List.replicate 44 "0")
  s!"{pid} ({p.name}) {(activity p).1} {p.parent} {p.group} {p.session} {terminal} {owner} {rest}\n"

/-- What is known about a process, line by line. -/
def statusLines (pid : Pid) (p : Process) : String :=
  let signals (s : List Signal) := hexadecimal 16 (mask s)
  let (letter, word) := activity p
  s!"Name:\t{p.name}\nUmask:\t{octal 4 p.mask}\nState:\t{letter} ({word})\n" ++
  s!"Tgid:\t{pid}\nNgid:\t0\n" ++
  s!"Pid:\t{pid}\nPPid:\t{p.parent}\nTracerPid:\t0\nThreads:\t1\nSigPnd:\t{signals []}\n" ++
  s!"ShdPnd:\t{signals p.held}\nSigBlk:\t{signals []}\nSigIgn:\t{signals p.ignored}\n" ++
  s!"SigCgt:\t{signals p.caught}\n"

/-- The process that a name under `/proc` stands for. -/
def named? (m : Machine) (reader : Pid) (name : String) : Option (Pid × Process) :=
  let pid? := if name = "self" then some reader else name.toNat?
  pid?.bind fun pid => (m.process? pid).map fun p => (pid, p)

/-- The descriptors of a process, as names.  A process that reads its own directory sees the
descriptor it reads it with. -/
def descriptorNames (reader pid : Pid) (p : Process) : List String :=
  let own := if pid = reader then [p.descriptors.free 0] else []
  (p.descriptors.map (·.1) ++ own).mergeSort.map toString

/-- The texts that describe a process, by their names. -/
def descriptions (m : Machine) (pid : Pid) (p : Process) : List (String × String) :=
  [("stat", m.statLine pid p), ("status", statusLines pid p), ("comm", p.name ++ "\n")]

end JobControl.Machine
