import JobControl.Machine.Task
import JobControl.Utility.Quoting

/-!
# The output of utilities

A utility collects what it prints, writes it when there is enough of it, and writes the rest when it
ends.  Only then it says if something could not be written.

## Main definitions

* `Utility` — what a program does with its name and its arguments.
* `Printer` — a part of a utility that prints.
* `Printer.put` — prints.
* `Utility.printing` — a utility that prints.
* `Utility.report`, `Utility.misuse` — complaints.
-/

namespace JobControl

/-- What a program does: its name and its arguments give a routine. -/
abbrev Utility := (name : String) → (arguments : List String) → Routine Nat

/-- What is printed and not yet written. -/
structure Pending where
  bytes : ByteArray := ByteArray.empty
  /-- Why something could not be written before. -/
  failure : Option Errno := none

/-- A part of a utility that prints. -/
abbrev Printer := StateT Pending Routine

namespace Printer

/-- Carries out a routine. -/
def lift {α : Type} (r : Routine α) : Printer α := StateT.lift r

/-- Makes a request. -/
def call (request : SystemCall) : Printer request.Answer := lift (Routine.call request)

/-- How much is collected before it is written. -/
def blockSize : Nat := 4096

/-- Writes what is collected. -/
def flush : Printer (Except Errno Unit) := do
  let p ← get
  if p.bytes.isEmpty then return .ok ()
  set { p with bytes := ByteArray.empty }
  lift (Routine.writeAll Fd.standardOutput p.bytes)

/-- Writes what is collected, and keeps in mind why that fails. -/
def release : Printer Unit := do
  if let .error e ← flush then modify fun p => { p with failure := some e }

/-- Prints bytes. -/
def putBytes (bytes : ByteArray) : Printer Unit := do
  modify fun p => { p with bytes := p.bytes ++ bytes }
  if blockSize ≤ (← get).bytes.size then release

/-- Prints octets. -/
def put (octets : String) : Printer Unit := putBytes (Text.octetArray octets)

/-- Complains. -/
def complain (octets : String) : Printer Unit := lift (Routine.complain octets)

end Printer

namespace Utility

open Routine

/-- Complains about a file or something else. -/
def report (name subject : String) (e : Errno) : Routine Unit :=
  complain s!"{name}: {subject}: {e.sentence}\n"

/-- Complains about the use of a utility. -/
def misuse (name problem : String) : Routine Nat := do
  complain s!"{name}: {problem}\nTry '{name} --help' for more information.\n"
  return 1

/-- A utility that prints; its status is `lost` if something cannot be written.  Why a write failed
that is not the last one is not known any more, unless nothing can be written at all. -/
def printing (name : String) (lost : Nat) (body : Printer Nat) : Routine Nat := do
  let (status, pending) ← body.run {}
  let (written, _) ← Printer.flush.run pending
  match pending.failure, written with
  | none, .ok () => return status
  | some e, .ok () =>
    if e = .ebadf then report name "write error" e else complain s!"{name}: write error\n"
    return lost
  | _, .error e =>
    report name "write error" e
    return lost

end Utility
end JobControl
