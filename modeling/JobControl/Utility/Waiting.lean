import JobControl.Text.Number
import JobControl.Utility.Operands

/-!
# Letting time pass

## Main definitions

* `Duration.ofText?` — the time that a text such as `0.05` or `2m` names.
* `Utility.sleep` — waits.
-/

namespace JobControl

namespace Duration

/-- The number of seconds in a unit. -/
def unit? (cs : List Char) : Option Nat :=
  match cs with
  | [] | ['s'] => some 1
  | ['m'] => some 60
  | ['h'] => some 3600
  | ['d'] => some 86400
  | _ => none

/-- The longest time, in microseconds. -/
def longest : Nat := Nat.pow 2 63 * 1000000

/-- The number of microseconds that a text names. -/
def ofText? (text : String) : Option Nat :=
  match Text.real? text.toList with
  | none => none
  | some (r, rest) =>
    match r, unit? rest with
    | .fraction negative n d, some unit =>
      if negative && n ≠ 0 then none
      else some (Nat.min longest ((n * unit * 1000000 + d - 1) / d))
    | .infinite false, some _ => some longest
    | _, _ => none

end Duration

namespace Utility

open Routine

/-- Waits as long as its arguments say. -/
def sleep : Utility := fun name arguments =>
  withOptions { letters := "" } 1 name arguments fun found => do
    if found.operands.isEmpty then return ← misuse name "missing operand"
    let wrong := found.operands.filter fun text => (Duration.ofText? text).isNone
    if wrong.isEmpty then
      let now ← call .now
      call (.sleepUntil (now + (found.operands.filterMap Duration.ofText?).foldl (· + ·) 0))
      return 0
    else
      for text in wrong do
        complain s!"{name}: invalid time interval {Quoting.plain text}\n"
      complain s!"Try '{name} --help' for more information.\n"
      return 1

end Utility
end JobControl
