import JobControl.Text.Number
import JobControl.Utility.Output

/-!
# Amounts

Numbers with a unit, such as `10`, `2k` or `3MB`.

## Main definitions

* `Amount.ofText` — the amount that a text spells.
-/

namespace JobControl

/-- What is wrong with an amount. -/
inductive AmountProblem
  | invalid
  | large
  deriving DecidableEq

namespace Amount

/-- The units, each with the power of a thousand or so that it stands for. -/
def powers : List (Char × Nat) :=
  [('k', 1), ('K', 1), ('m', 2), ('M', 2), ('G', 3), ('T', 4), ('P', 5), ('E', 6), ('Z', 7),
   ('Y', 8)]

/-- What a unit stands for. -/
def unit? (cs : List Char) : Option Nat :=
  match cs with
  | [] => some 1
  | ['b'] => some 512
  | letter :: rest =>
    match powers.lookup letter, rest with
    | some power, [] | some power, ['i', 'B'] => some (Nat.pow 1024 power)
    | some power, ['B'] | some power, ['D'] => some (Nat.pow 1000 power)
    | _, _ => none

/-- The amount that a text spells; a unit may stand alone. -/
def ofText (text : String) : Except AmountProblem Nat :=
  let cs := text.toList.dropWhile Text.isSpace
  let cs := if cs.head? = some '+' then cs.drop 1 else cs
  let (n, rest) := Text.inBase 10 cs
  match unit? rest with
  | none => .error .invalid
  | some unit =>
    if rest.length = cs.length && (rest.isEmpty || rest.length < text.length) then .error .invalid
    else
      let n := if rest.length = cs.length then unit else n * unit
      if n < Nat.pow 2 64 then .ok n else .error .large

/-- Complains about an amount. -/
def complain (name problem text : String) (p : AmountProblem) : Routine Nat := do
  let reason := if p = .large then ": Value too large for defined data type" else ""
  Routine.complain s!"{name}: {problem}: {Quoting.plain text}{reason}\n"
  return 1

end Amount
end JobControl
