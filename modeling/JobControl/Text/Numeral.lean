/-!
# Decimal numerals

Reading a signed decimal numeral that has to fit in thirty-two bits.

## Main definitions

* `Text.digitValue? c` — the value of a decimal digit.
* `Text.natural? cs` — the value of a nonempty run of digits.
* `Text.signed32? s` — the value of an optional sign and a run of digits, if it fits.
-/

namespace JobControl.Text

/-- The value of an ASCII decimal digit. -/
def digitValue? (c : Char) : Option Nat :=
  if c.isDigit then some (c.toNat - '0'.toNat) else none

/-- The value of `cs` read as digits that follow the value `n`. -/
def naturalFrom? (n : Nat) : List Char → Option Nat
  | [] => some n
  | c :: cs => (digitValue? c).bind fun d => naturalFrom? (10 * n + d) cs

/-- The value of a nonempty run of decimal digits. -/
def natural? : List Char → Option Nat
  | [] => none
  | cs => naturalFrom? 0 cs

/-- An integer that a signed word of thirty-two bits can hold. -/
def fits32? (n : Int) : Option Int :=
  if -2147483648 ≤ n ∧ n ≤ 2147483647 then some n else none

/-- The value of an optional sign followed by digits alone, if thirty-two bits hold it. -/
def signed32? (s : String) : Option Int :=
  match s.toList with
  | '-' :: cs => (natural? cs).bind fun n => fits32? (-(n : Int))
  | '+' :: cs => (natural? cs).bind fun n => fits32? n
  | cs => (natural? cs).bind fun n => fits32? n

end JobControl.Text
