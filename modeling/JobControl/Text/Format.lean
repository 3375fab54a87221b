import JobControl.Text.Number

/-!
# Formats

How numbers and texts are printed by a conversion such as `%-8.3d`.

## Main definitions

* `Text.Conversion` — the flags, the width, the precision and the letter of a conversion.
* `Text.Conversion.read` — the flags, the width and the precision at the beginning of some
  characters.
* `Text.Conversion.text`, `Text.Conversion.integer`, `Text.Conversion.real` — values as it prints
  them.
-/

namespace JobControl.Text

/-- How a value is printed. -/
structure Conversion where
  flags : List Char := []
  width : Nat := 0
  precision : Option Nat := none
  letter : Char := 's'

namespace Conversion

/-- Whether a flag is there. -/
def has (c : Conversion) (flag : Char) : Bool := c.flags.contains flag

/-- A text filled up with blanks to the width. -/
def padded (c : Conversion) (cs : List Char) : String :=
  let room := List.replicate (c.width - cs.length) ' '
  String.ofList (if c.has '-' then cs ++ room else room ++ cs)

/-- A number filled up to the width: with zeros after its sign or mark if `zeros`. -/
def filled (c : Conversion) (zeros : Bool) (before digits : List Char) : String :=
  if zeros && c.has '0' && !c.has '-' then
    String.ofList (before ++ List.replicate (c.width - before.length - digits.length) '0' ++ digits)
  else c.padded (before ++ digits)

/-- A text, of which no more than the precision is printed. -/
def text (c : Conversion) (s : String) : String :=
  c.padded (match c.precision with
    | some n => s.toList.take n
    | none => s.toList)

/-- What comes before a number that has a sign. -/
def signOf (c : Conversion) (negative : Bool) : List Char :=
  if negative then ['-'] else if c.has '+' then ['+'] else if c.has ' ' then [' '] else []

/-- Whether a conversion prints capitals. -/
def isUpper (c : Conversion) : Bool := c.letter.isUpper

/-- Capitals if the conversion prints them. -/
def cased (c : Conversion) (cs : List Char) : List Char :=
  if c.isUpper then cs.map Char.toUpper else cs

/-- The number of values of an integer word. -/
def words : Nat := Nat.pow 2 64

/-- An integer; below zero it counts as a large one where there are no signs. -/
def integer (c : Conversion) (n : Int) : String :=
  let hasSign := c.letter = 'd' || c.letter = 'i'
  let size : Nat := if hasSign then n.natAbs else (n % words).toNat
  let base := match c.letter with
    | 'o' => 8
    | 'x' | 'X' => 16
    | _ => 10
  let digits := if size = 0 && c.precision = some 0 then [] else c.cased (Nat.toDigits base size)
  let digits := List.replicate (c.precision.getD 0 - digits.length) '0' ++ digits
  let digits := if c.has '#' && base = 8 && digits.head? ≠ some '0' then '0' :: digits else digits
  let before := if hasSign then c.signOf (n < 0)
    else if c.has '#' && base = 16 && size ≠ 0 then ['0', if c.isUpper then 'X' else 'x'] else []
  c.filled c.precision.isNone before digits

/-! ### Real numbers -/

/-- Digits with a point before the last of them; there is none without digits after it unless it is
asked for. -/
def withPoint (c : Conversion) (places : Nat) (digits : List Char) : List Char :=
  let digits := List.replicate (places + 1 - digits.length) '0' ++ digits
  let whole := digits.take (digits.length - places)
  if places = 0 then if c.has '#' then whole ++ ['.'] else whole
  else whole ++ '.' :: digits.drop whole.length

/-- A fraction with some places after the point. -/
def fixed (c : Conversion) (places numerator denominator : Nat) : List Char :=
  c.withPoint places (Nat.toDigits 10 (Real.nearest (numerator * Nat.pow 10 places) denominator))

/-- The first digits of a fraction to the base ten, with the exponent of the first. -/
def leading (count numerator denominator : Nat) : List Char × Int :=
  if numerator = 0 then (List.replicate count '0', 0)
  else
    let e := Real.exponent 10 numerator denominator
    let (n, d) := Real.scaled numerator denominator 10 ((count : Int) - 1 - e)
    let digits := Nat.toDigits 10 (Real.nearest n d)
    if digits.length > count then (digits.take count, e + 1) else (digits, e)

/-- An exponent with its sign and at least some digits. -/
def exponentText (letter : Char) (least : Nat) (e : Int) : List Char :=
  let digits := Nat.toDigits 10 e.natAbs
  letter :: (if e < 0 then '-' else '+') :: List.replicate (least - digits.length) '0' ++ digits

/-- A fraction with an exponent. -/
def exponential (c : Conversion) (places numerator denominator : Nat) : List Char :=
  let (digits, e) := leading (places + 1) numerator denominator
  c.withPoint places digits ++ exponentText 'e' 2 e

/-- Digits after a point without the zeros at their end. -/
def withoutZeros (cs : List Char) : List Char :=
  if cs.contains '.' then
    let cs := (cs.reverse.dropWhile (· = '0')).reverse
    if cs.getLast? = some '.' then cs.dropLast else cs
  else cs

/-- A fraction with an exponent if it is small or large. -/
def general (c : Conversion) (numerator denominator : Nat) : List Char :=
  let count := Nat.max 1 (c.precision.getD 6)
  let (digits, e) := leading count numerator denominator
  let shorten (cs : List Char) : List Char := if c.has '#' then cs else withoutZeros cs
  if e < -4 || e ≥ count then
    shorten (c.withPoint (count - 1) digits) ++ exponentText 'e' 2 e
  else
    let places := ((count : Int) - 1 - e).toNat
    let digits := List.replicate (-e).toNat '0' ++ digits
    shorten (c.withPoint places digits)

/-- A fraction to the base sixteen, whose first digit stands for some bits. -/
def hexadecimal (c : Conversion) (bits numerator denominator : Nat) : List Char :=
  let e := Real.exponent 2 numerator denominator
  let e' := if numerator = 0 then 0 else e - (bits - 1 : Nat)
  let places := c.precision.getD 15
  let (n, d) := Real.scaled numerator denominator 2 (4 * (places : Int) - e')
  let digits := c.withPoint places (Nat.toDigits 16 (Real.nearest n d))
  (if c.precision.isNone then withoutZeros digits else digits) ++ exponentText 'p' 1 e'

/-- A real number; `bits` is the number of bits of the first digit to the base sixteen. -/
def real (c : Conversion) (bits : Nat) (r : Real) : String :=
  let sign := c.signOf r.isNegative
  match r with
  | .infinite _ => c.padded (sign ++ c.cased "inf".toList)
  | .nothing _ => c.padded (sign ++ c.cased "nan".toList)
  | .fraction _ n d =>
    let places := c.precision.getD 6
    match c.letter.toLower with
    | 'f' => c.filled true sign (c.fixed places n d)
    | 'e' => c.filled true sign (c.cased (c.exponential places n d))
    | 'g' => c.filled true sign (c.cased (c.general n d))
    | _ => c.filled true (sign ++ c.cased "0x".toList) (c.cased (c.hexadecimal bits n d))

/-! ### Reading -/

/-- A width or a precision at the beginning of some characters: digits, or a star for an
argument. -/
inductive Measure
  | fixed (n : Nat)
  | argument

/-- The measure at the beginning of some characters, and what follows it. -/
def measure (cs : List Char) : Measure × List Char :=
  match cs with
  | '*' :: rest => (.argument, rest)
  | cs => (inBase 10 cs).map .fixed id

/-- The flags at the beginning of some characters. -/
def flagsOf (known : String) (cs : List Char) : List Char × List Char :=
  let flags := cs.takeWhile known.toList.contains
  (flags, cs.drop flags.length)

/-- A conversion with a width; one below zero asks for blanks at the end. -/
def withWidth (c : Conversion) (n : Int) : Conversion :=
  { c with width := n.natAbs, flags := if n < 0 then '-' :: c.flags else c.flags }

/-- A conversion with a precision; one below zero is none. -/
def withPrecision (c : Conversion) (n : Int) : Conversion :=
  { c with precision := if n < 0 then none else some n.toNat }

end Conversion
end JobControl.Text
