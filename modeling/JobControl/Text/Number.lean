/-!
# Numbers in texts

Integers in octal, decimal and hexadecimal notation, and real numbers in decimal and hexadecimal
notation, as they stand at the beginning of a text.

## Main definitions

* `Text.numeral` — an integer without a sign.
* `Text.integer?` — an integer with a sign.
* `Text.Real`, `Text.real?` — a real number.
* `Text.Real.rounded` — the nearest number with some bits.
-/

namespace JobControl.Text

/-- Whether a character is white space. -/
def isSpace (c : Char) : Bool := c = ' ' || ('\t' ≤ c && c ≤ '\r')

/-- The value of a digit, letters included. -/
def digit? (c : Char) : Option Nat :=
  if c.isDigit then some (c.toNat - '0'.toNat)
  else if 'a' ≤ c && c ≤ 'z' then some (c.toNat - 'a'.toNat + 10)
  else if 'A' ≤ c && c ≤ 'Z' then some (c.toNat - 'A'.toNat + 10)
  else none

/-- The digits to a base at the beginning of some characters. -/
def digits (base : Nat) (cs : List Char) : List Char :=
  cs.takeWhile fun c => (digit? c).any (· < base)

/-- The value of digits to a base. -/
def value (base : Nat) (ds : List Char) : Nat :=
  ds.foldl (fun n c => base * n + (digit? c).getD 0) 0

/-- The value of the digits to a base at the beginning of some characters, and what follows them. -/
def inBase (base : Nat) (cs : List Char) : Nat × List Char :=
  let ds := digits base cs
  (value base ds, cs.drop ds.length)

/-- The value of the numeral at the beginning of some characters, and what follows it: hexadecimal
after `0x`, octal after `0`, else decimal. -/
def numeral (cs : List Char) : Nat × List Char :=
  match cs with
  | '0' :: x :: d :: rest =>
    if (x = 'x' || x = 'X') && (digit? d).any (· < 16) then inBase 16 (d :: rest) else inBase 8 cs
  | '0' :: _ => inBase 8 cs
  | _ => inBase 10 cs

/-- The sign at the beginning of some characters, blanks being passed over, and what follows it. -/
def sign (cs : List Char) : Bool × List Char :=
  match cs.dropWhile isSpace with
  | '-' :: rest => (true, rest)
  | '+' :: rest => (false, rest)
  | rest => (false, rest)

/-- The integer at the beginning of some characters, and what follows it. -/
def integer? (cs : List Char) : Option (Int × List Char) :=
  let (negative, rest) := sign cs
  if rest.head?.any Char.isDigit then
    let (n, rest) := numeral rest
    some (if negative then -(n : Int) else n, rest)
  else none

/-- The number of decimal places of a natural number that is not zero, less one, to a base. -/
def magnitude (base n : Nat) : Nat := (Nat.toDigits base n).length - 1

/-! ### Real numbers -/

/-- A real number: a fraction, or one of those that are none. -/
inductive Real
  | fraction (negative : Bool) (numerator denominator : Nat)
  | infinite (negative : Bool)
  | nothing (negative : Bool)

namespace Real

/-- Zero. -/
def zero : Real := .fraction false 0 1

/-- The real number of an integer. -/
def ofInt (n : Int) : Real := .fraction (n < 0) n.natAbs 1

/-- The integer nearest to a fraction; of two, the even one. -/
def nearest (numerator denominator : Nat) : Nat :=
  let quotient := numerator / denominator
  let twice := 2 * (numerator % denominator)
  if twice < denominator || (twice = denominator && quotient % 2 = 0) then quotient
  else quotient + 1

/-- The exponent of a base that the first digit of a fraction stands for. -/
def exponent (base numerator denominator : Nat) : Int :=
  if numerator = 0 then 0
  else
    let guess : Int := (magnitude base numerator : Int) - magnitude base denominator
    let isLarge : Bool := if guess ≥ 0 then Nat.pow base guess.toNat * denominator ≤ numerator
      else denominator ≤ numerator * Nat.pow base (-guess).toNat
    if isLarge then guess else guess - 1

/-- A fraction times a power of a base. -/
def scaled (numerator denominator base : Nat) (exponent : Int) : Nat × Nat :=
  if exponent ≥ 0 then (numerator * Nat.pow base exponent.toNat, denominator)
  else (numerator, denominator * Nat.pow base (-exponent).toNat)

/-- The nearest number that has only some bits. -/
def rounded (bits : Nat) : Real → Real
  | .fraction negative numerator denominator =>
    let shift : Int := (bits : Int) - 1 - exponent 2 numerator denominator
    let (n, d) := scaled numerator denominator 2 shift
    let (n, d) := scaled (nearest n d) 1 2 (-shift)
    .fraction negative n d
  | r => r

/-- Whether a number is below zero. -/
def isNegative : Real → Bool
  | fraction negative _ _ | infinite negative | nothing negative => negative

end Real

/-- The exponent after a letter, and what follows it; nothing if there is none. -/
def exponentAfter (letters : List Char) (cs : List Char) : Int × List Char :=
  match cs with
  | c :: rest =>
    if letters.contains c then
      let (negative, after) : Bool × List Char := match rest with
        | '-' :: after => (true, after)
        | '+' :: after => (false, after)
        | after => (false, after)
      if after.head?.any Char.isDigit then
        let (n, after) := inBase 10 after
        let n := Nat.min n 20000
        (if negative then -(n : Int) else n, after)
      else (0, cs)
    else (0, cs)
  | [] => (0, [])

/-- Digits with a point at the beginning of some characters: their value without the point, the
number of them after it, and what follows. -/
def pointed? (base : Nat) (cs : List Char) : Option (Nat × Nat × List Char) :=
  let whole := digits base cs
  let rest := cs.drop whole.length
  let (part, rest) : List Char × List Char := match rest with
    | '.' :: after =>
      let part := digits base after
      if whole.isEmpty && part.isEmpty then ([], rest) else (part, after.drop part.length)
    | rest => ([], rest)
  if whole.isEmpty && part.isEmpty then none
  else some (value base (whole ++ part), part.length, rest)

/-- What follows a word at the beginning of some characters, capitals counting as other letters. -/
def afterWord? (word : String) (cs : List Char) : Option (List Char) :=
  if (cs.take word.length).map Char.toLower = word.toList then some (cs.drop word.length) else none

/-- The real number at the beginning of some characters, and what follows it. -/
def real? (cs : List Char) : Option (Real × List Char) :=
  let (negative, cs) := sign cs
  let decimal : Option (Real × List Char) := (pointed? 10 cs).map fun (n, places, rest) =>
    let (e, rest) := exponentAfter ['e', 'E'] rest
    let (n, d) := Real.scaled n 1 10 (e - places)
    (.fraction negative n d, rest)
  match cs with
  | '0' :: x :: rest =>
    if x = 'x' || x = 'X' then
      match pointed? 16 rest with
      | none => decimal
      | some (n, places, rest) =>
        let (e, rest) := exponentAfter ['p', 'P'] rest
        let (n, d) := Real.scaled n 1 2 (e - 4 * places)
        some (.fraction negative n d, rest)
    else decimal
  | _ =>
    match afterWord? "infinity" cs, afterWord? "inf" cs, afterWord? "nan" cs with
    | some rest, _, _ | none, some rest, _ => some (.infinite negative, rest)
    | none, none, some rest => some (.nothing negative, rest)
    | none, none, none => decimal

end JobControl.Text
