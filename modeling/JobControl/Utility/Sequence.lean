import JobControl.Text.Format
import JobControl.Utility.Operands

/-!
# Numbers one after the other

## Main definitions

* `SequenceNumber` — a number as it is written.
* `Utility.seq` — prints numbers.
-/

namespace JobControl

/-- A number with some places after the point. -/
structure SequenceNumber where
  numerator : Int
  denominator : Nat
  places : Nat
  /-- Whether it is written as digits with a point. -/
  isFixed : Bool
  /-- How many characters come before the point. -/
  width : Nat

namespace SequenceNumber

/-- The number that a text spells. -/
def ofText? (text : String) : Option SequenceNumber :=
  match Text.real? text.toList with
  | some (.fraction negative n d, []) =>
    let cs := text.toList.dropWhile Text.isSpace
    let cs := if cs.head? = some '+' then cs.drop 1 else cs
    let isFixed := cs.all fun c => c.isDigit || c = '.' || c = '-'
    let whole := (cs.takeWhile (· ≠ '.')).length
    let places := (cs.drop (whole + 1)).length
    let width := if cs.head? = some '.' || cs.take 2 = ['-', '.'] then whole + 1 else whole
    let numerator : Int := if negative then -(n : Int) else n
    some { numerator, denominator := d, places, isFixed, width }
  | _ => none

end SequenceNumber

namespace Utility

open Routine
open Text (Conversion)

/-- How numbers are printed: by a conversion, between two texts. -/
structure SequenceFormat where
  before : String := ""
  conversion : Conversion
  after : String := ""

namespace SequenceFormat

/-- A fraction as it is printed. -/
def apply (f : SequenceFormat) (numerator : Int) (denominator : Nat) : String :=
  let r : Text.Real := .fraction (numerator < 0) numerator.natAbs denominator
  f.before ++ f.conversion.real 4 (r.rounded 64) ++ f.after

/-- The text before a conversion with the percent signs in it, and the rest. -/
def literal : Nat → List Char → List Char × List Char
  | 0, cs => ([], cs)
  | _, [] => ([], [])
  | n + 1, '%' :: '%' :: rest => (literal n rest).map ('%' :: ·) id
  | _, '%' :: rest => ([], '%' :: rest)
  | n + 1, c :: rest => (literal n rest).map (c :: ·) id

/-- The format that a text names, or what is wrong with it. -/
def ofText (text : String) : Except String SequenceFormat :=
  let problem (what : String) : Except String SequenceFormat :=
    .error s!"format {Quoting.plain text} {what}"
  let (before, rest) := literal (text.length + 1) text.toList
  match rest with
  | [] => problem "has no % directive"
  | _ :: rest =>
    let (flags, rest) := Conversion.flagsOf "-+#0 '" rest
    let (width, rest) := Text.inBase 10 rest
    let (precision, rest) : Option Nat × List Char := match rest with
      | '.' :: rest => (Text.inBase 10 rest).map some id
      | rest => (none, rest)
    let rest := if rest.head? = some 'L' then rest.drop 1 else rest
    match rest with
    | [] => problem "ends in %"
    | letter :: rest =>
      if !"efgaEFGA".toList.contains letter then problem s!"has unknown %{letter} directive"
      else
        let (after, left) := literal (text.length + 1) rest
        if left.isEmpty then
          .ok { before := String.ofList before, after := String.ofList after
                conversion := { flags, width, precision, letter } }
        else problem "has too many % directives"

end SequenceFormat

/-- The options of `seq`. -/
def seqOptions : Options where
  letters := "f:s:w"
  names := [("equal-width", "w", .nothing), ("format", "f", .required),
    ("separator", "s", .required)]
  isStrict := true

/-- The options and the operands of `seq`: an argument that is a number below zero is an operand. -/
def seqArguments : List String → List String
  | [] => []
  | argument :: rest =>
    match argument.toList with
    | '-' :: c :: cs =>
      if c = '.' || c.isDigit then "--" :: argument :: rest
      else if argument = "--" then argument :: rest
      else
        let options : Options := seqOptions
        let (_, next) :=
          if c = '-' then options.named (String.ofList cs) else options.cluster (c :: cs)
        match next, rest with
        | .value _ _, value :: rest => argument :: value :: seqArguments rest
        | _, rest => argument :: seqArguments rest
    | _ => argument :: rest

/-- Prints the numbers from a first to a last one after the other. -/
def printNumbers (f : SequenceFormat) (separator : String) (first step last : Int)
    (denominator : Nat) (isFirst : Bool) : Nat → Printer Unit
  | 0 => return ()
  | n + 1 => do
    if if step < 0 then first < last else last < first then
      unless isFirst do Printer.put "\n"
    else
      Printer.put ((if isFirst then "" else separator) ++ f.apply first denominator)
      printNumbers f separator (first + step) step last denominator false n

/-- How numbers are printed where no format is given. -/
def usualFormat (isWide : Bool) (first step last : SequenceNumber) : SequenceFormat :=
  if first.isFixed && step.isFixed && last.isFixed then
    let places := Nat.max first.places step.places
    let point (n : SequenceNumber) : Nat := if places = 0 then n.width else n.width + 1 + places
    let width := if isWide then Nat.max (point first) (point last) else 0
    { conversion := { flags := ['0'], width, precision := some places, letter := 'f' } }
  else { conversion := { letter := 'g' } }

/-- Prints numbers. -/
def seq : Utility := fun name arguments =>
  withOptions seqOptions 1 name (seqArguments arguments) fun found => do
    let one : SequenceNumber :=
      { numerator := 1, denominator := 1, places := 0, isFixed := true, width := 1 }
    match found.operands with
    | [] => misuse name "missing operand"
    | _ :: _ :: _ :: extra :: _ => misuse name s!"extra operand {Quoting.plain extra}"
    | operands =>
      let format? := (found.value? "f").map SequenceFormat.ofText
      if let some (.error problem) := format? then
        complain s!"{name}: {problem}\n"
        return 1
      if found.has "f" && found.has "w" then
        return ← misuse name "format string may not be specified when printing equal width strings"
      match operands.find? fun text => (SequenceNumber.ofText? text).isNone with
      | some wrong =>
        let problem := match Text.real? wrong.toList with
          | some (.nothing _, []) => "invalid 'not-a-number' argument"
          | _ => "invalid floating point argument"
        misuse name s!"{problem}: {Quoting.plain wrong}"
      | none =>
        let numbers := operands.filterMap SequenceNumber.ofText?
        let (first, step, last) := match numbers with
          | [first, step, last] => (first, step, last)
          | [first, last] => (first, one, last)
          | last :: _ => (one, one, last)
          | [] => (one, one, one)
        if step.numerator = 0 then
          let increment := Quoting.plain (operands[1]?.getD "")
          return ← misuse name s!"invalid Zero increment value: {increment}"
        let format := match format? with
          | some (.ok format) => format
          | _ => usualFormat (found.has "w") first step last
        let d := first.denominator * step.denominator * last.denominator
        let scaled (n : SequenceNumber) : Int := n.numerator * (d / n.denominator : Nat)
        printing name 1 do
          printNumbers format ((found.value? "s").getD "\n") (scaled first) (scaled step)
            (scaled last) d true rounds
          return 0

end Utility
end JobControl
