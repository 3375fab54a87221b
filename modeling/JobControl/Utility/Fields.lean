import JobControl.Utility.Operands

/-!
# Parts of lines

## Main definitions

* `PlaceRange` — places one after the other, counted from one.
* `PlaceRange.list` — the ranges that a list such as `1,3-5` names.
* `Utility.cut` — prints parts of lines.
-/

namespace JobControl

/-- Places one after the other, counted from one; without an end if that is not there. -/
structure PlaceRange where
  low : Nat
  high : Option Nat

namespace PlaceRange

/-- Whether a place is in a range. -/
def has (r : PlaceRange) (place : Nat) : Bool :=
  r.low ≤ place && r.high.all fun high => place ≤ high

/-- The greatest number of a place. -/
def greatest : Nat := Nat.pow 2 64 - 1

/-- What is wrong with a list of places: its own text, and whether the places are those of bytes. -/
abbrev Problem := String

/-- The number that digits are. -/
def number (ofBytes : Bool) (digits : List Char) : Except Problem Nat :=
  let n := digits.foldl (fun n c => 10 * n + (c.toNat - '0'.toNat)) 0
  if n < greatest then .ok n
  else
    let kind := if ofBytes then "byte/character offset" else "field number"
    .error s!"{kind} {Quoting.plain (String.ofList digits)} is too large"

/-- The range that a part of a list names; `rest` is the list from there on. -/
def ofPart (ofBytes : Bool) (part rest : List Char) : Except Problem PlaceRange := do
  let isDigit (c : Char) : Bool := c.isDigit
  let first := part.takeWhile isDigit
  let numbered := if ofBytes then "byte/character positions are numbered from 1"
    else "fields are numbered from 1"
  let wrong (after : List Char) : Except Problem PlaceRange :=
    let kind := if ofBytes then "byte/character position" else "field value"
    let text := rest.drop (part.length - after.length)
    .error s!"invalid {kind} {Quoting.plain (String.ofList text)}"
  let low ← number ofBytes first
  match part.drop first.length with
  | [] => if low = 0 then .error numbered else .ok ⟨low, some low⟩
  | '-' :: after =>
    if !first.isEmpty && low = 0 then .error numbered
    else
      let low := if first.isEmpty then 1 else low
      let second := after.takeWhile isDigit
      let high ← number ofBytes second
      match after.drop second.length with
      | [] =>
        if second.isEmpty then
          if first.isEmpty then .error "invalid range with no endpoint: -" else .ok ⟨low, none⟩
        else if high < low then .error "invalid decreasing range"
        else .ok ⟨low, some high⟩
      | '-' :: _ =>
        .error (if ofBytes then "invalid byte or character range" else "invalid field range")
      | after => wrong after
  | after => wrong after

/-- The ranges that a list names. -/
def listFrom (ofBytes : Bool) : Nat → List Char → Except Problem (List PlaceRange)
  | 0, _ => .ok []
  | n + 1, cs => do
    let part := cs.takeWhile fun c => c ≠ ',' && c ≠ ' ' && c ≠ '\t'
    let range ← ofPart ofBytes part cs
    match cs.drop part.length with
    | [] => .ok [range]
    | _ :: rest => return range :: (← listFrom ofBytes n rest)

/-- Ranges in order, those that have places in common being one. -/
def merged : List PlaceRange → List PlaceRange
  | [] => []
  | r :: rest =>
    match merged rest with
    | [] => [r]
    | next :: others =>
      if r.high.all fun high => next.low ≤ high then
        let high := match r.high, next.high with
          | some a, some b => some (Nat.max a b)
          | _, _ => none
        ⟨r.low, high⟩ :: others
      else r :: next :: others

/-- The ranges of the places from one on that are in none of some ranges in order. -/
def complement (start : Nat) : List PlaceRange → List PlaceRange
  | [] => [⟨start, none⟩]
  | r :: rest =>
    let before := if start < r.low then [⟨start, some (r.low - 1)⟩] else []
    match r.high with
    | none => before
    | some high => before ++ complement (high + 1) rest

/-- The ranges that a list names, in order. -/
def list (ofBytes : Bool) (text : String) : Except Problem (List PlaceRange) := do
  let ranges ← listFrom ofBytes (text.length + 1) text.toList
  return merged (ranges.mergeSort fun a b => a.low ≤ b.low)

end PlaceRange

namespace Utility

open Routine

/-- How lines are cut. -/
structure Cut where
  ofBytes : Bool
  ranges : List PlaceRange
  delimiter : Char
  /-- What stands between the parts; nothing if that is what stood there. -/
  between : Option String
  /-- Whether lines without a delimiter are left out. -/
  skipsWhole : Bool
  lineEnd : Char

namespace Cut

/-- The items in the chosen places, with their places. -/
def chosen {α : Type} (c : Cut) (items : List α) : List (α × Nat) :=
  (items.zipIdx 1).filter fun (_, place) => c.ranges.any (·.has place)

/-- The chosen bytes of a line. -/
def bytes (c : Cut) (line : List Char) : List Char :=
  let written : List (Char × Nat) → List Char
    | [] => []
    | (first, _) :: rest => first :: (rest.map fun (byte, place) =>
        let starts := c.ranges.any fun r => r.low = place
        (if starts then (c.between.getD "").toList else []) ++ [byte]).flatten
  written (c.chosen line)

/-- The chosen parts of a line. -/
def part (c : Cut) (line : String) : Option String :=
  if c.ofBytes then some (String.ofList (c.bytes line.toList))
  else
    match line.splitOn c.delimiter.toString with
    | [whole] => if c.skipsWhole then none else some whole
    | fields =>
      let between := c.between.getD c.delimiter.toString
      some (String.intercalate between ((c.chosen fields).map (·.1)))

end Cut

/-- The options of `cut`. -/
def cutOptions : Options where
  letters := "b:c:d:f:nsz"
  names := [("bytes", "b", .required), ("characters", "c", .required), ("fields", "f", .required),
    ("delimiter", "d", .required), ("only-delimited", "s", .nothing),
    ("output-delimiter", "output", .required), ("complement", "complement", .nothing),
    ("zero-terminated", "z", .nothing)]

/-- How options ask for lines to be cut. -/
def cutOf (found : Options.Found) : Except String Cut := do
  let lists := found.chosen.filter fun o => ["b", "c", "f"].contains o.1
  if found.chosen.any fun o => o.1 = "d" && 1 < o.2.length then
    throw "the delimiter must be a single character"
  match lists with
  | [] => throw "you must specify a list of bytes, characters, or fields"
  | (option, text) :: others =>
    if !others.isEmpty then throw "only one list may be specified"
    let ofBytes := option ≠ "f"
    if ofBytes && found.has "d" then
      throw "an input delimiter may be specified only when operating on fields"
    if ofBytes && found.has "s" then
      throw "suppressing non-delimited lines makes sense\n\tonly when operating on fields"
    let ranges ← PlaceRange.list ofBytes text
    return {
      ofBytes
      ranges := if found.has "complement" then PlaceRange.complement 1 ranges else ranges
      delimiter := match found.value? "d" with
        | some text => text.toList.headD '\x00'
        | none => '\t'
      between := (found.value? "output").map fun text => if text = "" then "\x00" else text
      skipsWhole := found.has "s"
      lineEnd := if found.has "z" then '\x00' else '\n' }

/-- Does something with the lines of each file, in the order of the files; the status is `unread` if
one of them cannot be read. -/
def eachLine (name : String) (lineEnd : Char) (unread : Nat) (operands : List String)
    (body : String → Printer Unit) : Printer Nat := do
  let step (_ : Unit) (line : InputLine) : Printer (Unit × Bool) := do
    body line.text
    return ((), true)
  let outcomes ← (inputs operands).mapM fun operand => do
    let failed (e : Errno) : Printer Bool := do
      Printer.complain s!"{name}: {Quoting.subject operand}: {e.sentence}\n"
      return false
    match ← withInput operand fun fd => foldLines fd lineEnd step () with
    | .error e | .ok (_, some e) => failed e
    | .ok (_, none) => return true
  return if outcomes.all id then 0 else unread

/-- Prints parts of lines: fields between delimiters, or bytes. -/
def cut : Utility := fun name arguments =>
  withOptions cutOptions 1 name arguments fun found => do
    match cutOf found with
    | .error problem => misuse name problem
    | .ok c => printing name 1 do
      let status ← eachLine name c.lineEnd 1 found.operands fun line =>
        match c.part line with
        | some part => Printer.put (part ++ c.lineEnd.toString)
        | none => return ()
      Printer.lift (closingInput name "-" 1 (inputs found.operands) status)

end Utility
end JobControl
