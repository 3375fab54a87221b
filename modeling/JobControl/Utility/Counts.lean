import JobControl.Utility.Operands

/-!
# Counting lines, words and bytes

## Main definitions

* `Counts` — what is counted.
* `Counts.add` — what is counted with more bytes.
* `Utility.wc` — counts files.
-/

namespace JobControl

/-- What is counted. -/
structure Counts where
  lines : Nat := 0
  words : Nat := 0
  bytes : Nat := 0
  /-- The width of the widest line. -/
  width : Nat := 0
  /-- The width of the line that has not ended. -/
  current : Nat := 0
  isInWord : Bool := false

namespace Counts

/-- What is counted with another byte.  What cannot be seen is no part of a word. -/
def addByte (c : Counts) (b : UInt8) : Counts :=
  let afterWord : Counts :=
    { c with
      bytes := c.bytes + 1
      words := if c.isInWord then c.words + 1 else c.words
      isInWord := false }
  let afterLine : Counts := { afterWord with width := Nat.max c.width c.current, current := 0 }
  if b = 10 then { afterLine with lines := c.lines + 1 }
  else if b = 13 || b = 12 then afterLine
  else if b = 9 then { afterWord with current := c.current + 8 - c.current % 8 }
  else if b = 32 then { afterWord with current := c.current + 1 }
  else if b = 11 then afterWord
  else if 33 ≤ b && b ≤ 126 then
    { c with bytes := c.bytes + 1, current := c.current + 1, isInWord := true }
  else { c with bytes := c.bytes + 1 }

/-- What is counted with more bytes. -/
def add (c : Counts) (bytes : ByteArray) : Counts := bytes.foldl addByte c

/-- What is counted when nothing more comes. -/
def ended (c : Counts) : Counts :=
  { c with
    words := if c.isInWord then c.words + 1 else c.words, isInWord := false
    width := Nat.max c.width c.current, current := 0 }

/-- What is counted in two files. -/
def total (a b : Counts) : Counts where
  lines := a.lines + b.lines
  words := a.words + b.words
  bytes := a.bytes + b.bytes
  width := Nat.max a.width b.width

end Counts

namespace Utility

/-- The options of `wc`. -/
def wcOptions : Options where
  letters := "clLmw"
  names := [("bytes", "c", .nothing), ("chars", "m", .nothing), ("lines", "l", .nothing),
    ("words", "w", .nothing), ("max-line-length", "L", .nothing),
    ("files0-from", "files0", .required)]

/-- The numbers that options ask for. -/
def chosenCounts (found : Options.Found) (c : Counts) : List Nat :=
  if found.chosen.isEmpty then [c.lines, c.words, c.bytes]
  else
    [("l", c.lines), ("w", c.words), ("m", c.bytes), ("c", c.bytes), ("L", c.width)].filterMap
      fun (option, count) => if found.has option then some count else none

/-- The width of the columns of numbers about some files: as wide as their sizes ask for, and seven
if one of them is no regular file. -/
def countWidth : List String → Nat → Nat → Routine Nat
  | [], size, least => return Nat.max least (toString size).length
  | operand :: rest, size, least => do
    let status ← if operand = "-" then Routine.call (.fileMetadata Fd.standardInput)
      else Routine.call (.metadata operand true)
    match status with
    | .ok status =>
      if status.kind = .regular then countWidth rest (size + status.size) least
      else countWidth rest size 7
    | .error _ => countWidth rest size least

/-- The size of the pages in which files are kept. -/
def pageSize : Nat := 4096

/-- Counts an open file.  Where only the size of a regular file is asked for, the place in it stays
as it is, unless the file fills its pages. -/
def countFile (found : Options.Found) (fd : Fd) : Printer (Counts × Option Errno) := do
  let step (c : Counts) (bytes : ByteArray) : Printer (Counts × Bool) := return (c.add bytes, true)
  let (counts, failure) ← eachPart fd 16384 step {} Routine.rounds
  if found.chosen.all fun option => option.1 = "c" then
    unless found.chosen.isEmpty do
      if let .ok status ← Printer.call (.fileMetadata fd) then
        if status.kind = .regular && status.size % pageSize ≠ 0 then
          let _ ← Printer.call (.seekBack fd counts.bytes)
  return (counts.ended, failure)

/-- A line of numbers. -/
def countRow (width : Nat) (numbers : List Nat) (subject : String) : String :=
  let cells := numbers.map fun n =>
    let digits := toString n
    String.ofList (List.replicate (width - digits.length) ' ') ++ digits
  String.intercalate " " cells ++ subject ++ "\n"

/-- Counts files one after the other; what is counted in all of them, and the status. -/
def countEach (name : String) (found : Options.Found) (width : Nat) (total : Counts)
    (status : Nat) : List String → Printer (Counts × Nat)
  | [] => return (total, status)
  | operand :: rest => do
    match ← withInput operand (countFile found) with
    | .error e =>
      let problem := if operand = "" then "invalid zero-length file name"
        else s!"{Quoting.subject operand}: {e.sentence}"
      Printer.complain s!"{name}: {problem}\n"
      countEach name found width total 1 rest
    | .ok (counts, failure) =>
      if let some e := failure then
        let subject := if found.operands.isEmpty then "standard input" else operand
        Printer.complain s!"{name}: {Quoting.subject subject}: {e.sentence}\n"
      let shown := if operand.toList.contains '\n' then Quoting.subject operand else operand
      Printer.put (countRow width (chosenCounts found counts)
        (if found.operands.isEmpty then "" else " " ++ shown))
      Printer.release
      countEach name found width (total.total counts) (if failure.isSome then 1 else status) rest

/-- Counts lines, words and bytes. -/
def wc : Utility := fun name arguments =>
  withOptions wcOptions 1 name arguments fun found => printing name 1 do
    let operands := inputs found.operands
    let isSingle := operands.length ≤ 1 && (chosenCounts found {}).length ≤ 1
    let width ← if isSingle then pure 1 else Printer.lift (countWidth operands 0 1)
    let (total, status) ← countEach name found width {} 0 operands
    if 1 < operands.length then
      Printer.put (countRow width (chosenCounts found total) " total")
      Printer.release
    Printer.lift (closingInput name "-" 1 operands status)

end Utility
end JobControl
