import JobControl.Utility.Operands

/-!
# Utilities that copy streams

## Main definitions

* `Utility.cat` — copies files to standard output.
* `Utility.tee` — copies standard input to files.
-/

namespace JobControl.Utility

open Routine

/-! ### Showing what is copied -/

/-- How a text is shown. -/
structure Display where
  /-- Whether lines are numbered, and whether empty ones are too. -/
  numbers : Bool
  numbersEmpty : Bool
  /-- Whether of several empty lines only the first is shown. -/
  squeezes : Bool
  /-- Whether line ends, tabs and other characters that cannot be seen are shown. -/
  showsEnds : Bool
  showsTabs : Bool
  showsOthers : Bool

/-- Where in a text the display is. -/
structure DisplayState where
  number : Nat := 0
  /-- Whether the line has begun, and how many empty lines came before it. -/
  isInside : Bool := false
  emptyLines : Nat := 0
  /-- Whether a carriage return has not been shown yet. -/
  hasReturn : Bool := false

namespace Display

/-- Whether nothing is shown in another way. -/
def isPlain (d : Display) : Bool :=
  !(d.numbers || d.squeezes || d.showsEnds || d.showsTabs || d.showsOthers)

/-- A character that can hardly be seen, so that it can. -/
def visible (c : Char) : List Char :=
  let small (n : Nat) : List Char :=
    if n < 32 then ['^', Char.ofNat (n + 64)] else if n = 127 then ['^', '?'] else [Char.ofNat n]
  if c.toNat < 128 then small c.toNat else 'M' :: '-' :: small (c.toNat - 128)

/-- The number in front of the next line. -/
def lineNumber (s : DisplayState) : DisplayState × List Char :=
  let digits := toString (s.number + 1)
  ({ s with number := s.number + 1 },
    List.replicate (6 - digits.length) ' ' ++ digits.toList ++ ['\t'])

/-- A line end as it is shown. -/
def lineEnd (d : Display) (s : DisplayState) : DisplayState × List Char :=
  let s := { s with
    isInside := false, hasReturn := false
    emptyLines := if s.isInside then 0 else s.emptyLines + 1 }
  if d.squeezes && s.emptyLines ≥ 2 then (s, [])
  else
    let (s, number) :=
      if s.emptyLines > 0 && d.numbers && d.numbersEmpty then lineNumber s else (s, [])
    (s, number ++ (if d.showsEnds then ['$'] else []) ++ ['\n'])

/-- A character inside a line as it is shown. -/
def inside (d : Display) (s : DisplayState) (c : Char) : DisplayState × List Char :=
  let (s, number) := if !s.isInside && d.numbers then lineNumber s else (s, [])
  let s := { s with isInside := true }
  if c = '\t' then (s, number ++ if d.showsTabs then ['^', 'I'] else ['\t'])
  else if d.showsOthers then (s, number ++ visible c)
  else if c = '\r' && d.showsEnds then ({ s with hasReturn := true }, number)
  else (s, number ++ [c])

/-- The next character as it is shown. -/
def next (d : Display) (s : DisplayState) (c : Char) : DisplayState × List Char :=
  if c = '\n' then
    let (after, shown) := d.lineEnd s
    (after, (if s.hasReturn then ['^', 'M'] else []) ++ shown)
  else
    let (after, shown) := d.inside { s with hasReturn := false } c
    (after, (if s.hasReturn then ['\r'] else []) ++ shown)

/-- Characters as they are shown; `shown` is what comes before, the last part first. -/
def all (d : Display) (s : DisplayState) (shown : List (List Char)) :
    List Char → DisplayState × List Char
  | [] => (s, shown.reverse.flatten)
  | c :: cs =>
    let (s, more) := d.next s c
    all d s (more :: shown) cs

/-- The display that options ask for. -/
def ofOptions (found : Options.Found) : Display where
  numbers := found.has "n" || found.has "b"
  numbersEmpty := !found.has "b"
  squeezes := found.has "s"
  showsEnds := found.has "E" || found.has "e" || found.has "A"
  showsTabs := found.has "T" || found.has "t" || found.has "A"
  showsOthers := found.has "v" || found.has "e" || found.has "t" || found.has "A"

end Display

/-! ### Copying -/

/-- How a file was copied. -/
inductive CopyEnd
  | done
  | unread (e : Errno)
  | unwritten (e : Errno)

/-- How much is read at a time. -/
def copyChunk : Nat := 131072

/-- Copies a file to standard output as it comes. -/
def copy (d : Display) (fd : Fd) (s : DisplayState) : Nat → Routine (DisplayState × CopyEnd)
  | 0 => pure (s, .done)
  | n + 1 => do
    match ← call (.read fd copyChunk) with
    | .error e => return (s, .unread e)
    | .ok bytes =>
      if bytes.isEmpty then return (s, .done)
      else
        let (s, shown) :=
          if d.isPlain then (s, bytes)
          else
            let (s, cs) := d.all s [] (Text.ofArray bytes).toList
            (s, Text.octetArray (String.ofList cs))
        match ← writeAll Fd.standardOutput shown with
        | .error e => return (s, .unwritten e)
        | .ok () => copy d fd s n

/-- Whether an open file is the one that standard output is written to, and there is something in it
that would be copied. -/
def copiesItself (fd : Fd) : Routine Bool := do
  match ← call (.fileMetadata fd), ← call (.fileMetadata Fd.standardOutput) with
  | .ok source, .ok target =>
    if source.kind = .regular && target.kind = .regular && source.ino = target.ino then
      match ← call (.read fd 1) with
      | .ok bytes =>
        let _ ← call (.seekBack fd bytes.size)
        return !bytes.isEmpty
      | .error _ => return false
    else return false
  | _, _ => return false

/-- The options of `cat`. -/
def catOptions : Options where
  letters := "benstuvAET"
  names := [("number-nonblank", "b", .nothing), ("number", "n", .nothing),
    ("squeeze-blank", "s", .nothing), ("show-nonprinting", "v", .nothing),
    ("show-ends", "E", .nothing), ("show-tabs", "T", .nothing), ("show-all", "A", .nothing)]

/-- Copies an operand; nothing if what is copied cannot be written. -/
def copyOperand (name : String) (d : Display) (s : DisplayState) (operand : String) :
    Routine (Option (DisplayState × Bool)) := do
  let failed (e : Errno) : Routine (Option (DisplayState × Bool)) := do
    report name (Quoting.subject operand) e
    return some (s, false)
  let opened ← if operand = "-" then pure (.ok Fd.standardInput)
    else call (.openFile operand .read 0 true)
  match opened with
  | .error e => failed e
  | .ok fd =>
    if ← copiesItself fd then
      complain s!"{name}: {Quoting.subject operand}: input file is output file\n"
      return some (s, false)
    let (s, ending) ← copy d fd s rounds
    if operand ≠ "-" then
      let _ ← call (.close fd)
    match ending with
    | .done => return some (s, true)
    | .unread e =>
      report name (Quoting.subject operand) e
      return some (s, false)
    | .unwritten e =>
      report name "write error" e
      return none

/-- Copies operands one after the other; the status, or nothing if what is copied cannot be
written. -/
def copyAll (name : String) (d : Display) (s : DisplayState) (status : Nat) :
    List String → Routine (Option Nat)
  | [] => do
    if s.hasReturn then say "\r"
    return some status
  | operand :: rest => do
    match ← copyOperand name d s operand with
    | none => return none
    | some (s, isCopied) => copyAll name d s (if isCopied then status else 1) rest

/-- Copies files to standard output. -/
def cat : Utility := fun name arguments =>
  withOptions catOptions 1 name arguments fun found => do
    if let .error e ← call (.fileMetadata Fd.standardOutput) then
      report name "standard output" e
      return 1
    let operands := inputs found.operands
    match ← copyAll name (Display.ofOptions found) {} 0 operands with
    | none => return 1
    | some status => closingInput name "closing standard input" 1 operands status

/-! ### Copying to several files -/

/-- Writes bytes to files; those that can be written, and whether all could. -/
def writeEach (name : String) (bytes : ByteArray) :
    List (String × Fd) → Routine (List (String × Fd) × Bool)
  | [] => pure ([], true)
  | (subject, fd) :: rest => do
    let written ← writeAll fd bytes
    let (others, all) ← writeEach name bytes rest
    match written with
    | .ok () => return ((subject, fd) :: others, all)
    | .error e =>
      report name (Quoting.subject subject) e
      return (others, false)

/-- Copies standard input to files as it comes; whether that succeeds. -/
def copyToEach (name : String) (files : List (String × Fd)) (succeeds : Bool) : Nat → Routine Bool
  | 0 => pure succeeds
  | n + 1 => do
    match ← call (.read Fd.standardInput 8192) with
    | .error e =>
      report name "read error" e
      return false
    | .ok bytes =>
      if bytes.isEmpty || files.isEmpty then return succeeds
      else
        let (files, all) ← writeEach name bytes files
        copyToEach name files (succeeds && all) n

/-- The options of `tee`. -/
def teeOptions : Options where
  letters := "aip"
  names := [("append", "a", .nothing), ("ignore-interrupts", "i", .nothing),
    ("output-error", "p", .optional)]

/-- Copies standard input to files and to standard output. -/
def tee : Utility := fun name arguments =>
  withOptions teeOptions 1 name arguments fun found => do
    if found.has "i" then
      let _ ← call (.setHandling .int .ignore)
    let mode := if found.has "a" then OpenMode.append else .overwrite
    let opened ← found.operands.mapM fun operand => do
      match ← call (.openFile operand mode 0o666 true) with
      | .ok fd =>
        if Fd.standardError < fd then return some (operand, fd)
        let copied ← call (.duplicateFrom fd (Fd.standardError + 1))
        let _ ← call (.close fd)
        return copied.toOption.map fun fd => (operand, fd)
      | .error e =>
        report name (Quoting.subject operand) e
        return none
    let files := ("standard output", Fd.standardOutput) :: opened.filterMap id
    let succeeds ← copyToEach name files (opened.all (·.isSome)) rounds
    closingInput name "standard input" 1 ["-"] (if succeeds then 0 else 1)

end JobControl.Utility
