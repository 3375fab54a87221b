import JobControl.Utility.Fields

/-!
# Lines in order

## Main definitions

* `SortKey`, `SortKey.part` — the part of a line that counts, and how.
* `Sorting.compare` — the order of two lines.
* `Utility.sort`, `Utility.uniq` — lines in order, and without repetitions.
-/

namespace JobControl

/-- A place in a line: a field, and a character in it, both counted from one; zero stands for the
end of the field. -/
structure FieldPlace where
  field : Nat
  character : Nat
  /-- Whether blanks at the beginning of the field do not count. -/
  skipsBlanks : Bool := false

/-- How parts of lines are compared. -/
structure Comparison where
  numeric : Bool := false
  /-- Whether numbers may have exponents, and whether they may have units. -/
  general : Bool := false
  human : Bool := false
  months : Bool := false
  foldsCase : Bool := false
  /-- Whether only blanks, letters and digits count, and whether only what can be seen counts. -/
  dictionary : Bool := false
  printing : Bool := false
  reversed : Bool := false

/-- The part of a line that counts. -/
structure SortKey where
  start : FieldPlace := ⟨1, 1, false⟩
  ending : Option FieldPlace := none
  comparison : Comparison := {}
  /-- Whether it says itself how it is compared. -/
  isOwn : Bool := false

namespace SortKey

/-- Whether a character is blank. -/
def isBlank (c : Char) : Bool := c = ' ' || c = '\t' || c = '\n'

/-- The length of some fields at the beginning of a line; with `separator`, that after the last one
counts if `withLast`. -/
def fieldsLength (separator : Option Char) (withLast : Bool) : Nat → List Char → Nat
  | 0, _ => 0
  | n + 1, cs =>
    match separator with
    | some c =>
      let field := cs.takeWhile (· ≠ c)
      match cs.drop field.length with
      | [] => field.length
      | _ :: rest =>
        if n = 0 && !withLast then field.length
        else field.length + 1 + fieldsLength separator withLast n rest
    | none =>
      let blanks := cs.takeWhile isBlank
      let word := (cs.drop blanks.length).takeWhile fun c => !isBlank c
      let length := blanks.length + word.length
      if length = 0 then 0 else length + fieldsLength separator withLast n (cs.drop length)

/-- The length of the blanks at a place of a line. -/
def blanksAt (cs : List Char) (place : Nat) : Nat := ((cs.drop place).takeWhile isBlank).length

/-- Where the part begins. -/
def first (k : SortKey) (separator : Option Char) (cs : List Char) : Nat :=
  let place := fieldsLength separator true (k.start.field - 1) cs
  let place := if k.start.skipsBlanks then place + blanksAt cs place else place
  Nat.min cs.length (place + (k.start.character - 1))

/-- Where the part ends. -/
def last (k : SortKey) (separator : Option Char) (cs : List Char) : Nat :=
  match k.ending with
  | none => cs.length
  | some ending =>
    if ending.character = 0 then fieldsLength separator false ending.field cs
    else
      let place := fieldsLength separator true (ending.field - 1) cs
      let place := if ending.skipsBlanks then place + blanksAt cs place else place
      Nat.min cs.length (place + ending.character)

/-- The part of a line that counts. -/
def part (k : SortKey) (separator : Option Char) (line : String) : List Char :=
  let cs := line.toList
  let first := k.first separator cs
  (cs.drop first).take (k.last separator cs - first)

end SortKey

namespace Comparison

/-- The number at the beginning of some characters, as a numerator and a denominator. -/
def decimal (cs : List Char) : Int × Nat :=
  let cs := cs.dropWhile SortKey.isBlank
  let (negative, cs) : Bool × List Char := match cs with
    | '-' :: rest => (true, rest)
    | rest => (false, rest)
  let whole := cs.takeWhile Char.isDigit
  let part := match cs.drop whole.length with
    | '.' :: rest => rest.takeWhile Char.isDigit
    | _ => []
  let n := Text.value 10 (whole ++ part)
  (if negative then -(n : Int) else n, Nat.pow 10 part.length)

/-- The order of two fractions. -/
def fractions (a b : Int × Nat) : Ordering := Ord.compare (a.1 * b.2) (b.1 * a.2)

/-- The power of the unit after the number at the beginning of some characters. -/
def unitPower (cs : List Char) : Nat :=
  let cs := cs.dropWhile SortKey.isBlank
  let cs := if cs.head? = some '-' then cs.drop 1 else cs
  let rest := cs.dropWhile fun c => c.isDigit || c = '.'
  match rest with
  | c :: _ => if c = 'k' then 1 else ("KMGTPEZY".toList.idxOf? c).elim 0 (· + 1)
  | [] => 0

/-- The order of two numbers with units. -/
def humans (a b : List Char) : Ordering :=
  let sign (cs : List Char) : Int := (decimal cs).1.sign
  let size (cs : List Char) : Int := sign cs * unitPower cs
  ((Ord.compare (sign a) (sign b)).then (Ord.compare (size a) (size b))).then
    (fractions (decimal a) (decimal b))

/-- A real number in order: what is none comes first. -/
def realRank (cs : List Char) : Int × (Int × Nat) :=
  match Text.real? cs with
  | none => (-3, (0, 1))
  | some (.nothing _, _) => (-2, (0, 1))
  | some (.infinite true, _) => (-1, (0, 1))
  | some (.infinite false, _) => (1, (0, 1))
  | some (.fraction negative n d, _) => (0, (if negative then -(n : Int) else n, d))

/-- The place of a month in the year; zero for what is none. -/
def month (cs : List Char) : Nat :=
  let name := String.ofList (((cs.dropWhile SortKey.isBlank).take 3).map Char.toUpper)
  let months :=
    ["JAN", "FEB", "MAR", "APR", "MAY", "JUN", "JUL", "AUG", "SEP", "OCT", "NOV", "DEC"]
  (months.idxOf? name).elim 0 (· + 1)

/-- The characters that count. -/
def counted (c : Comparison) (cs : List Char) : List Char :=
  let cs := if c.dictionary then cs.filter fun c => SortKey.isBlank c || c.isAlphanum
    else if c.printing then cs.filter Quoting.isPrintable else cs
  if c.foldsCase then cs.map Char.toUpper else cs

/-- The order of two parts of lines. -/
def compare (c : Comparison) (a b : List Char) : Ordering :=
  let order :=
    if c.numeric then fractions (decimal a) (decimal b)
    else if c.general then
      let (m, x) := realRank a
      let (n, y) := realRank b
      (Ord.compare m n).then (fractions x y)
    else if c.human then humans a b
    else if c.months then Ord.compare (month a) (month b)
    else Ord.compare (String.ofList (c.counted a)) (String.ofList (c.counted b))
  if c.reversed then order.swap else order

/-- The letters of a comparison that asks for two things at once. -/
def conflict? (c : Comparison) : Option String :=
  let kinds := [c.numeric, c.general, c.human, c.months, c.dictionary || c.printing].filter id
  let letters := [('d', c.dictionary), ('f', c.foldsCase), ('g', c.general), ('h', c.human),
    ('i', c.printing && !c.dictionary), ('M', c.months), ('n', c.numeric)]
  if 1 < kinds.length then some (String.ofList ((letters.filter (·.2)).map (·.1))) else none

/-- The comparison with what a letter asks for. -/
def withLetter (c : Comparison) : Char → Comparison
  | 'n' => { c with numeric := true }
  | 'g' => { c with general := true }
  | 'h' => { c with human := true }
  | 'M' => { c with months := true }
  | 'f' => { c with foldsCase := true }
  | 'd' => { c with dictionary := true }
  | 'i' => { c with printing := true }
  | 'r' => { c with reversed := true }
  | _ => c

end Comparison

namespace SortKey

/-- The letters of the options of a part. -/
def letters : List Char := "bdfgiMhnRrV".toList

/-- A number at the beginning of some characters, and what follows it. -/
def number? (cs : List Char) : Option (Nat × List Char) :=
  if cs.head?.any Char.isDigit then some (Text.inBase 10 cs) else none

/-- A place with its options, and what follows them. -/
def place? (cs : List Char) (character : Nat) : Option (FieldPlace × List Char × List Char) := do
  let (field, rest) ← number? cs
  let (character, rest) ← match rest with
    | '.' :: rest => number? rest
    | rest => some (character, rest)
  let options := rest.takeWhile letters.contains
  some (⟨field, character, options.contains 'b'⟩, options, rest.drop options.length)

/-- The part that a text such as `2,3n` names, or what is wrong with it. -/
def ofText (text : String) : Except String SortKey :=
  let cs := text.toList
  let invalid (problem : String) : Except String SortKey :=
    .error s!"{problem}: invalid field specification {Quoting.plain text}"
  let count (problem : String) (rest : List Char) : Except String SortKey :=
    .error s!"{problem}: invalid count at start of {Quoting.plain (String.ofList rest)}"
  match place? cs 1 with
  | none => count "invalid number at field start" cs
  | some (start, options, rest) =>
    if start.field = 0 then invalid "field number is zero"
    else if start.character = 0 then invalid "character offset is zero"
    else
      let make (ending : Option FieldPlace) (options : List Char) : SortKey :=
        { start, ending, isOwn := !options.isEmpty
          comparison := options.foldl Comparison.withLetter {} }
      match rest with
      | [] => .ok (make none options)
      | ',' :: after =>
        match place? after 0 with
        | none => count "invalid number after ','" after
        | some (ending, more, left) =>
          if ending.field = 0 then invalid "field number is zero"
          else if left.isEmpty then .ok (make (some ending) (options ++ more))
          else invalid "stray character in field spec"
      | _ => invalid "stray character in field spec"

end SortKey

/-- How lines are put in order. -/
structure Sorting where
  keys : List SortKey
  separator : Option Char
  /-- Whether lines that compare alike are compared as a whole in the end, and whether backwards. -/
  comparesWhole : Bool
  isReversed : Bool

namespace Sorting

/-- The order of two lines by their parts. -/
def byKeys (s : Sorting) (a b : String) : Ordering :=
  s.keys.foldl (fun order key =>
    order.then (key.comparison.compare (key.part s.separator a) (key.part s.separator b))) .eq

/-- The order of two lines. -/
def compare (s : Sorting) (a b : String) : Ordering :=
  let whole := if !s.comparesWhole then .eq
    else if s.isReversed then Ord.compare b a else Ord.compare a b
  (s.byKeys a b).then whole

end Sorting

namespace Utility

open Routine

/-- The content of some files, one after the other; nothing if one of them cannot be read. -/
def readAllInputs (name : String) (lineEnd : Char) :
    List String → Printer (Option (List (List String)))
  | [] => return some []
  | operand :: rest => do
    let failed (what : String) (e : Errno) : Printer (Option (List (List String))) := do
      Printer.complain s!"{name}: {what}: {Quoting.subject operand}: {e.sentence}\n"
      return none
    let opened ← withInput operand fun fd => do
      let metadata ← Printer.call (.fileMetadata fd)
      return (metadata, ← Printer.lift (readAll fd))
    match opened with
    | .error e => failed "cannot read" e
    | .ok (.error e, _) => failed "stat failed" e
    | .ok (_, .error e) => failed "read failed" e
    | .ok (_, .ok bytes) =>
      match ← readAllInputs name lineEnd rest with
      | none => return none
      | some others => return some ((linesOf lineEnd (Text.ofArray bytes)).map (·.text) :: others)

/-- The first of the lines that follow one another and are alike. -/
def distinct (isAlike : String → String → Bool) : List String → List String
  | [] => []
  | line :: rest =>
    line :: match distinct isAlike rest with
      | next :: others => if isAlike line next then others else next :: others
      | [] => []

/-- The options of `sort`. -/
def sortOptions : Options where
  letters := "bcCdfghik:mMno:rRsS:t:T:uVy:z"
  names := [("ignore-leading-blanks", "b", .nothing), ("check", "c", .optional),
    ("dictionary-order", "d", .nothing), ("ignore-case", "f", .nothing),
    ("general-numeric-sort", "g", .nothing), ("human-numeric-sort", "h", .nothing),
    ("ignore-nonprinting", "i", .nothing), ("key", "k", .required), ("merge", "m", .nothing),
    ("month-sort", "M", .nothing), ("numeric-sort", "n", .nothing), ("output", "o", .required),
    ("reverse", "r", .nothing), ("stable", "s", .nothing), ("field-separator", "t", .required),
    ("unique", "u", .nothing), ("zero-terminated", "z", .nothing)]

/-- The order that options ask for. -/
def sortingOf (found : Options.Found) : Except String Sorting := do
  let separator ← match found.value? "t" with
    | none => pure none
    | some text =>
      match text.toList with
      | [] => throw "empty tab"
      | [c] => pure (some c)
      | ['\\', '0'] => pure (some '\x00')
      | _ => throw s!"multi-character tab {Quoting.plain text}"
  let global := (found.chosen.map fun o => o.1.toList.headD ' ').foldl Comparison.withLetter {}
  let skipsBlanks := found.has "b"
  let complete (key : SortKey) : SortKey :=
    if key.isOwn || key.start.skipsBlanks then key
    else { key with
      comparison := global
      start := { key.start with skipsBlanks }
      ending := key.ending.map fun place => { place with skipsBlanks } }
  let keys ← (found.chosen.filter fun o => o.1 = "k").mapM fun o => SortKey.ofText o.2
  let keys := (if keys.isEmpty then [{}] else keys).map complete
  if let some letters := keys.findSome? fun key => key.comparison.conflict? then
    throw s!"options '-{letters}' are incompatible"
  return {
    keys, separator
    comparesWhole := !(found.has "s" || found.has "u")
    isReversed := global.reversed }

/-- The first line that is out of order, with its number; lines that are alike are so too if
`isStrict`. -/
def disorder? (s : Sorting) (isStrict : Bool) (number : Nat) : List String → Option (Nat × String)
  | a :: b :: rest =>
    let order := if isStrict then s.byKeys a b else s.compare a b
    if order = .gt || (isStrict && order = .eq) then some (number + 1, b)
    else disorder? s isStrict (number + 1) (b :: rest)
  | _ => none

/-- Prints the lines of files in order. -/
def sort : Utility := fun name arguments =>
  withOptions sortOptions 2 name arguments fun found => do
    match sortingOf found with
    | .error problem =>
      complain s!"{name}: {problem}\n"
      return 2
    | .ok s => printing name 2 do
      let fail (problem : String) : Printer Nat := do
        Printer.complain s!"{name}: {problem}\n"
        return 2
      let lineEnd := if found.has "z" then '\x00' else '\n'
      let operands := inputs found.operands
      let checks := found.has "c" || found.has "C"
      if found.has "c" && found.has "C" then return ← fail "options '-cC' are incompatible"
      if checks then
        if let extra :: _ := operands.drop 1 then
          let option := if found.has "c" then "-c" else "-C"
          return ← fail s!"extra operand {Quoting.plain extra} not allowed with {option}"
      for operand in operands do
        if operand ≠ "-" then
          if let .error e ← Printer.call (.access operand .read) then
            let what := if checks then "open failed" else "cannot read"
            return ← fail s!"{what}: {Quoting.subject operand}: {e.sentence}"
      match ← readAllInputs name lineEnd operands with
      | none => return 2
      | some files =>
        let lines := files.flatten
        if checks then
          match disorder? s (found.has "u") 1 lines with
          | none => return 0
          | some (number, line) =>
            if found.has "c" then
              let operand := operands.headD "-"
              Printer.complain s!"{name}: {operand}:{number}: disorder: {line}\n"
            return 1
        let inOrder (a b : String) : Bool := (s.compare a b).isLE
        let sorted := if found.has "m" then files.foldl (List.merge · · inOrder) []
          else lines.mergeSort inOrder
        let kept :=
          if found.has "u" then distinct (fun a b => s.byKeys a b = .eq) sorted else sorted
        let text := String.join (kept.map fun line => line ++ lineEnd.toString)
        match found.value? "o" with
        | none =>
          Printer.put text
          return 0
        | some path =>
          match ← Printer.call (.openFile path .overwrite 0o666 true) with
          | .error e =>
            Printer.complain s!"{name}: open failed: {Quoting.subject path}: {e.sentence}\n"
            return 2
          | .ok fd =>
            let _ ← Printer.lift (writeAll fd (Text.octetArray text))
            let _ ← Printer.call (.close fd)
            return 0

/-! ### Repetitions -/

/-- What is compared of each line. -/
structure Repetition where
  fields : Nat
  characters : Nat
  width : Option Nat
  foldsCase : Bool

/-- What is compared of a line. -/
def Repetition.part (r : Repetition) (line : String) : List Char :=
  let rest := line.toList.drop (SortKey.fieldsLength none true r.fields line.toList)
  let rest := rest.drop r.characters
  let rest := match r.width with
    | some width => rest.take width
    | none => rest
  if r.foldsCase then rest.map Char.toUpper else rest

/-- Groups of lines that follow one another and are alike: the first one with what is compared of
it, and the others. -/
structure LineGroup where
  first : String
  part : List Char
  others : List String := []

/-- The options of `uniq`. -/
def uniqOptions : Options where
  letters := "cdDf:is:uw:z"
  names := [("count", "c", .nothing), ("repeated", "d", .nothing), ("all-repeated", "D", .optional),
    ("skip-fields", "f", .required), ("ignore-case", "i", .nothing), ("skip-chars", "s", .required),
    ("unique", "u", .nothing), ("check-chars", "w", .required), ("zero-terminated", "z", .nothing)]

/-- A group of lines as it is printed. -/
def shownGroup (found : Options.Found) (lineEnd : Char) (g : LineGroup) : String :=
  let count := g.others.length + 1
  let ended (line : String) : String := line ++ lineEnd.toString
  if found.has "D" then
    if 1 < count then String.join ((g.first :: g.others.reverse).map ended) else ""
  else if (found.has "d" && count = 1) || (found.has "u" && 1 < count) then ""
  else if found.has "c" then
    let digits := toString count
    String.ofList (List.replicate (7 - digits.length) ' ') ++ digits ++ " " ++ ended g.first
  else ended g.first

/-- What is counted by options, each with what it is called. -/
def countedParts : List (String × String) :=
  [("f", "fields to skip"), ("s", "bytes to skip"), ("w", "bytes to compare")]

/-- What is wrong with the number that an option is given. -/
def checkCount (name option text : String) : Option (Routine Nat) :=
  let refused (what : String) : Routine Nat := do
    complain s!"{name}: {text}: invalid number of {what}\n"
    return 1
  if text ≠ "" && text.toList.all Char.isDigit then none
  else (countedParts.lookup option).map refused

/-- Prints lines without repetitions. -/
def uniq : Utility := fun name arguments =>
  withValues uniqOptions 1 (checkCount name) name arguments fun found => do
      let number? (option : String) : Option Nat := (found.value? option).bind String.toNat?
      if let extra :: _ := found.operands.drop 2 then
        return ← misuse name s!"extra operand {Quoting.plain extra}"
      let lineEnd := if found.has "z" then '\x00' else '\n'
      let r : Repetition :=
        { fields := (number? "f").getD 0, characters := (number? "s").getD 0, width := number? "w"
          foldsCase := found.has "i" }
      if found.has "D" && found.has "c" then
        return ← misuse name "printing all duplicated lines and repeat counts is meaningless"
      let input := found.operands.headD "-"
      let output := found.operands[1]?.getD "-"
      if input ≠ "-" then
        if let .error e ← openAsInput input then
          report name (Quoting.subject input) e
          return 1
      if output ≠ "-" then
        match ← call (.openFile output .overwrite 0o666 true) with
        | .error e =>
          report name (Quoting.subject output) e
          return 1
        | .ok fd =>
          let _ ← call (.duplicate fd Fd.standardOutput)
      printing name 1 do
        let step (group : Option LineGroup) (line : InputLine) :
            Printer (Option LineGroup × Bool) := do
          let part := r.part line.text
          match group with
          | some g =>
            if g.part = part then return (some { g with others := line.text :: g.others }, true)
            else
              Printer.put (shownGroup found lineEnd g)
              return (some { first := line.text, part }, true)
          | none => return (some { first := line.text, part }, true)
        let (group, failure) ← foldLines Fd.standardInput lineEnd step none
        if let some g := group then Printer.put (shownGroup found lineEnd g)
        match failure with
        | none => return 0
        | some e =>
          Printer.complain s!"{name}: error reading {Quoting.always input}: {e.sentence}\n"
          return 1

end Utility
end JobControl
