import JobControl.Utility.Expression
import JobControl.Utility.Fields

/-!
# Looking for lines

## Main definitions

* `LineTest` — what is asked of each line.
* `Search` — what is done with the lines that are found.
* `Utility.grep` — prints the lines in which an expression is found.
-/

namespace JobControl

/-- What is asked of each line. -/
structure LineTest where
  expressions : List Expression
  isInverted : Bool
  foldsCase : Bool
  isWhole : Bool
  isWord : Bool

namespace LineTest

/-- The places where a match ends that begins at a place, and that may count. -/
def endsAt (t : LineTest) (cs : Array Char) (place : Nat) : List Nat :=
  let all := (t.expressions.map fun e => e.endsAt t.foldsCase cs place).flatten
  let isWord (i : Nat) : Bool := (cs[i]?).any Expression.isWord
  if t.isWhole then if place = 0 then all.filter (· = cs.size) else []
  else if t.isWord then
    if place ≠ 0 && isWord (place - 1) then [] else all.filter fun stop => !isWord stop
  else all

/-- Whether something is found in a line. -/
def passes (t : LineTest) (line : String) : Bool :=
  let cs := line.toList.toArray
  ((List.range (cs.size + 1)).any fun place => !(t.endsAt cs place).isEmpty) != t.isInverted

/-- The parts of a line that are found, each with its place; no part is empty. -/
def parts (t : LineTest) (cs : Array Char) (place : Nat) : Nat → List (Nat × String)
  | 0 => []
  | n + 1 =>
    if cs.size < place then []
    else
      let stop := (t.endsAt cs place).foldl Nat.max 0
      if place < stop then
        (place, String.ofList (cs.extract place stop).toList) :: t.parts cs stop n
      else t.parts cs (place + 1) n

end LineTest

/-- What is done with the lines that are found. -/
structure Search where
  name : String
  test : LineTest
  counts : Bool
  /-- Whether only the names of the files are printed in which something is found, or in which
  nothing is. -/
  names : Bool
  otherNames : Bool
  onlyParts : Bool
  isQuiet : Bool
  isSilent : Bool
  showsName : Bool
  showsNumber : Bool
  showsPlace : Bool
  most : Option Nat
  before : Nat
  after : Nat
  /-- Whether files that are no texts count as texts, or are left out. -/
  asText : Bool
  skipsBinary : Bool
  lineEnd : Char

/-- How far a search in a file has come. -/
structure SearchState where
  number : Nat := 0
  place : Nat := 0
  found : Nat := 0
  /-- The lines before this one that are not printed, the latest first, with their numbers and
  places. -/
  earlier : List (Nat × Nat × String) := []
  /-- How many lines are still printed after one that was found. -/
  toFollow : Nat := 0
  /-- Whether a line was printed, of this file or one before, and the number of the last one of
  this file. -/
  hasPrinted : Bool := false
  lastPrinted : Nat := 0
  isBinary : Bool := false
  hasSaid : Bool := false

namespace Search

/-- The name of a file as it is printed. -/
def shownName (operand : String) : String := if operand = "-" then "(standard input)" else operand

/-- What comes before a line: the name of the file, the number of the line and the place, as
wanted. -/
def leading (s : Search) (operand : String) (mark : String) (number place : Nat) : String :=
  (if s.showsName then shownName operand ++ mark else "") ++
    (if s.showsNumber then toString number ++ mark else "") ++
    (if s.showsPlace then toString place ++ mark else "")

/-- Whether lines are printed. -/
def printsLines (s : Search) : Bool := !(s.counts || s.names || s.otherNames || s.isQuiet)

/-- Prints a line. -/
def printLine (s : Search) (operand mark : String) (number place : Nat) (text : String) :
    Printer Unit :=
  Printer.put (s.leading operand mark number place ++ text ++ s.lineEnd.toString)

/-- Prints what is found of a line. -/
def printFound (s : Search) (operand : String) (state : SearchState) (text : String) :
    Printer Unit := do
  if s.onlyParts then
    unless s.test.isInverted do
      let cs := text.toList.toArray
      for (place, part) in s.test.parts cs 0 (cs.size + 1) do
        s.printLine operand ":" state.number (state.place + place) part
  else s.printLine operand ":" state.number state.place text

/-- Goes on with a line that is found. -/
def onFound (s : Search) (operand : String) (state : SearchState) (text : String) :
    Printer (SearchState × Bool) := do
  let state := { state with found := state.found + 1 }
  let isLast := s.most.any (· ≤ state.found)
  if !s.printsLines then
    return (state, !isLast && s.counts)
  if state.isBinary then
    Printer.put s!"{s.name}: {shownName operand}: binary file matches\n"
    return ({ state with hasSaid := true }, false)
  let first := ((state.earlier.getLast?).map (·.1)).getD state.number
  let isApart := state.hasPrinted && (0 < s.before || 0 < s.after) &&
    (state.lastPrinted = 0 || state.lastPrinted + 1 < first)
  if isApart then Printer.put "--\n"
  unless s.onlyParts do
    for (number, place, line) in state.earlier.reverse do
      s.printLine operand "-" number place line
  s.printFound operand state text
  let state := { state with
    earlier := [], toFollow := s.after, hasPrinted := true, lastPrinted := state.number }
  return (state, !isLast || 0 < s.after)

/-- Goes on with a line. -/
def onLine (s : Search) (operand : String) (state : SearchState) (line : Utility.InputLine) :
    Printer (SearchState × Bool) := do
  let state := { state with number := state.number + 1 }
  let isFull := s.most.any (· ≤ state.found)
  let (state, goesOn) ←
    if !isFull && s.test.passes line.text then s.onFound operand state line.text
    else if 0 < state.toFollow && s.printsLines then
      unless s.onlyParts do s.printLine operand "-" state.number state.place line.text
      let goesOn := !isFull || 1 < state.toFollow
      pure ({ state with toFollow := state.toFollow - 1, lastPrinted := state.number }, goesOn)
    else
      let earlier := ((state.number, state.place, line.text) :: state.earlier).take s.before
      pure ({ state with earlier }, !isFull)
  return ({ state with place := state.place + line.text.length + 1 }, goesOn)

/-- How many bytes are looked at to see whether a file is a text. -/
def sampleSize : Nat := 32768

/-- Looks for lines in an open file. -/
def inFile (s : Search) (operand : String) (hasPrinted : Bool) (fd : Fd) :
    Printer (SearchState × Option Errno) := do
  let part (state : SearchState × List Char × Bool) (bytes : ByteArray) :
      Printer ((SearchState × List Char × Bool) × Bool) := do
    let (state, rest, _) := state
    let cs := (Text.ofArray bytes).toList
    let isBinary := state.isBinary || (!s.asText && s.lineEnd ≠ '\x00' && cs.contains '\x00')
    let state := { state with isBinary }
    if isBinary && s.skipsBinary then return ((state, [], false), false)
    let isEnd (c : Char) : Bool := c = s.lineEnd || (isBinary && c = '\x00')
    let (lines, rest) := Utility.splitLines isEnd rest cs
    let lines := lines.map fun text => ⟨text, true⟩
    let (state, goesOn) ← Utility.eachOf (s.onLine operand) state lines
    return ((state, rest, goesOn), goesOn)
  let start : SearchState := { hasPrinted }
  if s.most = some 0 then return (start, none)
  let ((state, rest, goesOn), failure) ←
    Utility.eachPart fd sampleSize part (start, [], true) Routine.rounds
  if rest.isEmpty || !goesOn then return (state, failure)
  else
    let (state, _) ← s.onLine operand state ⟨String.ofList rest.reverse, false⟩
    return (state, failure)

/-- What came of a search so far: whether something was found, whether all files could be read, and
whether a line was printed. -/
structure Outcome where
  isFound : Bool := false
  isRead : Bool := true
  hasPrinted : Bool := false

/-- Looks for lines in a file, and prints what is wanted. -/
def inOperand (s : Search) (o : Outcome) (operand : String) : Printer Outcome := do
  let failed (e : Errno) : Printer Unit := do
    unless s.isSilent do Printer.complain s!"{s.name}: {shownName operand}: {e.sentence}\n"
  let searched ← Utility.withInput operand fun fd => do
    let metadata ← Printer.call (.fileMetadata fd)
    return (metadata, ← s.inFile operand o.hasPrinted fd)
  match searched with
  | .error e | .ok (.error e, _) =>
    failed e
    return { o with isRead := false }
  | .ok (.ok _, state, failure) =>
    if let some e := failure then failed e
    let isFound := 0 < state.found
    let named := if s.showsName then shownName operand ++ ":" else ""
    unless s.isQuiet do
      if s.counts then Printer.put s!"{named}{state.found}\n"
      if (s.names && isFound) || (s.otherNames && !isFound) then
        Printer.put s!"{shownName operand}\n"
    return {
      isFound := o.isFound || isFound
      isRead := o.isRead && failure.isNone
      hasPrinted := state.hasPrinted }

/-- Looks for lines in files one after the other, no further than needed. -/
def inOperands (s : Search) (o : Outcome) : List String → Printer Outcome
  | [] => return o
  | operand :: rest => do
    if s.isQuiet && o.isFound then return o else s.inOperands (← s.inOperand o operand) rest

end Search

namespace Utility

open Routine

/-- The options of `grep`. -/
def grepOptions : Options where
  letters := "0123456789A:B:C:D:EFGHILPTUVX:abcd:e:f:hiLlm:noqRrsuvwxyZz"
  names := [("after-context", "A", .required), ("before-context", "B", .required),
    ("context", "C", .required), ("extended-regexp", "E", .nothing),
    ("fixed-strings", "F", .nothing),
    ("basic-regexp", "G", .nothing), ("with-filename", "H", .nothing), ("text", "a", .nothing),
    ("byte-offset", "b", .nothing), ("count", "c", .nothing), ("regexp", "e", .required),
    ("file", "f", .required), ("no-filename", "h", .nothing), ("ignore-case", "i", .nothing),
    ("files-without-match", "L", .nothing), ("files-with-matches", "l", .nothing),
    ("max-count", "m", .required), ("line-number", "n", .nothing), ("only-matching", "o", .nothing),
    ("quiet", "q", .nothing), ("silent", "q", .nothing), ("recursive", "r", .nothing),
    ("no-messages", "s", .nothing), ("invert-match", "v", .nothing), ("word-regexp", "w", .nothing),
    ("line-regexp", "x", .nothing), ("null-data", "z", .nothing), ("color", "color", .optional),
    ("colour", "color", .optional), ("no-ignore-case", "no-i", .nothing)]

/-- How `grep` is used; it is called by its last name there. -/
def grepUsage (name : String) : String :=
  let name := String.ofList ((name.toList.reverse.takeWhile (· ≠ '/')).reverse)
  s!"Usage: {name} [OPTION]... PATTERNS [FILE]...\nTry '{name} --help' for more information.\n"

/-- The patterns that options name, or what is wrong. -/
def patternsOf (found : Options.Found) : Routine (Except String (Option (List String))) := do
  let mut patterns : List String := []
  let mut isGiven := false
  for (option, value) in found.chosen do
    if option = "e" then
      patterns := patterns ++ value.splitOn "\n"
      isGiven := true
    if option = "f" then
      isGiven := true
      let (content, _) ← (withInput value fun fd => Printer.lift (readAll fd)).run {}
      match content with
      | .ok (.ok bytes) =>
        patterns := patterns ++ (linesOf '\n' (Text.ofArray bytes)).map (·.text)
      | .ok (.error e) | .error e => return .error s!"{value}: {e.sentence}"
  return .ok (if isGiven then some patterns else none)

/-- The number that an option is given. -/
def contextOf (found : Options.Found) (options : List String) : Except String Nat :=
  match found.chosen.reverse.find? fun o => options.contains o.1 with
  | none => .ok 0
  | some (_, text) =>
    if text ≠ "" && text.toList.all Char.isDigit then .ok (text.toNat?.getD 0)
    else .error s!"{text}: invalid context length argument"

/-- The files in directories, for a search in all of them. -/
def filesBelow (path : String) : Nat → Routine (List String)
  | 0 => pure []
  | depth + 1 => do
    match ← call (.metadata path false) with
    | .ok status =>
      if status.kind = .directory then
        let names := (← call (.entries path)).toOption.getD []
        let files ← names.mapM fun name =>
          filesBelow (if path.endsWith "/" then path ++ name else path ++ "/" ++ name) depth
        return files.flatten
      else if status.kind = .regular then return [path]
      else return []
    | .error _ => return [path]

/-- The search that options ask for. -/
def searchOf (name : String) (found : Options.Found) (expressions : List Expression)
    (operands : List String) : Except String Search := do
  let isRecursive := found.has "r" || found.has "R"
  let digits := found.chosen.filter fun o => o.1.toList.all Char.isDigit
  let lone := if digits.isEmpty then [] else [("C", String.join (digits.map (·.1)))]
  let found := { found with chosen := lone ++ found.chosen }
  let most ← match found.value? "m" with
    | none => pure none
    | some text =>
      if text ≠ "" && text.toList.all Char.isDigit then pure (text.toNat?)
      else if text.startsWith "-" && 1 < text.length then pure none
      else throw "invalid max count"
  let before ← contextOf found ["B", "C"]
  let after ← contextOf found ["A", "C"]
  let naming := found.last? ["H", "h"]
  let counts := found.has "c"
  let last := found.last? ["l", "L"]
  return {
    name
    test := {
      expressions, isInverted := found.has "v", isWhole := found.has "x", isWord := found.has "w"
      foldsCase := found.last? ["i", "y", "no-i"] |>.any (· ≠ "no-i") }
    counts := counts && last.isNone
    names := last = some "l", otherNames := last = some "L"
    onlyParts := found.has "o", isQuiet := found.has "q", isSilent := found.has "s"
    showsName := naming = some "H" || (naming.isNone && (1 < operands.length || isRecursive))
    showsNumber := found.has "n", showsPlace := found.has "b"
    most, before, after
    asText := found.has "a", skipsBinary := found.has "I"
    lineEnd := if found.has "z" then '\x00' else '\n' }

/-- Prints the lines of files in which an expression is found. -/
def grep : Utility := fun name arguments => do
  let found := grepOptions.read arguments
  let fail (problem : String) : Routine Nat := do
    complain s!"{name}: {problem}\n"
    return 2
  if let some problem := found.problem then
    complain s!"{name}: {problem}\n{grepUsage name}"
    return 2
  let kinds := ((found.chosen.map (·.1)).filter ["E", "F", "G", "P"].contains).eraseDups
  if (kinds.contains "F" || kinds.contains "P") && 1 < kinds.length then
    return ← fail "conflicting matchers specified"
  match ← patternsOf found with
  | .error problem => fail problem
  | .ok given =>
    match given, found.operands with
    | none, [] =>
      complain (grepUsage name)
      return 2
    | given, operands =>
      let (patterns, operands) := match given with
        | some patterns => (patterns, operands)
        | none => ((operands.headD "").splitOn "\n", operands.drop 1)
      let isRecursive := found.has "r" || found.has "R"
      let operands := if operands.isEmpty then [if isRecursive then "." else "-"] else operands
      let expressions := patterns.mapM fun pattern =>
        if found.has "F" then .ok (Expression.exactly pattern, [])
        else Expression.read (found.has "E" || found.has "P") pattern
      match expressions with
      | .error problem => fail problem
      | .ok expressions =>
        for (_, warnings) in expressions do
          for warning in warnings do
            complain s!"{name}: {warning}\n"
        match searchOf name found (expressions.map (·.1)) operands with
        | .error problem => fail problem
        | .ok search =>
          let isVain := search.most = some 0 || (search.test.isInverted && patterns = [""] &&
            !search.test.isWhole && !search.test.isWord)
          if isVain && !search.otherNames then return 1
          printing name 2 do
          let all ← if isRecursive then do
              let files ← operands.mapM fun operand => Printer.lift (filesBelow operand 2048)
              pure files.flatten
            else pure operands
          let o ← search.inOperands {} all
          return if o.isFound && (o.isRead || search.isQuiet) then 0 else if o.isRead then 1 else 2

end Utility
end JobControl
