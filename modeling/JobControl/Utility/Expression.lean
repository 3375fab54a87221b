import JobControl.Utility.Characters

/-!
# Regular expressions

## Main definitions

* `Expression` — a regular expression.
* `Expression.ends` — where the texts end that an expression matches.
* `Expression.read` — the expression that a text spells.
* `Expression.exactly` — the expression that matches one text.
-/

namespace JobControl

/-- What one character has to be. -/
inductive CharacterTest
  | any
  | among (negated : Bool) (ranges : List (Char × Char)) (classes : List (Char → Bool))

namespace CharacterTest

/-- Whether a character is a given one. -/
def exactly (c : Char) : CharacterTest := .among false [(c, c)] []

/-- Whether a character passes. -/
def passes (t : CharacterTest) (c : Char) : Bool :=
  match t with
  | any => true
  | among negated ranges classes =>
    let isAmong := ranges.any fun (low, high) => low ≤ c && c ≤ high
    (isAmong || classes.any fun test => test c) != negated

end CharacterTest

/-- A place in a line. -/
inductive Edge
  | start
  | ending
  | wordStart
  | wordEnd
  | word
  | noWord

/-- A regular expression. -/
inductive Expression
  | nothing
  | one (test : CharacterTest)
  | edge (edge : Edge)
  | both (first second : Expression)
  | either (first second : Expression)
  | repeated (inner : Expression) (least : Nat) (most : Option Nat)
  | group (number : Nat) (inner : Expression)
  /-- What a group has matched. -/
  | again (number : Nat)

/-- How far a match has come: a place, and where each group began and ended. -/
structure MatchState where
  place : Nat
  groups : List (Nat × Nat × Nat) := []
  deriving DecidableEq

namespace Expression

/-- Whether a character may be in a word. -/
def isWord (c : Char) : Bool := c.isAlphanum || c = '_'

/-- Whether a place is an edge. -/
def isAt (cs : Array Char) (place : Nat) (e : Edge) : Bool :=
  let before := place ≠ 0 && (cs[place - 1]?).any isWord
  let after := (cs[place]?).any isWord
  match e with
  | .start => place = 0
  | .ending => place = cs.size
  | .wordStart => !before && after
  | .wordEnd => before && !after
  | .word => before != after
  | .noWord => before = after

/-- Whether a character passes a test, in capitals or not if `folds`. -/
def accepts (folds : Bool) (test : CharacterTest) (c : Char) : Bool :=
  test.passes c || (folds && (test.passes c.toLower || test.passes c.toUpper))

/-- Where a step leads that is repeated, from some states; `most` bounds the number of
repetitions. -/
def repeatFrom (step : MatchState → List MatchState) : Nat → Nat → List MatchState → List MatchState
  | 0, least, states => if least = 0 then states else []
  | n + 1, least, states =>
    let next := ((states.map step).flatten).eraseDups
    let next := if least = 0 then next.filter fun state => !states.contains state else next
    (if least = 0 then states else []) ++
      if next.isEmpty then [] else repeatFrom step n (least - 1) next

/-- Where the texts end that an expression matches from a state on. -/
def ends (folds : Bool) (cs : Array Char) : Expression → MatchState → List MatchState
  | nothing, s => [s]
  | one test, s =>
    match cs[s.place]? with
    | some c => if accepts folds test c then [{ s with place := s.place + 1 }] else []
    | none => []
  | edge e, s => if isAt cs s.place e then [s] else []
  | both first second, s => (((ends folds cs first s).map (ends folds cs second)).flatten).eraseDups
  | either first second, s => (ends folds cs first s ++ ends folds cs second s).eraseDups
  | repeated inner least most, s =>
    (repeatFrom (ends folds cs inner) (most.getD (least + cs.size + 1)) least [s]).eraseDups
  | group number inner, s =>
    (ends folds cs inner s).map fun t =>
      { t with groups := (number, s.place, t.place) :: t.groups.filter fun g => g.1 ≠ number }
  | again number, s =>
    match s.groups.lookup number with
    | none => []
    | some (start, stop) =>
      let fold (c : Char) : Char := if folds then c.toLower else c
      let length := stop - start
      let there := (cs.extract s.place (s.place + length)).map fold
      if there = (cs.extract start stop).map fold then [{ s with place := s.place + length }]
      else []

/-- The places where texts end that an expression matches at a place. -/
def endsAt (e : Expression) (folds : Bool) (cs : Array Char) (place : Nat) : List Nat :=
  (e.ends folds cs { place }).map (·.place)

/-- The expression that matches one text. -/
def exactly (text : String) : Expression :=
  text.toList.foldr (fun c e => .both (.one (.exactly c)) e) .nothing

/-! ### Reading -/

/-- How expressions are spelled. -/
structure Spelling where
  /-- Whether operators are written without a backslash. -/
  isExtended : Bool

/-- What is left of a text that spells an expression, and what was found out. -/
structure Reading where
  rest : List Char
  groups : Nat := 0
  /-- How many groups are open. -/
  depth : Nat := 0
  warnings : List String := []

/-- A part of the reading of an expression; it fails with what is wrong. -/
abbrev Reader := StateT Reading (Except String)

/-- What comes next in the spelling of an expression. -/
inductive Part
  | char (c : Char)
  | escape (c : Char)
  | operator (c : Char)
  | nothing

namespace Spelling

/-- The characters that can be operators. -/
def operators : List Char := "(){}|+?".toList

/-- What comes next, and what is left after it. -/
def next (s : Spelling) (cs : List Char) : Except String (Part × List Char) :=
  match cs with
  | [] => .ok (.nothing, [])
  | ['\\'] => .error "Trailing backslash"
  | '\\' :: c :: rest =>
    if operators.contains c && !s.isExtended then .ok (.operator c, rest) else .ok (.escape c, rest)
  | '*' :: rest => .ok (.operator '*', rest)
  | c :: rest =>
    if operators.contains c && s.isExtended then .ok (.operator c, rest) else .ok (.char c, rest)

end Spelling

/-- The characters of a class up to its end, and what follows. -/
def upToEnd (kind : Char) (name : List Char) : List Char → Option (String × List Char)
  | a :: ']' :: rest =>
    if a = kind then some (String.ofList name.reverse, rest)
    else upToEnd kind (a :: name) (']' :: rest)
  | a :: rest => upToEnd kind (a :: name) rest
  | [] => none

/-- What is wrong with brackets that do not end. -/
def openBracket : String := "Unmatched [, [^, [:, [., or [="

/-- One end of a range between brackets, and what follows it. -/
def rangeEnd (cs : List Char) : Except String (Char × List Char) :=
  match cs with
  | '[' :: '.' :: rest =>
    match upToEnd '.' [] rest with
    | some (name, rest) => if name.length = 1 then .ok (name.toList.headD ' ', rest)
        else .error "Invalid collation character"
    | none => .error openBracket
  | c :: rest => .ok (c, rest)
  | [] => .error openBracket

/-- What stands between brackets: ranges and classes, and what follows. -/
def between (isFirst : Bool) :
    Nat → List Char → Except String (List (Char × Char) × List (Char → Bool) × List Char)
  | 0, _ => .error openBracket
  | _, [] => .error openBracket
  | n + 1, '[' :: ':' :: rest =>
    match upToEnd ':' [] rest with
    | none => .error openBracket
    | some (name, rest) =>
      match SetPart.test? name with
      | none => .error "Invalid character class name"
      | some test => do
        let (ranges, classes, rest) ← between false n rest
        return (ranges, test :: classes, rest)
  | n + 1, '[' :: '=' :: rest =>
    match upToEnd '=' [] rest with
    | none => .error openBracket
    | some (name, rest) => do
      let c := name.toList.headD ' '
      let (ranges, classes, rest) ← between false n rest
      return ((c, c) :: ranges, classes, rest)
  | n + 1, cs => do
    if cs.head? = some ']' && !isFirst then return ([], [], cs.drop 1)
    let (low, rest) ← rangeEnd cs
    match rest with
    | '-' :: next :: after =>
      if next = ']' then
        let (ranges, classes, rest) ← between false n rest
        return ((low, low) :: ranges, classes, rest)
      else
        let (high, after) ← rangeEnd (next :: after)
        if high < low then throw "Invalid range end"
        let (ranges, classes, rest) ← between false n after
        return ((low, high) :: ranges, classes, rest)
    | rest =>
      let (ranges, classes, rest) ← between false n rest
      return ((low, low) :: ranges, classes, rest)

/-- The test that stands in brackets, after the first of them. -/
def bracket (cs : List Char) : Except String (CharacterTest × List Char) := do
  let (negated, cs) : Bool × List Char := match cs with
    | '^' :: rest => (true, rest)
    | rest => (false, rest)
  if cs.isEmpty then throw "Invalid regular expression"
  let (ranges, classes, rest) ← between true (cs.length + 1) cs
  return (.among negated ranges classes, rest)

/-- What an escape stands for. -/
def escape (groups : Nat) (c : Char) : Except String Expression :=
  match c with
  | 'w' => .ok (.one (.among false [] [isWord]))
  | 'W' => .ok (.one (.among true [] [isWord]))
  | 's' => .ok (.one (.among false [] [Text.isSpace]))
  | 'S' => .ok (.one (.among true [] [Text.isSpace]))
  | 'b' => .ok (.edge .word)
  | 'B' => .ok (.edge .noWord)
  | '<' => .ok (.edge .wordStart)
  | '>' => .ok (.edge .wordEnd)
  | '\x60' => .ok (.edge .start)
  | '\'' => .ok (.edge .ending)
  | c =>
    if '1' ≤ c && c ≤ '9' then
      let n := c.toNat - '0'.toNat
      if n ≤ groups then .ok (.again n) else .error "Invalid back reference"
    else .ok (.one (.exactly c))

/-- A bound on repetitions at the beginning of some characters, after the opening brace, and what
follows. -/
def bounds? (s : Spelling) (cs : List Char) :
    Except String (Option (Nat × Option Nat × List Char)) := do
  let (least, rest) := Text.inBase 10 cs
  let isLeast := rest.length < cs.length
  let (most, rest) : Option Nat × List Char := match rest with
    | ',' :: after =>
      let (most, left) := Text.inBase 10 after
      (if left.length < after.length then some most else none, left)
    | rest => (some least, rest)
  let isBound := isLeast || cs.head? = some ','
  let after? := match s.isExtended, rest with
    | true, '}' :: after => some after
    | false, '\\' :: '}' :: after => some after
    | _, _ => none
  match after? with
  | some after =>
    if isBound then
      if most.any (· < least) then throw "Invalid content of \\\x7b\\\x7d"
      if 32767 < least || most.any (32767 < ·) then throw "Regular expression too big"
      return some (least, most, after)
    else if s.isExtended then return none else throw "Invalid content of \\\x7b\\\x7d"
  | none =>
    if s.isExtended then return none
    else if rest.isEmpty then throw "Unmatched \\\x7b" else throw "Invalid content of \\\x7b\\\x7d"

/-- The expression with the repetitions that are written after it. -/
def withRepetitions (s : Spelling) (e : Expression) : Nat → Reader Expression
  | 0 => return e
  | n + 1 => do
    match ← s.next (← get).rest with
    | (.operator '*', rest) =>
      modify fun r => { r with rest }
      withRepetitions s (.repeated e 0 none) n
    | (.operator '+', rest) =>
      modify fun r => { r with rest }
      withRepetitions s (.repeated e 1 none) n
    | (.operator '?', rest) =>
      modify fun r => { r with rest }
      withRepetitions s (.repeated e 0 (some 1)) n
    | (.operator '\x7b', rest) =>
      match ← bounds? s rest with
      | some (least, most, rest) =>
        modify fun r => { r with rest }
        withRepetitions s (.repeated e least most) n
      | none => return e
    | _ => return e

/-- Whether what is left may end an alternative, so that a dollar sign there stands for the end of
the line. -/
def mayEnd (s : Spelling) (cs : List Char) : Bool :=
  s.isExtended || match cs with
    | [] => true
    | '\\' :: c :: _ => c = ')' || c = '|'
    | _ => false

mutual

/-- Reads what is between operators, one after the other. -/
def branch (s : Spelling) (isStart : Bool) : Nat → Reader Expression
  | 0 => return .nothing
  | n + 1 => do
    let r ← get
    let go (e : Expression) (rest : List Char) (isStart : Bool) : Reader Expression := do
      modify fun r => { r with rest }
      let e ← withRepetitions s e rest.length
      return .both e (← branch s isStart n)
    let literal (c : Char) (rest : List Char) : Reader Expression :=
      go (.one (.exactly c)) rest false
    match ← s.next r.rest with
    | (.nothing, _) => return .nothing
    | (.operator '|', _) => return .nothing
    | (.operator ')', rest) =>
      if 0 < r.depth then return .nothing
      else if s.isExtended then literal ')' rest
      else throw "Unmatched ) or \\)"
    | (.operator '(', rest) =>
      modify fun r => { r with rest, groups := r.groups + 1, depth := r.depth + 1 }
      let number := r.groups + 1
      let inner ← alternatives s n
      match ← s.next (← get).rest with
      | (.operator ')', rest) =>
        modify fun r => { r with depth := r.depth - 1 }
        go (.group number inner) rest false
      | _ => throw "Unmatched ( or \\("
    | (.operator c, rest) =>
      if c = '\x7b' || c = '\x7d' then
        if !s.isExtended && c = '\x7b' && !isStart then throw "Invalid preceding regular expression"
        else literal c rest
      else if isStart && s.isExtended then
        modify fun r => { r with
          rest, warnings := s!"warning: {c} at start of expression" :: r.warnings }
        branch s true n
      else literal c rest
    | (.escape c, rest) => go (← escape r.groups c) rest false
    | (.char '.', rest) => go (.one .any) rest false
    | (.char '[', rest) =>
      let (test, rest) ← bracket rest
      go (.one test) rest false
    | (.char '^', rest) =>
      if s.isExtended || isStart then
        modify fun r => { r with rest }
        return .both (.edge .start) (← branch s true n)
      else literal '^' rest
    | (.char '$', rest) =>
      if mayEnd s rest then
        modify fun r => { r with rest }
        return .both (.edge .ending) (← branch s isStart n)
      else literal '$' rest
    | (.char c, rest) => literal c rest

/-- Reads alternatives. -/
def alternatives (s : Spelling) : Nat → Reader Expression
  | 0 => return .nothing
  | n + 1 => do
    let first ← branch s true n
    match ← s.next (← get).rest with
    | (.operator '|', rest) =>
      modify fun r => { r with rest }
      return .either first (← alternatives s n)
    | _ => return first

end

/-- Whether a text is a class that stands outside brackets. -/
def isLoneClass (text : String) : Bool :=
  match text.toList, text.toList.reverse with
  | '[' :: kind :: _, ']' :: last :: _ =>
    kind = last && (kind = ':' || kind = '=' || kind = '.') && 4 < text.length
  | _, _ => false

/-- The expression that a text spells, with warnings, or what is wrong with it. -/
def read (isExtended : Bool) (text : String) : Except String (Expression × List String) := do
  if isLoneClass text then
    throw "character class syntax is [[:space:]], not [:space:]"
  let cs := text.toList
  let (e, r) ← (alternatives ⟨isExtended⟩ (2 * cs.length + 2)).run { rest := cs }
  return (e, r.warnings.reverse)

end Expression
end JobControl
