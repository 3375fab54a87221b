import JobControl.Text.Escape
import JobControl.Utility.Operands

/-!
# Other characters for characters

## Main definitions

* `CharacterSet` — what a set of characters is made of.
* `CharacterSet.read` — the set that a text such as `a-z[:digit:]` names.
* `Translation.ofSets` — what a pair of sets does with each character.
* `Utility.tr` — replaces, deletes or squeezes characters.
-/

namespace JobControl

/-- A part of a set of characters. -/
inductive SetPart
  | char (c : Char)
  | range (low high : Char)
  | letterClass (name : String)
  | equivalent (c : Char)
  /-- A character several times, or as often as is needed. -/
  | repeated (c : Char) (count : Option Nat)

namespace SetPart

/-- All characters. -/
def everything : List Char := (List.range 256).map Char.ofNat

/-- The test for a class of characters. -/
def test? (name : String) : Option (Char → Bool) :=
  match name with
  | "alnum" => some Char.isAlphanum
  | "alpha" => some Char.isAlpha
  | "blank" => some fun c => c = ' ' || c = '\t'
  | "cntrl" => some fun c => c < ' ' || c = '\x7f'
  | "digit" => some Char.isDigit
  | "graph" => some fun c => '!' ≤ c && c ≤ '~'
  | "lower" => some Char.isLower
  | "print" => some Quoting.isPrintable
  | "punct" => some fun c => '!' ≤ c && c ≤ '~' && !c.isAlphanum
  | "space" => some Text.isSpace
  | "upper" => some Char.isUpper
  | "xdigit" => some fun c => (Text.digit? c).any (· < 16)
  | _ => none

/-- The characters of a part; one that is repeated as often as is needed is there `count` times. -/
def characters (count : Nat) : SetPart → List Char
  | char c | equivalent c => [c]
  | range low high =>
    (List.range (high.toNat + 1 - low.toNat)).map fun i => Char.ofNat (low.toNat + i)
  | letterClass name => everything.filter ((test? name).getD fun _ => false)
  | repeated c n => List.replicate (n.getD count) c

end SetPart

/-- A set of characters. -/
abbrev CharacterSet := List SetPart

namespace CharacterSet

/-! ### Reading -/

/-- A character of a text, and whether it was written with a backslash. -/
abbrev Mark := Char × Bool

/-- The characters that a text with escapes stands for. -/
def unescaped : Nat → List Char → List Mark
  | 0, _ => []
  | _, [] => []
  | _, ['\\'] => [('\\', false)]
  | n + 1, '\\' :: rest =>
    let digits := Text.digits 8 (rest.take 3)
    let digits := if 255 < Text.value 8 digits then digits.take 2 else digits
    if !digits.isEmpty then
      (Char.ofNat (Text.value 8 digits), true) :: unescaped n (rest.drop digits.length)
    else
      match rest with
      | c :: rest =>
        let meant := if c = 'e' then none else Text.escaped? c
        (meant.getD c, true) :: unescaped n rest
      | [] => []
  | n + 1, c :: rest => (c, false) :: unescaped n rest

/-- What there is to say about the escapes in a text. -/
def warnings : Nat → List Char → List String
  | 0, _ => []
  | _, [] => []
  | _, ['\\'] => ["an unescaped backslash at end of string is not portable"]
  | n + 1, '\\' :: rest =>
    let digits := Text.digits 8 (rest.take 3)
    if 255 < Text.value 8 digits then
      match digits with
      | [a, b, c] =>
        (s!"the ambiguous octal escape \\{a}{b}{c} is being\n\t" ++
          s!"interpreted as the 2-byte sequence \\0{a}{b}, {c}") :: warnings n (rest.drop 2)
      | _ => warnings n rest
    else warnings n (rest.drop (Nat.max 1 digits.length))
  | n + 1, _ :: rest => warnings n rest

/-- Whether a character is there, and not with a backslash. -/
def isMark (c : Char) (mark : Option Mark) : Bool := mark = some (c, false)

/-- Characters up to a closing pair, and what follows it. -/
def upTo? (delimiter : Char) (before : List Char) : List Mark → Option (List Char × List Mark)
  | a :: b :: rest =>
    if a = (delimiter, false) && b = (']', false) then some (before.reverse, rest)
    else upTo? delimiter (a.1 :: before) (b :: rest)
  | _ => none

/-- The characters as they are shown in complaints. -/
def shown (cs : List Char) : String :=
  String.ofList ((cs.map fun c =>
    if c = '\\' then ['\\', '\\']
    else if Quoting.isPrintable c then [c] else Quoting.escaped c).flatten)

/-- The repetition such as `[x*5]` at the beginning of some characters, after the bracket. -/
def repetition? : List Mark → Except String (Option (SetPart × List Mark))
  | c :: ('*', false) :: rest =>
    let inside := rest.takeWhile fun m => !m.2 && m.1 ≠ ']'
    match rest.drop inside.length with
    | (']', false) :: after =>
      let digits := inside.map (·.1)
      let (n, left) := Text.inBase (if digits.head? = some '0' then 8 else 10) digits
      if left.isEmpty then
        .ok (some (.repeated c.1 (if n = 0 then none else some n), after))
      else .error s!"invalid repeat count {Quoting.plain (shown digits)} in [c*n] construct"
    | _ => .ok none
  | _ => .ok none

/-- Whether a star, digits and a closing bracket come next. -/
def isCount (marks : List Mark) : Bool :=
  match marks with
  | ('*', false) :: rest =>
    let digits := rest.takeWhile fun m => m.1.isDigit && !m.2
    isMark ']' (rest.drop digits.length).head?
  | _ => false

/-- The class such as `[:digit:]` or `[=c=]` at the beginning of some characters, after the
bracket. -/
def class? : List Mark → Except String (Option (SetPart × List Mark))
  | (kind, false) :: rest =>
    if kind ≠ ':' && kind ≠ '=' then .ok none
    else
      match upTo? kind [] rest with
      | none => .ok none
      | some (inside, after) =>
        if inside.isEmpty then
          .error (if kind = ':' then "missing character class name '[::]'"
            else "missing equivalence class character '[==]'")
        else if kind = ':' then
          let name := String.ofList inside
          if (SetPart.test? name).isSome then .ok (some (.letterClass name, after))
          else if isCount rest then .ok none
          else .error s!"invalid character class {Quoting.plain (shown inside)}"
        else
          match inside with
          | [c] => .ok (some (.equivalent c, after))
          | _ =>
            if isCount rest then .ok none
            else .error s!"{shown inside}: equivalence class operand must be a single character"
  | _ => .ok none

/-- The parts of a set. -/
def parts : Nat → List Mark → Except String CharacterSet
  | 0, _ => .ok []
  | n + 1, marks => do
    match marks with
    | ('[', false) :: a :: b :: rest =>
      let inside := a :: b :: rest
      match ← class? inside with
      | some (part, after) => return part :: (← parts n after)
      | none =>
        match ← repetition? inside with
        | some (part, after) => return part :: (← parts n after)
        | none => single n marks
    | marks => single n marks
where
  /-- The parts of a set that begins with a character or a range. -/
  single (n : Nat) : List Mark → Except String CharacterSet
    | (low, _) :: ('-', false) :: (high, _) :: rest =>
      if low ≤ high then do return .range low high :: (← parts n rest)
      else
        .error (s!"range-endpoints of '{shown [low]}-{shown [high]}' are in reverse collating " ++
          "sequence order")
    | (c, _) :: rest => do return .char c :: (← parts n rest)
    | [] => .ok []

/-- The set that a text names. -/
def read (text : String) : Except String CharacterSet :=
  parts (text.length + 1) (unescaped (text.length + 1) text.toList)

/-! ### Characters -/

/-- The characters of a set. -/
def characters (count : Nat) (s : CharacterSet) : List Char :=
  (s.map (SetPart.characters count)).flatten

/-- How often a set says that a character is there as often as is needed. -/
def openCount (s : CharacterSet) : Nat :=
  (s.filter fun
    | .repeated _ none => true
    | _ => false).length

/-- Whether a set has a class that a test accepts. -/
def hasClass (s : CharacterSet) (test : String → Bool) : Bool :=
  s.any fun
    | .letterClass name => test name
    | _ => false

end CharacterSet

/-- What is done with each character. -/
abbrev Translation := Char → Char

namespace Translation

/-- A character of a set, with the class of letters that it stands for and whether a part of the set
begins with it. -/
structure Unit where
  char : Char
  /-- Whether it belongs to the capitals or to the other letters as a class. -/
  isUpper? : Option Bool
  isFirst : Bool

/-- The characters of a set, one after the other. -/
def units (count : Nat) (s : CharacterSet) : List Unit :=
  (s.map fun part =>
    let isUpper? := match part with
      | .letterClass "upper" => some true
      | .letterClass "lower" => some false
      | _ => none
    (part.characters count).zipIdx.map fun (char, i) =>
      ({ char, isUpper?, isFirst := i = 0 } : Unit)).flatten

/-- The characters of two sets side by side, classes of letters being one; nothing if they do not
stand side by side. -/
def aligned : List Unit → List Unit → Option (List Unit × List Unit)
  | first, [] => some (first, [])
  | [], b :: second =>
    if b.isFirst && b.isUpper?.isSome then none else some ([], b :: second)
  | a :: first, b :: second =>
    if b.isUpper?.isNone then (aligned first second).map fun (f, s) => (a :: f, b :: s)
    else if !(a.isFirst && a.isUpper?.isSome) then none
    else
      match aligned (first.dropWhile fun u => !u.isFirst)
          (second.dropWhile fun u => !u.isFirst) with
      | some (f, s) => some (a :: f, b :: s)
      | none => none
termination_by first second => first.length + second.length
decreasing_by
  all_goals
    have h₁ := (List.dropWhile_sublist (fun u : Unit => !u.isFirst) (l := first)).length_le
    have h₂ := (List.dropWhile_sublist (fun u : Unit => !u.isFirst) (l := second)).length_le
    simp only [List.length_cons]
    omega

/-- What a pair of characters that stand side by side does with a character. -/
def pair (a b : Unit) (t : Translation) : Translation := fun c =>
  match a.isUpper?, b.isUpper? with
  | some false, some true => if c.isLower then c.toUpper else t c
  | some true, some false => if c.isUpper then c.toLower else t c
  | _, _ => if c = a.char then b.char else t c

/-- What two sets do with each character. -/
def ofUnits (first second : List Unit) : Translation :=
  (first.zip second).foldl (fun t (a, b) => pair a b t) id

/-- A translation as a table. -/
def table (t : Translation) : Array Char := (SetPart.everything.map t).toArray

/-- How sets are used. -/
structure Use where
  isComplement : Bool
  truncates : Bool

/-- What two sets do with each character, or what is wrong with them. -/
def ofSets (u : Use) (first second : CharacterSet) : Except String Translation := do
  let own := first.characters 0
  let chosen := if u.isComplement then SetPart.everything.filter fun c => !own.contains c else own
  if 0 < first.openCount then throw "the [c*] repeat construct may not appear in string1"
  let few := (second.characters 0).length
  let count := chosen.length - few
  if 1 < second.openCount then throw "only one [c*] repeat construct may appear in string2"
  if second.any fun | .equivalent _ => true | _ => false then
    throw "[=c=] expressions may not appear in string2 when translating"
  if second.hasClass fun name => name ≠ "upper" && name ≠ "lower" then
    throw ("when translating, the only character classes that may appear in\n" ++
      "string2 are 'upper' and 'lower'")
  let plain (c : Char) : Unit := { char := c, isUpper? := none, isFirst := true }
  let firstUnits := if u.isComplement then chosen.map plain else units 0 first
  let secondUnits := units count second
  let (a, b) ← if u.isComplement || !second.hasClass (fun _ => true) then
      pure (firstUnits, secondUnits)
    else
      match aligned firstUnits secondUnits with
      | some pair => pure pair
      | none => throw "misaligned [:upper:] and/or [:lower:] construct"
  let b ← if a.length ≤ b.length || u.truncates then pure b
    else
      match b.getLast?, second.getLast? with
      | none, _ => throw "when not truncating set1, string2 must be non-empty"
      | _, some (.letterClass _) =>
        throw ("when translating with string1 longer than string2,\n" ++
          "the latter string must not end with a character class")
      | some last, _ =>
        pure (b ++ List.replicate (a.length - b.length) (plain last.char))
  if u.isComplement && first.hasClass (fun _ => true) then
    let isHomogeneous :=
      b.length = a.length && b.all fun unit => some unit.char = b.head?.map (·.char)
    unless isHomogeneous do
      throw ("when translating with complemented character classes,\n" ++
        "string2 must map all characters in the domain to one")
  return ofUnits a b

end Translation

namespace Utility

/-- What is done with the characters of standard input. -/
structure CharacterWork where
  deletes : Char → Bool
  translates : Array Char
  squeezes : Char → Bool

/-- Characters after the work on them, and the last of them. -/
def CharacterWork.apply (w : CharacterWork) (previous : Option Char) (done : List Char) :
    List Char → Option Char × List Char
  | [] => (previous, done.reverse)
  | c :: rest =>
    if w.deletes c then CharacterWork.apply w previous done rest
    else
      let d := (w.translates[c.toNat]?).getD c
      if previous = some d && w.squeezes d then CharacterWork.apply w previous done rest
      else CharacterWork.apply w (some d) (d :: done) rest

/-- The options of `tr`. -/
def trOptions : Options where
  letters := "cCdst"
  names := [("complement", "c", .nothing), ("delete", "d", .nothing),
    ("squeeze-repeats", "s", .nothing), ("truncate-set1", "t", .nothing)]
  isStrict := true

/-- What is wrong with the number of the operands. -/
def operandProblem? (deletes squeezes : Bool) (operands : List String) :
    Option (String × Option String) :=
  let least := if deletes = squeezes then 2 else 1
  let most := if deletes && !squeezes then 1 else 2
  match operands with
  | [] => some ("missing operand", none)
  | first :: rest =>
    if operands.length < least then
      some (s!"missing operand after {Quoting.plain first}",
        some (if squeezes then "Two strings must be given when both deleting and squeezing repeats."
          else "Two strings must be given when translating."))
    else
      match operands.drop most with
      | [] => none
      | extra :: _ =>
        some (s!"extra operand {Quoting.plain extra}",
          if rest.length = 1 then
            some "Only one string may be given when deleting without squeezing repeats."
          else none)

/-- The work that options and operands ask for. -/
def workOf (found : Options.Found) (texts : List String) : Except String CharacterWork := do
  let isComplement := found.has "c" || found.has "C"
  let sets ← texts.mapM CharacterSet.read
  let first := sets.headD []
  let chosen := first.characters 0
  let isChosen (c : Char) : Bool := chosen.contains c != isComplement
  let tableOf (test : Char → Bool) : Char → Bool :=
    let table := (SetPart.everything.map test).toArray
    fun c => (table[c.toNat]?).getD false
  let same := Translation.table id
  let never : Char → Bool := fun _ => false
  match found.has "d", sets[1]? with
  | deletes, none =>
    if 0 < first.openCount then throw "the [c*] repeat construct may not appear in string1"
    return {
      deletes := if deletes then tableOf isChosen else never
      translates := same
      squeezes := if deletes then never else tableOf isChosen }
  | true, some second =>
    if 0 < first.openCount then throw "the [c*] repeat construct may not appear in string1"
    if 0 < second.openCount then
      throw "the [c*] construct may appear in string2 only when translating"
    let squeezed := second.characters 0
    return {
      deletes := tableOf isChosen, translates := same, squeezes := tableOf squeezed.contains }
  | false, some second =>
    let translation ← Translation.ofSets ⟨isComplement, found.has "t"⟩ first second
    let squeezed := second.characters 1
    return {
      deletes := never
      translates := Translation.table translation
      squeezes := if found.has "s" then tableOf squeezed.contains else never }

/-- Replaces, deletes or squeezes characters of standard input. -/
def tr : Utility := fun name arguments =>
  withOptions trOptions 1 name arguments fun found => do
    match operandProblem? (found.has "d") (found.has "s") found.operands with
    | some (problem, more) =>
      Routine.complain s!"{name}: {problem}\n"
      if let some more := more then Routine.complain s!"{more}\n"
      Routine.complain s!"Try '{name} --help' for more information.\n"
      return 1
    | none => printing name 1 do
      for text in found.operands do
        for warning in CharacterSet.warnings (text.length + 1) text.toList do
          Printer.complain s!"{name}: warning: {warning}\n"
      match workOf found found.operands with
      | .error problem =>
        Printer.complain s!"{name}: {problem}\n"
        return 1
      | .ok work =>
        let step (previous : Option Char) (bytes : ByteArray) : Printer (Option Char × Bool) := do
          let (previous, cs) := work.apply previous [] (Text.ofArray bytes).toList
          Printer.put (String.ofList cs)
          return (previous, true)
        let (_, failure) ← eachPart Fd.standardInput Routine.chunk step none Routine.rounds
        match failure with
        | none => return 0
        | some e =>
          Printer.complain s!"{name}: read error: {e.sentence}\n"
          return 1

end Utility
end JobControl
