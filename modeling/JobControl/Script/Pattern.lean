/-!
# Patterns of names

In a pattern a star stands for any text, a question mark for any character and brackets for one of
some characters.  A quoted character stands for itself.

## Main definitions

* `PatternCharacter` — a character of a pattern, which may be quoted.
* `Pattern` — the items of a pattern.
* `Pattern.ofCharacters` — the pattern that characters spell.
* `Pattern.accepts` — whether a text has the form of a pattern.
* `Pattern.withoutPrefix`, `Pattern.withoutSuffix` — a text less the part that a pattern accepts.
-/

namespace JobControl

/-- A kind of characters that has a name. -/
structure CharacterClass where
  name : String
  holds : Char → Bool

namespace CharacterClass

/-- Whether a character is a mark: neither blank nor a letter nor a digit, but printed. -/
def isMark (c : Char) : Bool := '!' ≤ c && c ≤ '~' && !c.isAlphanum

/-- Whether a character is white space. -/
def isSpace (c : Char) : Bool := c = ' ' || ('\t' ≤ c && c ≤ '\r')

/-- Whether a character is a digit to the base sixteen. -/
def isHexadecimal (c : Char) : Bool := c.isDigit || ('a' ≤ c && c ≤ 'f') || ('A' ≤ c && c ≤ 'F')

/-- All kinds. -/
def all : List CharacterClass :=
  [⟨"alnum", Char.isAlphanum⟩, ⟨"alpha", Char.isAlpha⟩, ⟨"blank", fun c => c = ' ' || c = '\t'⟩,
   ⟨"cntrl", fun c => c < ' ' || c = '\x7f'⟩, ⟨"digit", Char.isDigit⟩,
   ⟨"graph", fun c => '!' ≤ c && c ≤ '~'⟩, ⟨"lower", Char.isLower⟩,
   ⟨"print", fun c => ' ' ≤ c && c ≤ '~'⟩, ⟨"punct", isMark⟩, ⟨"space", isSpace⟩,
   ⟨"upper", Char.isUpper⟩, ⟨"xdigit", isHexadecimal⟩]

end CharacterClass

/-- A character of a pattern, which stands for itself if it is quoted. -/
structure PatternCharacter where
  char : Char
  quoted : Bool

/-- What may stand between brackets. -/
inductive BracketItem
  | range (low high : Char)
  | kind (kind : CharacterClass)

namespace BracketItem

/-- The place of a character among the others: the later half of the octets comes first. -/
def place (c : Char) : Int := if c.toNat < 128 then c.toNat else (c.toNat : Int) - 256

/-- Whether a character is among those that an item stands for. -/
def accepts (c : Char) : BracketItem → Bool
  | range low high => place low ≤ place c && place c ≤ place high
  | kind k => k.holds c

end BracketItem

/-- An item of a pattern. -/
inductive PatternItem
  | anything
  | one
  | among (negated : Bool) (items : List BracketItem)
  | exactly (c : Char)

/-- A pattern. -/
abbrev Pattern := List PatternItem

namespace Pattern

/-- The kind that is named at the beginning of some characters, and the characters after it. -/
def kind? (cs : List PatternCharacter) : Option (CharacterClass × List PatternCharacter) :=
  CharacterClass.all.findSome? fun kind =>
    let name := s!":{kind.name}:]".toList
    if cs.take name.length |>.map (·.char) |> (· = name) then some (kind, cs.drop name.length)
    else none

/-- The characters with the backslashes taken away that quote. -/
def unescaped : List PatternCharacter → List PatternCharacter
  | ⟨'\\', false⟩ :: c :: cs => ⟨c.char, true⟩ :: unescaped cs
  | c :: cs => c :: unescaped cs
  | [] => []

/-- The items between brackets, and what follows them. -/
def bracketItems (isFirst : Bool) :
    Nat → List PatternCharacter → Option (List BracketItem × List PatternCharacter)
  | 0, _ => none
  | _, [] => none
  | n + 1, c :: cs =>
    if c.char = ']' && !c.quoted && !isFirst then some ([], cs)
    else
      let found? := if c.char = '[' && !c.quoted then kind? cs else none
      match found?, cs with
      | some (kind, rest), _ => (bracketItems false n rest).map (.map (.kind kind :: ·) id)
      | none, ⟨'-', false⟩ :: d :: rest =>
        if d.char = ']' && !d.quoted then
          (bracketItems false n cs).map (.map (.range c.char c.char :: ·) id)
        else (bracketItems false n rest).map (.map (.range c.char d.char :: ·) id)
      | none, cs => (bracketItems false n cs).map (.map (.range c.char c.char :: ·) id)

/-- The pattern that characters spell of which none is a backslash that quotes. -/
def spelled : Nat → List PatternCharacter → Pattern
  | 0, _ => []
  | _, [] => []
  | n + 1, c :: cs =>
    if c.quoted then .exactly c.char :: spelled n cs
    else
      match c.char with
      | '*' => .anything :: spelled n cs
      | '?' => .one :: spelled n cs
      | '[' =>
        let negated := cs.head?.any fun d => d.char = '!' && !d.quoted
        let inner := if negated then cs.drop 1 else cs
        match bracketItems true (inner.length + 1) inner with
        | some (items, rest) => .among negated items :: spelled n rest
        | none => .exactly '[' :: spelled n cs
      | d => .exactly d :: spelled n cs

/-- The pattern that characters spell. -/
def ofCharacters (cs : List PatternCharacter) : Pattern :=
  spelled (cs.length + 1) (unescaped cs)

/-- Whether an item stands for a character. -/
def acceptsOne (c : Char) : PatternItem → Bool
  | .anything => false
  | .one => true
  | .among negated items => (items.any (·.accepts c)) != negated
  | .exactly d => c = d

/-- Whether a text has the form of a pattern. -/
def accepts : Pattern → List Char → Bool
  | [], cs => cs.isEmpty
  | .anything :: items, [] => accepts items []
  | .anything :: items, c :: cs => accepts items (c :: cs) || accepts (.anything :: items) cs
  | _ :: _, [] => false
  | item :: items, c :: cs => acceptsOne c item && accepts items cs
termination_by items cs => items.length + cs.length

/-- A text less its shortest or longest beginning that a pattern accepts. -/
def withoutPrefix (p : Pattern) (longest : Bool) (cs : List Char) : List Char :=
  let lengths := List.range (cs.length + 1)
  let tried := if longest then lengths.reverse else lengths
  match tried.find? fun n => p.accepts (cs.take n) with
  | some n => cs.drop n
  | none => cs

/-- A text less its shortest or longest end that a pattern accepts. -/
def withoutSuffix (p : Pattern) (longest : Bool) (cs : List Char) : List Char :=
  let lengths := List.range (cs.length + 1)
  let tried := if longest then lengths else lengths.reverse
  match tried.find? fun n => p.accepts (cs.drop n) with
  | some n => cs.take n
  | none => cs

end Pattern
end JobControl
