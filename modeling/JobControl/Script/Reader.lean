import JobControl.Script.Syntax

/-!
# Reading a script

A script is read character by character, as far as it is there; more of it may come later.  A name
that is an alias is read as what it stands for.

## Main definitions

* `Token` — a smallest part of a command.
* `Reading` — how far a script is read.
* `Reader α` — something read, unless the script is wrong or more of it is needed.
* `Reader.next`, `Reader.peek` — the next character.
-/

namespace JobControl

/-- A smallest part of a command. -/
inductive Token
  | endOfFile
  | newline
  /-- An operator, or a word that is reserved. -/
  | symbol (text : String)
  /-- A redirection, which a word completes. -/
  | redirection (complete : Word → Redirect)
  /-- A text in the script follows after the line, up to a word. -/
  | document (fd : Nat) (stripTabs : Bool)
  /-- A word, and whether some of it is quoted. -/
  | word (word : Word) (isQuoted : Bool)

namespace Token

/-- What a token is called when it should not be there. -/
def name : Token → String
  | endOfFile => "end of file"
  | newline => "newline"
  | symbol text => s!"\"{text}\""
  | redirection _ | document _ _ => "redirection"
  | word _ _ => "word"

/-- Whether a token is an operator or a reserved word. -/
def isSymbol (t : Token) (text : String) : Bool :=
  match t with
  | symbol other => other = text
  | _ => false

end Token

/-- A text in the script that is read at the end of the line. -/
structure PendingDocument where
  number : Nat
  /-- The line that ends it. -/
  ending : String
  stripTabs : Bool
  /-- Whether nothing in it is replaced. -/
  isQuoted : Bool

/-- A character of a script, or the end of what an alias stands for. -/
inductive Glyph
  | char (c : Char)
  | endOfAlias (name value : String)

/-- How far a script is read. -/
structure Reading where
  rest : List Glyph
  /-- Whether nothing comes after the rest. -/
  isAll : Bool
  line : Nat
  /-- What each alias stands for. -/
  aliases : List (String × String) := []
  /-- The aliases that are being read. -/
  active : List String := []
  /-- A token that is read again, and the token read last. -/
  pushed : Option Token := none
  last : Token := .endOfFile
  /-- What the next word may be: a reserved word, an alias, or the end of a text, and whether line
  ends are passed over. -/
  mayBeReserved : Bool := false
  mayBeAlias : Bool := false
  isEnding : Bool := false
  skipsLines : Bool := false
  pending : List PendingDocument := []
  documents : List (Nat × Document) := []
  nextDocument : Nat := 0

/-- Why reading stops. -/
inductive Stop
  /-- Something is wrong in a line. -/
  | wrong (line : Nat) (problem : String)
  /-- More of the script is needed. -/
  | hungry

/-- Reading something of a script. -/
abbrev Reader := StateT Reading (Except Stop)

namespace Reader

/-- Whether a character can be in a name. -/
def isName (c : Char) : Bool := c.isAlphanum || c = '_'

/-- Whether a character can begin a name. -/
def isNameStart (c : Char) : Bool := c.isAlpha || c = '_'

/-- Whether a text is a name. -/
def isGoodName (text : String) : Bool :=
  text.toList.head?.any isNameStart && text.toList.all isName

/-- Complains about the script. -/
def fail {α : Type} (problem : String) : Reader α := fun r =>
  .error (.wrong r.line s!"Syntax error: {problem}")

/-- Complains about the token read last, in whose place another may be expected. -/
def unexpected {α : Type} (expected : Option Token) : Reader α := fun r =>
  let wanted := (expected.map fun t => s!" (expecting {t.name})").getD ""
  fail (r.last.name ++ " unexpected" ++ wanted) r

/-- The glyphs of a text. -/
def glyphs (text : List Char) : List Glyph := text.map .char

/-- The aliases that end here are no longer being read.  After one that ends with a blank the next
word may be an alias, too. -/
def leaveAliases : List Glyph → Reading → Reading
  | .endOfAlias name value :: rest, r =>
    let blank := value.toList.getLast?.any fun c => c = ' ' || c = '\t'
    leaveAliases rest { r with
      rest
      active := r.active.erase name
      mayBeAlias := r.mayBeAlias || blank }
  | rest, r => { r with rest }

/-- The next character, which stays; nothing at the end of the script. -/
def peek : Reader (Option Char) := fun r =>
  let r := leaveAliases r.rest r
  match r.rest with
  | .char c :: _ => .ok (some c, r)
  | _ => if r.isAll then .ok (none, r) else .error .hungry

/-- Goes past the next character. -/
def drop : Reader Unit := modify fun r =>
  match r.rest with
  | .char c :: rest => { r with rest, line := if c = '\n' then r.line + 1 else r.line }
  | _ => r

/-- The next character; nothing at the end of the script. -/
def next : Reader (Option Char) := do
  let c ← peek
  drop
  return c

/-- Puts characters in front of what is left. -/
def unread (text : List Char) : Reader Unit :=
  modify fun r => { r with rest := glyphs text ++ r.rest }

/-- Goes past backslashes at the ends of lines. -/
def joinLines : Nat → Reader Unit
  | 0 => pure ()
  | n + 1 => do
    if (← peek) = some '\\' then
      drop
      if (← peek) = some '\n' then
        drop
        joinLines n
      else unread ['\\']

/-- How often a reader of characters goes round at most. -/
def rounds : Nat := 1000000

/-- The next character, lines that end with a backslash being joined. -/
def peekJoined : Reader (Option Char) := do
  joinLines rounds
  peek

/-- Reads characters while they are of some kind. -/
def takeWhile (holds : Char → Bool) : Nat → Reader (List Char)
  | 0 => return []
  | n + 1 => do
    match ← peekJoined with
    | some c =>
      if holds c then
        drop
        return c :: (← takeWhile holds n)
      else return []
    | none => return []

/-- Goes past characters up to one, which stays, or to the end. -/
def skipTo (last : Char) : Nat → Reader Unit
  | 0 => pure ()
  | n + 1 => do
    match ← peek with
    | none => pure ()
    | some c =>
      if c = last then pure ()
      else
        drop
        skipTo last n

/-- The characters up to one, which goes with them, as it is written. -/
def upTo (last : Char) (problem : String) : Nat → Reader (List Char)
  | 0 => fail problem
  | n + 1 => do
    match ← next with
    | none => fail problem
    | some c => if c = last then return [] else return c :: (← upTo last problem n)

end Reader
end JobControl
