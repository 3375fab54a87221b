import JobControl.Machine.Information
import JobControl.Text.Number

/-!
# Names in complaints

A name in a complaint is written so that it can be seen what it is, and often so that it can be
typed.

## Main definitions

* `Quoting.plain` — a text between quotation marks.
* `Quoting.always` — a text as it is typed between quotation marks.
* `Quoting.name`, `Quoting.subject` — a text as it is typed, between quotation marks if it has to
  be.
-/

namespace JobControl.Quoting

/-- Whether a character can be seen. -/
def isPrintable (c : Char) : Bool := ' ' ≤ c && c ≤ '~'

/-- The letter that stands for a character after a backslash. -/
def letter? : Char → Option Char
  | '\x07' => some 'a'
  | '\x08' => some 'b'
  | '\x0c' => some 'f'
  | '\n' => some 'n'
  | '\r' => some 'r'
  | '\t' => some 't'
  | '\x0b' => some 'v'
  | _ => none

/-- A character after a backslash: a letter for it, or its number. -/
def escaped (c : Char) : List Char :=
  '\\' :: match letter? c with
    | some letter => [letter]
    | none => (Machine.octal 3 c.toNat).toList

/-- A text between quotation marks. -/
def plain (text : String) : String :=
  let written (c : Char) : List Char :=
    if c = '\'' || c = '\\' then ['\\', c] else if isPrintable c then [c] else escaped c
  String.ofList ('\'' :: (text.toList.map written).flatten ++ ['\''])

/-! ### As it is typed -/

/-- The characters that mean something where commands are typed. -/
def special : List Char := " !\"$&()*;<=>[^|?'\\".toList ++ ['\x60']

/-- Whether a character has to be between quotation marks; `isFirst` and `isAlone` say where it
stands. -/
def isSpecial (isFirst isAlone : Bool) (c : Char) : Bool :=
  special.contains c || !isPrintable c ||
    (isFirst && (c = '#' || c = '~')) || (isAlone && (c = '\x7b' || c = '\x7d'))

/-- Whether a character means itself between double quotation marks too. -/
def isHarmless (isFirst isAlone : Bool) (c : Char) : Bool :=
  c = ' ' || c = '\'' || c.isAlphanum || "%+,-./:]_@".toList.contains c ||
    (isFirst && (c = '#' || c = '~')) || (isFirst && isAlone && (c = '\x7b' || c = '\x7d'))

/-- Whether all characters of a text pass a test that depends on where they stand. -/
def all (test : Bool → Bool → Char → Bool) (cs : List Char) : Bool :=
  match cs with
  | [] => true
  | c :: rest => test true rest.isEmpty c && rest.all (test false false)

/-- Characters between quotation marks.  Those that cannot be seen are written as numbers; `isOpen`
says that one of them came just before. -/
def inside (isOpen : Bool) : List Char → List Char
  | [] => []
  | c :: rest =>
    if isPrintable c then
      let before := if isOpen then ['\'', '\''] else []
      (if c = '\'' then ['\'', '\\', '\'', '\''] else before ++ [c]) ++ inside false rest
    else (if isOpen then [] else ['\'', '$', '\'']) ++ escaped c ++ inside true rest

/-- A text as it is typed between quotation marks. -/
def always (text : String) : String :=
  let cs := text.toList
  if cs.contains '\'' && all isHarmless cs then "\"" ++ text ++ "\""
  else String.ofList ('\'' :: inside false cs ++ ['\''])

/-- A text as it is typed, between quotation marks if it has to be. -/
def name (text : String) : String :=
  let isPlain := all (fun isFirst isAlone c => !isSpecial isFirst isAlone c) text.toList
  if text ≠ "" && isPlain then text else always text

/-- A text as it is typed, between quotation marks if it has to be or holds a colon. -/
def subject (text : String) : String :=
  if text.toList.contains ':' then always text else name text

end JobControl.Quoting
