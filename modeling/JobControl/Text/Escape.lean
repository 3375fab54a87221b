import JobControl.Text.Number

/-!
# Escapes

Characters that are written with a backslash.

## Main definitions

* `Text.escaped?` — the character that a backslash and a letter stand for.
* `Text.code?` — the character that digits stand for.
-/

namespace JobControl.Text

/-- The character that a backslash and a letter stand for. -/
def escaped? : Char → Option Char
  | 'a' => some '\x07'
  | 'b' => some '\x08'
  | 'e' => some '\x1b'
  | 'f' => some '\x0c'
  | 'n' => some '\n'
  | 'r' => some '\r'
  | 't' => some '\t'
  | 'v' => some '\x0b'
  | '\\' => some '\\'
  | _ => none

/-- Whether a character is an octal digit. -/
def isOctal (c : Char) : Bool := '0' ≤ c && c ≤ '7'

/-- The octet that no more than some digits to a base stand for, and what follows them; nothing if
there are none. -/
def code? (base count : Nat) (cs : List Char) : Option (Char × List Char) :=
  let ds := digits base (cs.take count)
  if ds.isEmpty then none else some (Char.ofNat (value base ds % 256), cs.drop ds.length)

end JobControl.Text
