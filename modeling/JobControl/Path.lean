/-!
# Paths

A path is read as the names between its slashes.  A slash at the start makes it start at the root; a
slash at the end asks for a directory.

## Main definitions

* `Path` — a path taken apart.
* `Path.ofText` — the names between the slashes of a text.
* `Path.lastName` — the last of them.
-/

namespace JobControl

/-- A path taken apart. -/
structure Path where
  /-- Whether it starts at the root. -/
  absolute : Bool
  names : List String
  /-- Whether it ends with a slash, and so can only lead to a directory. -/
  slash : Bool

namespace Path

/-- The names between the slashes of a text. -/
def namesFrom (name : List Char) : List Char → List String
  | [] => if name.isEmpty then [] else [String.ofList name.reverse]
  | c :: cs =>
    if c = '/' then
      if name.isEmpty then namesFrom [] cs else String.ofList name.reverse :: namesFrom [] cs
    else namesFrom (c :: name) cs

/-- A path taken apart. -/
def ofText (text : String) : Path where
  absolute := text.toList.head? = some '/'
  names := namesFrom [] text.toList
  slash := text.toList.getLast? = some '/'

/-- The last name of a path, or the path itself if it has none. -/
def lastName (text : String) : String := ((ofText text).names.getLast?).getD text

/-- The longest path that the system takes, in bytes. -/
def maxLength : Nat := 4095

/-- The longest name that the system takes, in bytes. -/
def maxName : Nat := 255

end Path
end JobControl
