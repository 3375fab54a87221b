import JobControl.Text.Blank

/-!
# Words of a line

A line is cut into words at blanks.  Quotes and backslashes keep characters inside a word: a
backslash takes the next character as it is except between single quotes, and a quote of the other
kind is an ordinary character between quotes.  An open quote or a last backslash ends with the line.

## Main definitions

* `Quoting` — outside quotes, between single quotes, between double quotes.
* `Token.read q cs` — the rest of a word that goes on in `q`, and what follows the blank ending it.
* `Token.split cs` — all words of `cs`.
* `Token.ofLine s` — the words of a line.
-/

namespace JobControl

/-- What surrounds the next character of a line. -/
inductive Quoting
  | bare
  | single
  | double
  deriving DecidableEq

namespace Token

open Text

/-- Reads on in a word: the characters up to its end, and the line after the blank that ends it. -/
def read : Quoting → List Char → List Char × List Char
  | _, [] => ([], [])
  | .single, '\'' :: cs => read .bare cs
  | .single, c :: cs => ((read .single cs).map (c :: ·) id)
  | _, ['\\'] => ([], [])
  | q, '\\' :: c :: cs => (read q cs).map (c :: ·) id
  | .double, '"' :: cs => read .bare cs
  | .double, c :: cs => (read .double cs).map (c :: ·) id
  | .bare, '\'' :: cs => read .single cs
  | .bare, '"' :: cs => read .double cs
  | .bare, c :: cs => if isBlank c then ([], cs) else (read .bare cs).map (c :: ·) id

/-- Reading on from a nonempty line leaves less of it. -/
theorem length_read_lt (q : Quoting) (cs : List Char) (h : cs ≠ []) :
    (read q cs).2.length < cs.length := by
  have key : ∀ q cs, (read q cs).2.length ≤ cs.length - 1 := by
    intro q cs
    fun_induction read q cs <;> simp_all <;> omega
  have := key q cs
  have : 0 < cs.length := List.length_pos_iff.mpr h
  omega

/-- The words of a line, in order. -/
def split : List Char → List (List Char)
  | [] => []
  | c :: cs =>
    if isBlank c then split cs
    else (read .bare (c :: cs)).1 :: split (read .bare (c :: cs)).2
termination_by cs => cs.length
decreasing_by
  · simp
  · exact length_read_lt _ _ (by simp)

/-- The words of a line. -/
def ofLine (line : String) : List String := (split line.toList).map String.ofList

end Token
end JobControl
