/-!
# Blank characters

The characters that separate the words of a line: those with the Unicode property White_Space.

## Main definitions

* `Text.blanks` — the twenty-five blank characters, in order.
* `Text.isBlank c` — whether `c` is one of them.
-/

namespace JobControl.Text

/-- The characters with the property White_Space, in increasing order. -/
def blanks : List Char :=
  ['\t', '\n', '\x0b', '\x0c', '\r', ' ', '\u0085', '\u00a0', '\u1680',
   '\u2000', '\u2001', '\u2002', '\u2003', '\u2004', '\u2005', '\u2006', '\u2007', '\u2008',
   '\u2009', '\u200a', '\u2028', '\u2029', '\u202f', '\u205f', '\u3000']

/-- Whether `c` separates words. -/
def isBlank (c : Char) : Bool := blanks.contains c

theorem isBlank_eq_true_iff {c : Char} : isBlank c = true ↔ c ∈ blanks := by
  simp [isBlank]

/-- The ASCII blanks of the core library are blank. -/
theorem isBlank_of_isWhitespace {c : Char} (h : c.isWhitespace = true) : isBlank c = true := by
  simp only [Char.isWhitespace, Bool.or_eq_true, decide_eq_true_eq] at h
  rcases h with ((rfl | rfl) | rfl) | rfl <;> decide

end JobControl.Text
