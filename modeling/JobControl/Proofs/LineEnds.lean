import JobControl.Proofs.Quotation

/-!
# The end of a line

A line that is typed or read from a file ends with a line feed, and a line that is given as an
argument does not.  Where the line ends outside quotes, and not on a backslash that escapes nothing,
the line feed separates words like any blank, so both have the same words.  Elsewhere the line feed
belongs to the last word.

## Main definitions

* `Scan` — what the characters read so far make of the next one; `Scan.next` reads a character.
* `Closed line` — the line ends outside quotes, and not on a backslash that escapes nothing.
* `Prolonged s read read'` — what is read of a word, with a line feed at the end of the line and
  without it.

## Main results

* `prolonged_read` — what a line feed at the end makes of a word.
* `ofLine_lineFeed_of_closed`, `ofLine_lineFeed_of_open` — what it makes of the words of a line.
-/

namespace JobControl

open Text
open Quotation (read_escaped read_bare read_blank)

/-- What the characters read so far make of the next one: the quotes around it, and whether a
backslash stands before it. -/
structure Scan where
  quoting : Quoting
  escaped : Bool
  deriving DecidableEq

namespace Scan

/-- Outside quotes. -/
def outside : Scan := ⟨.bare, false⟩

/-- Reads a character. -/
def next (s : Scan) (c : Char) : Scan :=
  if s.escaped then { s with escaped := false }
  else
    match s.quoting with
    | .single => if c = '\'' then outside else s
    | .double => if c = '"' then outside else { s with escaped := c = '\\' }
    | .bare =>
      if c = '\'' then ⟨.single, false⟩
      else if c = '"' then ⟨.double, false⟩
      else { s with escaped := c = '\\' }

/-- Reads some characters. -/
def past (s : Scan) (cs : List Char) : Scan := cs.foldl next s

@[simp] theorem past_cons (s : Scan) (c : Char) (cs : List Char) :
    s.past (c :: cs) = (s.next c).past cs := rfl

/-- A backslash takes the next character as it is, except between single quotes. -/
theorem next_backslash {q : Quoting} (unquoted : q ≠ .single) :
    next ⟨q, false⟩ '\\' = ⟨q, true⟩ := by
  cases q with
  | single => exact absurd rfl unquoted
  | bare | double => rfl

@[simp] theorem next_escaped (q : Quoting) (c : Char) : next ⟨q, true⟩ c = ⟨q, false⟩ := rfl

/-- A backslash at the end escapes nothing. -/
theorem past_escaped_ne_outside (q : Quoting) : past ⟨q, true⟩ [] ≠ outside := by
  intro h
  cases h

theorem next_single {c : Char} (plain : c ≠ '\'') : next ⟨.single, false⟩ c = ⟨.single, false⟩ := by
  simp [next, plain]

theorem next_double {c : Char} (plain : c ≠ '"') (notBackslash : c ≠ '\\') :
    next ⟨.double, false⟩ c = ⟨.double, false⟩ := by
  simp [next, plain, notBackslash]

theorem next_bare {c : Char} (notSingle : c ≠ '\'') (notDouble : c ≠ '"')
    (notBackslash : c ≠ '\\') : next outside c = outside := by
  simp [outside, next, notSingle, notDouble, notBackslash]

/-- A blank outside quotes leaves the next character outside quotes. -/
theorem next_blank {c : Char} (blank : isBlank c = true) : next outside c = outside := by
  have ne : ∀ d, isBlank d = false → c ≠ d := by
    rintro d hd rfl
    cases blank.symm.trans hd
  exact next_bare (ne _ (by decide)) (ne _ (by decide)) (ne _ (by decide))

end Scan

/-- The line ends outside quotes, and not on a backslash that escapes nothing. -/
def Closed (line : String) : Prop := Scan.outside.past line.toList = .outside

instance (line : String) : Decidable (Closed line) := inferInstanceAs (Decidable (_ = _))

/-! ### One word -/

/-- What is read of a word with and without a line feed at the end of the line, where `s` is how the
line ends. -/
inductive Prolonged (s : Scan) : List Char × List Char → List Char × List Char → Prop
  /-- The word ends before. -/
  | parted {word rest : List Char} : Scan.outside.past rest = s →
      Prolonged s (word, rest) (word, rest ++ ['\n'])
  /-- The line feed ends the word. -/
  | ended {word : List Char} : s = .outside → Prolonged s (word, []) (word, [])
  /-- The line feed belongs to the word. -/
  | kept {word : List Char} : s ≠ .outside → Prolonged s (word, []) (word ++ ['\n'], [])

theorem Prolonged.cons {s : Scan} {read read' : List Char × List Char} (h : Prolonged s read read')
    (c : Char) : Prolonged s (read.map (c :: ·) id) (read'.map (c :: ·) id) := by
  cases h with
  | parted same => exact .parted same
  | ended closed => exact .ended closed
  | kept still => exact .kept still

theorem read_single_plain {c : Char} (plain : c ≠ '\'') (rest : List Char) :
    Token.read .single (c :: rest) = (Token.read .single rest).map (c :: ·) id := by
  simp [Token.read]

theorem read_double_plain {c : Char} (plain : c ≠ '"') (notBackslash : c ≠ '\\')
    (rest : List Char) :
    Token.read .double (c :: rest) = (Token.read .double rest).map (c :: ·) id := by
  simp [Token.read, notBackslash]

/-- A character that is neither the last backslash nor one before another character. -/
theorem ne_backslash {c : Char} {cs : List Char} (last : c = '\\' → cs = [] → False)
    (inner : ∀ d ds, c = '\\' → cs = d :: ds → False) : c ≠ '\\' := by
  intro h
  cases cs with
  | nil => exact last h rfl
  | cons d ds => exact inner d ds h rfl

/-- **What a line feed at the end of a line makes of a word.** -/
theorem prolonged_read (q : Quoting) (cs : List Char) :
    Prolonged (Scan.past ⟨q, false⟩ cs) (Token.read q cs) (Token.read q (cs ++ ['\n'])) := by
  fun_induction Token.read q cs with
  | case1 q =>
    cases q with
    | bare => exact .ended rfl
    | single | double => exact @Prolonged.kept _ [] (by decide)
  -- a quote that is closed
  | case2 cs ih | case6 cs ih =>
    rw [List.cons_append, Token.read]
    exact ih
  | case3 c cs plain ih =>
    rw [List.cons_append, read_single_plain plain, Scan.past_cons, Scan.next_single plain]
    exact ih.cons c
  -- a backslash at the end
  | case4 q unquoted =>
    rw [List.cons_append, List.nil_append, read_escaped unquoted, Token.read, Scan.past_cons,
      Scan.next_backslash unquoted]
    exact @Prolonged.kept _ [] (Scan.past_escaped_ne_outside q)
  | case5 q c cs unquoted ih =>
    rw [List.cons_append, List.cons_append, read_escaped unquoted, Scan.past_cons, Scan.past_cons,
      Scan.next_backslash unquoted, Scan.next_escaped]
    exact ih.cons c
  | case7 c cs last inner plain ih =>
    have notBackslash := ne_backslash last inner
    rw [List.cons_append, read_double_plain plain notBackslash, Scan.past_cons,
      Scan.next_double plain notBackslash]
    exact ih.cons c
  -- a quote that is opened
  | case8 cs ih | case9 cs ih =>
    rw [List.cons_append, Token.read]
    exact ih
  | case10 c cs last inner notSingle notDouble blank =>
    rw [List.cons_append, read_blank ⟨c, blank⟩, Scan.past_cons, ← Scan.outside,
      Scan.next_blank blank]
    exact .parted rfl
  | case11 c cs last inner notSingle notDouble notBlank ih =>
    have notBackslash := ne_backslash last inner
    have plain : c ∉ ['\\', '\'', '"'] := by
      simp only [List.mem_cons, List.not_mem_nil, or_false, not_or]
      exact ⟨notBackslash, notSingle, notDouble⟩
    rw [List.cons_append, read_bare (Bool.not_eq_true _ ▸ notBlank) plain, Scan.past_cons,
      ← Scan.outside, Scan.next_bare notSingle notDouble notBackslash]
    exact ih.cons c

/-! ### The words of a line -/

theorem split_blank {c : Char} (blank : isBlank c = true) (cs : List Char) :
    Token.split (c :: cs) = Token.split cs := by
  rw [Token.split, if_pos blank]

theorem split_word_of_notBlank {c : Char} (notBlank : isBlank c = false) (cs : List Char) :
    Token.split (c :: cs) =
      (Token.read .bare (c :: cs)).1 :: Token.split (Token.read .bare (c :: cs)).2 := by
  rw [Token.split, if_neg (by rw [notBlank]; exact Bool.false_ne_true)]

/-- **A line feed after a closed line separates no words.** -/
theorem split_concat_of_closed {cs : List Char} (closed : Scan.outside.past cs = .outside) :
    Token.split (cs ++ ['\n']) = Token.split cs := by
  fun_induction Token.split cs with
  | case1 => rw [List.nil_append, split_blank (c := '\n') (by decide), Token.split]
  | case2 c cs blank ih =>
    rw [Scan.past_cons, Scan.next_blank blank] at closed
    rw [List.cons_append, split_blank blank, ih closed]
  | case3 c cs notBlank ih =>
    have prolonged := prolonged_read .bare (c :: cs)
    rw [← Scan.outside, closed] at prolonged
    rw [List.cons_append, split_word_of_notBlank (Bool.not_eq_true _ ▸ notBlank),
      ← List.cons_append]
    generalize Token.read .bare (c :: cs) = read at prolonged ih
    generalize Token.read .bare (c :: cs ++ ['\n']) = read' at prolonged
    cases prolonged with
    | parted same => exact congrArg _ (ih same)
    | ended _ => rfl
    | kept still => exact absurd rfl still

/-- **A line feed after a line that is not closed belongs to its last word.** -/
theorem split_concat_of_open {cs : List Char} (still : Scan.outside.past cs ≠ .outside) :
    ∃ words last, Token.split cs = words ++ [last] ∧
      Token.split (cs ++ ['\n']) = words ++ [last ++ ['\n']] := by
  fun_induction Token.split cs with
  | case1 => exact absurd rfl still
  | case2 c cs blank ih =>
    rw [Scan.past_cons, Scan.next_blank blank] at still
    rw [List.cons_append, split_blank blank]
    exact ih still
  | case3 c cs notBlank ih =>
    have prolonged := prolonged_read .bare (c :: cs)
    rw [← Scan.outside] at prolonged
    rw [List.cons_append, split_word_of_notBlank (Bool.not_eq_true _ ▸ notBlank),
      ← List.cons_append]
    generalize Token.read .bare (c :: cs) = read at prolonged ih
    generalize Token.read .bare (c :: cs ++ ['\n']) = read' at prolonged
    cases prolonged with
    | @parted word rest same =>
      obtain ⟨words, last, hwords, hlonger⟩ := ih (same ▸ still)
      refine ⟨word :: words, last, congrArg _ hwords, ?_⟩
      exact congrArg (word :: ·) hlonger
    | ended closed => exact absurd closed still
    | @kept word _ => exact ⟨[], word, by rw [Token.split]; rfl, by rw [Token.split]; rfl⟩

variable {line : String}

theorem ofLine_lineFeed_of_closed (closed : Closed line) :
    Token.ofLine (line ++ "\n") = Token.ofLine line := by
  rw [Token.ofLine, Token.ofLine, String.toList_append]
  exact congrArg _ (split_concat_of_closed closed)

theorem ofLine_lineFeed_of_open (still : ¬ Closed line) :
    ∃ words last, Token.ofLine line = words ++ [last] ∧
      Token.ofLine (line ++ "\n") = words ++ [last ++ "\n"] := by
  obtain ⟨words, last, hwords, hlonger⟩ := split_concat_of_open still
  refine ⟨words.map String.ofList, String.ofList last, ?_, ?_⟩
  · rw [Token.ofLine, hwords, List.map_append, List.map_singleton]
  · have more : "\n".toList = ['\n'] := rfl
    rw [Token.ofLine, String.toList_append, more, hlonger, List.map_append, List.map_singleton,
      String.ofList_append]

end JobControl
