import JobControl.Token

/-!
# Written words

A word can be written in many ways: its characters one by one, as they are or behind backslashes, or
in runs between quotes of either kind, and all of these side by side.  A line is such words with
blanks between them.  Whichever way is chosen, the words of the line are the ones that were meant.

## Main definitions

* `Segment` — a part of a written word; `Segment.written` and `Segment.meant` are its characters in
  the line and those that it stands for.
* `WrittenWord` — a word as it is written, in one or more segments.
* `WrittenLine` — a line as it is written: words, and blanks around them.

## Main results

* `Quotation.read_segment` — a segment is read as what it stands for.
* `Quotation.ofLine_text` — **the words of a line are those that were written, in any way; and all
  words can be written.**
-/

namespace JobControl.Quotation

open Text

/-- A character between double quotes. -/
inductive DoubleQuoted
  | plain (c : Char) (notBackslash : c ≠ '\\') (notQuote : c ≠ '"')
  | escaped (c : Char)

namespace DoubleQuoted

/-- The characters of the line. -/
def written : DoubleQuoted → List Char
  | plain c _ _ => [c]
  | escaped c => ['\\', c]

/-- The character that is meant. -/
def meant : DoubleQuoted → Char
  | plain c _ _ => c
  | escaped c => c

end DoubleQuoted

/-- A part of a written word. -/
inductive Segment
  /-- A character that neither separates words nor quotes anything. -/
  | bare (c : Char) (notBlank : isBlank c = false) (plain : c ∉ ['\\', '\'', '"'])
  | escaped (c : Char)
  | single (cs : List Char) (closed : '\'' ∉ cs)
  | double (cs : List DoubleQuoted)

namespace Segment

/-- The characters of the line. -/
def written : Segment → List Char
  | bare c _ _ => [c]
  | escaped c => ['\\', c]
  | single cs _ => '\'' :: cs ++ ['\'']
  | double cs => '"' :: cs.flatMap DoubleQuoted.written ++ ['"']

/-- The characters that are meant. -/
def meant : Segment → List Char
  | bare c _ _ => [c]
  | escaped c => [c]
  | single cs _ => cs
  | double cs => cs.map DoubleQuoted.meant

end Segment

/-- A word as it is written. -/
structure WrittenWord where
  segments : List Segment
  nonempty : segments ≠ []

namespace WrittenWord

/-- The characters of the line. -/
def written (w : WrittenWord) : List Char := w.segments.flatMap Segment.written

/-- The characters that are meant. -/
def meant (w : WrittenWord) : List Char := w.segments.flatMap Segment.meant

end WrittenWord

/-- A character that separates words. -/
structure Blank where
  char : Char
  blank : isBlank char = true

/-- A line as it is written: words with one or more blanks between them, and any blanks before and
after them. -/
inductive WrittenLine
  | done
  | blank (b : Blank) (rest : WrittenLine)
  | last (w : WrittenWord)
  | word (w : WrittenWord) (b : Blank) (rest : WrittenLine)

namespace WrittenLine

/-- The characters of the line. -/
def written : WrittenLine → List Char
  | done => []
  | blank b rest => b.char :: rest.written
  | last w => w.written
  | word w b rest => w.written ++ b.char :: rest.written

/-- The words that are meant, in order. -/
def meant : WrittenLine → List (List Char)
  | done => []
  | blank _ rest => rest.meant
  | last w => [w.meant]
  | word w _ rest => w.meant :: rest.meant

/-- The line. -/
def text (l : WrittenLine) : String := String.ofList l.written

/-- The words of the line. -/
def words (l : WrittenLine) : List String := l.meant.map String.ofList

end WrittenLine

/-! ### Reading a word -/

/-- Characters before characters before what was read. -/
theorem map_append_map_append (cs ds : List Char) (read : List Char × List Char) :
    (read.map (ds ++ ·) id).map (cs ++ ·) id = read.map ((cs ++ ds) ++ ·) id := by
  simp only [Prod.map, id, List.append_assoc]

theorem read_escaped {q : Quoting} (unquoted : q ≠ .single) (c : Char) (rest : List Char) :
    Token.read q ('\\' :: c :: rest) = (Token.read q rest).map (c :: ·) id := by
  cases q with
  | single => exact absurd rfl unquoted
  | bare | double => simp [Token.read]

theorem read_bare {c : Char} (notBlank : isBlank c = false) (plain : c ∉ ['\\', '\'', '"'])
    (rest : List Char) :
    Token.read .bare (c :: rest) = (Token.read .bare rest).map (c :: ·) id := by
  simp only [List.mem_cons, List.not_mem_nil, or_false, not_or] at plain
  simp [Token.read, plain, notBlank]

theorem Blank.ne (b : Blank) {c : Char} (notBlank : isBlank c = false) : b.char ≠ c := by
  rintro rfl
  rw [b.blank] at notBlank
  cases notBlank

/-- A blank outside quotes ends the word. -/
theorem read_blank (b : Blank) (rest : List Char) :
    Token.read .bare (b.char :: rest) = ([], rest) := by
  rw [Token.read, if_pos b.blank]
  -- it is none of the characters that quote
  · exact fun h _ => b.ne (by decide) h
  · exact fun _ _ h _ => b.ne (by decide) h
  · exact b.ne (by decide)
  · exact b.ne (by decide)

theorem read_single {cs : List Char} (closed : '\'' ∉ cs) (rest : List Char) :
    Token.read .single (cs ++ '\'' :: rest) = (Token.read .bare rest).map (cs ++ ·) id := by
  induction cs with
  | nil =>
    rw [List.nil_append, Token.read]
    rfl
  | cons c cs ih =>
    obtain ⟨hc, hcs⟩ : '\'' ≠ c ∧ '\'' ∉ cs := by simpa using closed
    have first_read : Token.read .single (c :: (cs ++ '\'' :: rest)) =
        (Token.read .single (cs ++ '\'' :: rest)).map (c :: ·) id := by
      simp [Token.read, hc.symm]
    rw [List.cons_append, first_read, ih hcs]
    exact map_append_map_append [c] cs _

theorem read_double (cs : List DoubleQuoted) (rest : List Char) :
    Token.read .double (cs.flatMap DoubleQuoted.written ++ '"' :: rest) =
      (Token.read .bare rest).map (cs.map DoubleQuoted.meant ++ ·) id := by
  induction cs with
  | nil =>
    rw [List.flatMap_nil, List.nil_append, Token.read]
    rfl
  | cons first cs ih =>
    rw [List.flatMap_cons, List.append_assoc]
    have first_read : ∀ more, Token.read .double (first.written ++ more) =
        (Token.read .double more).map (first.meant :: ·) id := by
      intro more
      cases first with
      | plain c notBackslash notQuote =>
        simp [DoubleQuoted.written, DoubleQuoted.meant, Token.read, notBackslash]
      | escaped c => exact @read_escaped .double nofun c more
    rw [first_read, ih]
    exact map_append_map_append [first.meant] _ _

/-- **A segment is read as what it stands for.** -/
theorem read_segment (s : Segment) (rest : List Char) :
    Token.read .bare (s.written ++ rest) = (Token.read .bare rest).map (s.meant ++ ·) id := by
  cases s with
  | bare c notBlank plain => exact read_bare notBlank plain rest
  | escaped c => exact @read_escaped .bare nofun c rest
  | single cs closed =>
    rw [Segment.written, List.append_assoc, List.cons_append, Token.read]
    exact read_single closed rest
  | double cs =>
    rw [Segment.written, List.append_assoc, List.cons_append, Token.read]
    exact read_double cs rest

theorem read_segments (segments : List Segment) (rest : List Char) :
    Token.read .bare (segments.flatMap Segment.written ++ rest) =
      (Token.read .bare rest).map (segments.flatMap Segment.meant ++ ·) id := by
  induction segments with
  | nil => rfl
  | cons s segments ih =>
    rw [List.flatMap_cons, List.append_assoc, read_segment, ih, List.flatMap_cons]
    exact map_append_map_append _ _ _

/-! ### Splitting a line -/

/-- A segment does not begin with a blank. -/
theorem Segment.exists_written_eq_cons (s : Segment) :
    ∃ c rest, s.written = c :: rest ∧ isBlank c = false := by
  cases s with
  | bare c notBlank _ => exact ⟨c, [], rfl, notBlank⟩
  | escaped c => exact ⟨'\\', [c], rfl, by decide⟩
  | single cs _ => exact ⟨'\'', _, rfl, by decide⟩
  | double cs => exact ⟨'"', _, rfl, by decide⟩

/-- A written word is the first word of a line that begins with it. -/
theorem split_word (w : WrittenWord) (rest : List Char) :
    Token.split (w.written ++ rest) =
      (w.meant ++ (Token.read .bare rest).1) :: Token.split (Token.read .bare rest).2 := by
  have reads := read_segments w.segments rest
  obtain ⟨s, segments, hsegments⟩ := List.exists_cons_of_ne_nil w.nonempty
  obtain ⟨c, more, hwritten, notBlank⟩ := s.exists_written_eq_cons
  have begins : w.written ++ rest = c :: (more ++ segments.flatMap Segment.written ++ rest) := by
    rw [WrittenWord.written, hsegments, List.flatMap_cons, hwritten]
    rfl
  rw [WrittenWord.meant]
  rw [← WrittenWord.written, begins] at reads
  rw [begins, Token.split, notBlank, if_neg Bool.false_ne_true, reads]
  rfl

theorem split_written (l : WrittenLine) : Token.split l.written = l.meant := by
  induction l with
  | done => rw [WrittenLine.written, Token.split]; rfl
  | blank b rest ih => rw [WrittenLine.written, Token.split, if_pos b.blank, ih]; rfl
  | last w =>
    have ends := split_word w []
    rw [List.append_nil, Token.read, List.append_nil, Token.split] at ends
    exact ends
  | word w b rest ih =>
    rw [WrittenLine.written, split_word, read_blank, List.append_nil, ih]
    rfl

/-! ### Writing words -/

/-- A word written with a backslash before each of its characters, between double quotes. -/
def WrittenWord.ofChars (cs : List Char) : WrittenWord where
  segments := [.double (cs.map .escaped)]
  nonempty := List.cons_ne_nil _ _

theorem WrittenWord.meant_ofChars (cs : List Char) : (WrittenWord.ofChars cs).meant = cs := by
  have all : (cs.map DoubleQuoted.escaped).map DoubleQuoted.meant = cs := by
    rw [List.map_map]
    exact List.map_id _
  exact (List.append_nil _).trans all

/-- Some words written one after the other. -/
def WrittenLine.ofWords : List (List Char) → WrittenLine
  | [] => done
  | cs :: rest => word (.ofChars cs) ⟨' ', by decide⟩ (ofWords rest)

theorem WrittenLine.meant_ofWords (words : List (List Char)) :
    (WrittenLine.ofWords words).meant = words := by
  induction words with
  | nil => rfl
  | cons cs words ih => rw [ofWords, meant, ih, WrittenWord.meant_ofChars]

/-- **The words of a line are those that were written, whichever way each of them was; and for all
words there is a line in which they are written.** -/
theorem ofLine_text :
    (∀ l : WrittenLine, Token.ofLine l.text = l.words) ∧
      ∀ words : List String, ∃ l : WrittenLine, l.words = words := by
  constructor
  · intro l
    rw [Token.ofLine, WrittenLine.text, String.toList_ofList, split_written]
    rfl
  · intro words
    refine ⟨.ofWords (words.map String.toList), ?_⟩
    rw [WrittenLine.words, WrittenLine.meant_ofWords, List.map_map]
    exact (List.map_congr_left fun word _ => String.ofList_toList).trans (List.map_id _)

/-- Segments of all kinds adjoin in one word, and empty quotes are a word. -/
example : Token.ofLine "a'b \\'\"c'\\\"\"\\d  ''" = ["ab \\c'\"d", ""] := by cbv

end JobControl.Quotation
