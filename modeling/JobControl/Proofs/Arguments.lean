import JobControl.Proofs.Grammar
import JobControl.Proofs.Quotation

/-!
# Words as arguments

A word between single quotes, with a backslash before each single quote inside it, is read as that
word, whatever its characters are.  But the words of a line do not tell how they were written: one
that is spelled like an operator is an operator, quoted or not, and a last `&` is the mark of the
background.  All other words, quoted, are the arguments of one command.

## Main definitions

* `Quotation.quote word` — a word between single quotes.
* `Quotation.quoteAll words` — the line of some words, each of them quoted.

## Main results

* `Quotation.ofLine_quoteAll` — the words of that line are the words that were quoted.
* `Grammar.ofTokens_eq_command_iff` — which words are the arguments of one command.
* `Quotation.quoted_arguments_iff` — **quoted words are the arguments of one command if and only if
  none of them is spelled like an operator and the last is no `&`.**
-/

namespace JobControl

namespace Quotation

/-- What stands for a character between single quotes.  A single quote ends the run, is written
behind a backslash, and begins another run. -/
def quotedChar (c : Char) : List Char := if c = '\'' then ['\'', '\\', '\'', '\''] else [c]

/-- A word between single quotes. -/
def quote (word : String) : String :=
  String.ofList ('\'' :: word.toList.flatMap quotedChar ++ ['\''])

/-- The line of some words, each of them quoted, with spaces between them. -/
def quoteAll (words : List String) : String := " ".intercalate (words.map quote)

/-- The parts of a quoted word: runs between quotes, the first of which has begun with `run`, and
the single quotes between them. -/
def runs (run : List Char) (closed : '\'' ∉ run) : List Char → List Segment
  | [] => [.single run closed]
  | c :: cs =>
    if h : c = '\'' then .single run closed :: .escaped '\'' :: runs [] List.not_mem_nil cs
    else runs (run ++ [c]) (by simpa [closed] using Ne.symm h) cs

theorem written_runs (cs run : List Char) (closed : '\'' ∉ run) :
    (runs run closed cs).flatMap Segment.written =
      '\'' :: (run ++ cs.flatMap quotedChar) ++ ['\''] := by
  induction cs generalizing run with
  | nil => simp [runs, Segment.written]
  | cons c cs ih =>
    rw [runs]
    split
    · next h =>
      rw [List.flatMap_cons, List.flatMap_cons, ih]
      simp [Segment.written, quotedChar, h]
    · next h =>
      rw [ih]
      simp [quotedChar, h]

theorem meant_runs (cs run : List Char) (closed : '\'' ∉ run) :
    (runs run closed cs).flatMap Segment.meant = run ++ cs := by
  induction cs generalizing run with
  | nil => simp [runs, Segment.meant]
  | cons c cs ih =>
    rw [runs]
    split
    · next h =>
      rw [List.flatMap_cons, List.flatMap_cons, ih]
      simp [Segment.meant, h]
    · rw [ih, List.append_assoc, List.singleton_append]

theorem runs_ne_nil (cs run : List Char) (closed : '\'' ∉ run) : runs run closed cs ≠ [] := by
  induction cs generalizing run with
  | nil => exact List.cons_ne_nil _ _
  | cons c cs ih =>
    rw [runs]
    split
    · exact List.cons_ne_nil _ _
    · exact ih _ _

/-- A quoted word, in its parts. -/
def WrittenWord.quoted (word : String) : WrittenWord where
  segments := runs [] List.not_mem_nil word.toList
  nonempty := runs_ne_nil _ _ _

theorem WrittenWord.written_quoted (word : String) :
    (WrittenWord.quoted word).written = (quote word).toList := by
  rw [quote, String.toList_ofList]
  exact written_runs word.toList [] List.not_mem_nil

theorem WrittenWord.meant_quoted (word : String) :
    (WrittenWord.quoted word).meant = word.toList :=
  meant_runs word.toList [] List.not_mem_nil

def Blank.space : Blank := ⟨' ', rfl⟩

/-- Some quoted words with spaces between them. -/
def WrittenLine.quoted : List String → WrittenLine
  | [] => done
  | [w] => last (.quoted w)
  | w :: next :: rest => .word (.quoted w) .space (quoted (next :: rest))

theorem WrittenLine.text_quoted (words : List String) :
    (WrittenLine.quoted words).text = quoteAll words := by
  have written : (WrittenLine.quoted words).written =
      [' '].intercalate (words.map fun word => (quote word).toList) := by
    fun_induction WrittenLine.quoted words with
    | case1 => rfl
    | case2 w => exact (WrittenWord.written_quoted w).trans List.intercalate_singleton.symm
    | case3 w next rest ih =>
      rw [WrittenLine.written, WrittenWord.written_quoted, ih]
      simp [List.intercalate_cons_cons, Blank.space]
  rw [WrittenLine.text, written, quoteAll, ← String.ofList_toList (s := " ".intercalate _),
    String.toList_intercalate, List.map_map]
  rfl

theorem WrittenLine.words_quoted (words : List String) :
    (WrittenLine.quoted words).words = words := by
  have meant : (WrittenLine.quoted words).meant = words.map String.toList := by
    fun_induction WrittenLine.quoted words with
    | case1 => rfl
    | case2 w => exact congrArg (fun cs => [cs]) (WrittenWord.meant_quoted w)
    | case3 w next rest ih =>
      rw [WrittenLine.meant, WrittenWord.meant_quoted, ih]
      rfl
  rw [WrittenLine.words, meant, List.map_map]
  exact (List.map_congr_left fun word _ => String.ofList_toList).trans (List.map_id _)

/-- The words of the line are the words that were quoted. -/
theorem ofLine_quoteAll (words : List String) : Token.ofLine (quoteAll words) = words := by
  have split := split_written (WrittenLine.quoted words)
  rw [← WrittenLine.text_quoted, Token.ofLine, WrittenLine.text, String.toList_ofList, split]
  exact WrittenLine.words_quoted words

end Quotation

namespace Grammar

theorem arguments_argument_map (plain : List PlainWord) :
    arguments (plain.map .argument) = plain.map (·.text) := by
  induction plain with
  | nil => rfl
  | cons word plain ih => rw [List.map_cons, arguments_argument, ih, List.map_cons]

theorem targets_argument_map (r : Redirection) (plain : List PlainWord) :
    targets r (plain.map .argument) = [] := by
  induction plain with
  | nil => rfl
  | cons word plain ih => rw [List.map_cons, targets_argument, ih]

theorem words_argument_map (plain : List PlainWord) :
    (plain.map Item.argument).flatMap Item.words = plain.map (·.text) := by
  rw [List.flatMap_map, List.map_eq_flatMap]
  rfl

/-- No argument is an operator. -/
theorem notMem_operators_of_mem_arguments {items : List Item} {word : String}
    (h : word ∈ arguments items) : word ∉ operators := by
  obtain ⟨item, -, hitem⟩ := List.mem_filterMap.mp h
  cases item with
  | argument plain =>
    obtain rfl := Option.some.inj hitem
    exact plain.plain
  | redirection _ _ => cases hitem

/-- **Some words are the arguments of one command in the foreground if and only if none of them is
an operator and the last is no mark of the background.** -/
theorem ofTokens_eq_command_iff {words : List String} (nonempty : words ≠ []) :
    Pipeline.ofTokens words = .ok { commands := [{ argv := words }], background := false } ↔
      (∀ word ∈ words, word ∉ operators) ∧ words.getLast? ≠ some "&" := by
  rw [ofTokens_eq_ok, stages_eq_ok_iff]
  constructor
  · rintro ⟨⟨phrases, -, -, hcommands⟩, hbackground⟩
    obtain ⟨p, rfl⟩ : ∃ p, phrases = [p] := by
      simpa using List.length_eq_one_iff.mp (by simpa using congrArg List.length hcommands)
    have argv : arguments p.items = words :=
      congrArg Command.argv (List.head_eq_of_cons_eq hcommands)
    refine ⟨fun word hword => notMem_operators_of_mem_arguments (argv ▸ hword), fun marked => ?_⟩
    rw [splitBackground_of_marked marked] at hbackground
    cases hbackground
  · rintro ⟨plain, unmarked⟩
    rw [splitBackground_of_unmarked unmarked]
    let list := words.pmap PlainWord.mk plain
    have texts : list.map (·.text) = words := by simp [list, List.map_pmap]
    have named : arguments (list.map .argument) ≠ [] := by
      rwa [arguments_argument_map, texts]
    refine ⟨⟨[⟨list.map .argument, named⟩], List.cons_ne_nil _ _, ?_, ?_⟩, rfl⟩
    · rw [spell_cons, List.flatMap_nil, List.append_nil, Phrase.words, words_argument_map, texts]
    · simp only [List.map_cons, List.map_nil, Phrase.command, arguments_argument_map,
        targets_argument_map, texts, List.getLast?_nil]

end Grammar

namespace Quotation

/-- **The words of a line in which every word is quoted are these words.  They are the arguments of
one command in the foreground, without redirections, if and only if none of them is spelled like a
bar or a redirection and the last is not spelled like the mark of the background.** -/
theorem quoted_arguments_iff (words : List String) (nonempty : words ≠ []) :
    Token.ofLine (quoteAll words) = words ∧
      (Pipeline.ofTokens (Token.ofLine (quoteAll words)) =
          .ok { commands := [{ argv := words, input := none, output := none }]
                background := false } ↔
        (∀ word ∈ words, word ∉ ["|", "<", ">"]) ∧ words.getLast? ≠ some "&") := by
  have reads := ofLine_quoteAll words
  exact ⟨reads, by rw [reads]; exact Grammar.ofTokens_eq_command_iff nonempty⟩

/-- A quote inside a word, an empty word, and operators that do not stand alone. -/
theorem arguments_with_quote :
    Pipeline.ofTokens (Token.ofLine (quoteAll ["it's", "a | b", "", "&", "&&"])) =
      .ok { commands := [{ argv := ["it's", "a | b", "", "&", "&&"] }], background := false } := by
  refine (quoted_arguments_iff _ (List.cons_ne_nil _ _)).2.mpr ⟨?_, by decide⟩
  simp

/-- A quoted bar that is a word is no argument: it separates two commands.  And a quoted `&` that is
the last word puts the pipeline in the background. -/
theorem quoted_bar_separates :
    quoteAll ["echo", "|", "x"] = "'echo' '|' 'x'" ∧
      Pipeline.ofTokens (Token.ofLine (quoteAll ["echo", "|", "x"])) =
        .ok { commands := [{ argv := ["echo"] }, { argv := ["x"] }], background := false } ∧
      Pipeline.ofTokens (Token.ofLine (quoteAll ["echo", "|", "x"])) ≠
        .ok { commands := [{ argv := ["echo", "|", "x"] }], background := false } ∧
      Pipeline.ofTokens (Token.ofLine (quoteAll ["sleep", "&"])) =
        .ok { commands := [{ argv := ["sleep"] }], background := true } := by
  have separates : Pipeline.ofTokens (Token.ofLine (quoteAll ["echo", "|", "x"])) =
      .ok { commands := [{ argv := ["echo"] }, { argv := ["x"] }], background := false } := by
    rw [ofLine_quoteAll]
    rfl
  refine ⟨by decide, separates, ?_, ?_⟩
  · rw [separates]
    decide
  · rw [ofLine_quoteAll]
    rfl

end Quotation
end JobControl
