import Mathlib.Data.Set.List
import JobControl.Proofs.Grammar

/-!
# Where words go wrong

Words that are no pipeline have a first stage that is no phrase, and this stage alone decides what
is wrong with them.  Read from the left it consists of items up to a redirection without a file,
which is blamed together with what stands in place of the file; or it consists of items only, none
of which is an argument.

## Main definitions

* `IsPhrase stage` — a stage is well formed.
* `FirstMalformed tokens before stage after` — the first stage of some words that is not.
* `Blames stage following e` — what is wrong with a stage that others may follow.
* `Faultless tokens` — words in which nothing is wrong so far.

## Main results

* `exists_blames` — something is wrong with every malformed stage.
* `stages_of_blames` — reading a stage brings the error that it is blamed for.
* `error_at_first_fault` — **the first malformed stage decides the error, whatever follows it.**
-/

namespace JobControl.Grammar

/-- The words are those of a phrase. -/
def IsPhrase (stage : List String) : Prop := ∃ p : Phrase, p.words = stage

/-- Some stages with a bar behind each. -/
def barred (stages : List (List String)) : List String := stages.flatMap fun stage => stage ++ ["|"]

/-- Some stages with a bar before each. -/
def further (stages : List (List String)) : List String := stages.flatMap fun stage => "|" :: stage

/-- The first stage of some words, as bars delimit them, that is no phrase. -/
structure FirstMalformed (tokens : List String) (before : List (List String)) (stage : List String)
    (after : List (List String)) : Prop where
  split : tokens.splitOn "|" = before ++ stage :: after
  wellFormed : ∀ earlier ∈ before, IsPhrase earlier
  malformed : ¬ IsPhrase stage

/-- What is wrong with a stage that is followed by some words: behind items comes a redirection that
has no file, or the items are all and have no argument among them. -/
inductive Blames (stage following : List String) : SyntaxError → Prop
  /-- The redirection is the last word of all. -/
  | missing {items : List Item} {r : Redirection} :
      stage = items.flatMap Item.words ++ [r.sign] → following = [] →
      Blames stage following (.missingTarget r.sign)
  /-- The next word is an operator, be it a bar behind the stage. -/
  | unexpected {items : List Item} {r : Redirection} {rest more : List String} {found : String} :
      stage = items.flatMap Item.words ++ r.sign :: rest → rest ++ following = found :: more →
      found ∈ operators → Blames stage following (.unexpectedOperator r.sign found)
  | empty {items : List Item} : stage = items.flatMap Item.words → arguments items = [] →
      Blames stage following .emptyStage

/-- Phrases with bars behind them, and some items: words in which nothing is wrong so far. -/
def Faultless (tokens : List String) : Prop :=
  ∃ (before : List (List String)) (items : List Item), (∀ earlier ∈ before, IsPhrase earlier) ∧
    tokens = barred before ++ items.flatMap Item.words

/-! ### Stages between bars -/

theorem intercalate_barred (before : List (List String)) (stage : List String)
    (after : List (List String)) :
    ["|"].intercalate (before ++ stage :: after) = barred before ++ (stage ++ further after) := by
  have first : ∀ stage, ["|"].intercalate (stage :: after) = stage ++ further after := by
    induction after with
    | nil => simp [further]
    | cons next after ih =>
      intro stage
      rw [List.intercalate_cons_cons, ih next]
      simp [further]
  induction before with
  | nil => exact first stage
  | cons earlier before ih =>
    rw [List.cons_append, List.intercalate_cons_of_ne_nil (by simp), ih]
    simp [barred]

/-- Words are put together from their stages. -/
theorem FirstMalformed.tokens_eq {tokens stage : List String} {before after : List (List String)}
    (h : FirstMalformed tokens before stage after) :
    tokens = barred before ++ (stage ++ further after) := by
  rw [← intercalate_barred, ← h.split, List.intercalate_splitOn]

/-- No bar stands in a stage. -/
theorem bar_notMem {tokens : List String} : ∀ stage ∈ tokens.splitOn "|", "|" ∉ stage := by
  induction tokens with
  | nil => simp
  | cons token tokens ih =>
    rw [List.splitOn_cons_eq_if_modifyHead]
    split
    · exact List.forall_mem_cons.mpr ⟨List.not_mem_nil, ih⟩
    · next other =>
      cases hsplit : tokens.splitOn "|" with
      | nil => simp
      | cons stage others =>
        rw [hsplit] at ih
        obtain ⟨hstage, hothers⟩ := List.forall_mem_cons.mp ih
        refine List.forall_mem_cons.mpr ⟨?_, hothers⟩
        rw [List.mem_cons, not_or]
        exact ⟨fun heq => other (by simp [← heq]), hstage⟩

/-- What follows a stage starts with a bar, if anything follows. -/
theorem head?_further (after : List (List String)) :
    ∀ word ∈ (further after).head?, word = "|" := by
  cases after <;> simp [further]

/-- Words are read as commands if all their stages are phrases. -/
theorem stages_ok_of_phrases {tokens : List String}
    (h : ∀ stage ∈ tokens.splitOn "|", IsPhrase stage) :
    ∃ commands, Pipeline.stages {} tokens = .ok commands := by
  have spelled : tokens.splitOn "|" ∈ Set.range (List.map Phrase.words) := by
    rw [Set.range_list_map]
    exact h
  obtain ⟨phrases, hphrases⟩ := spelled
  have nonempty : phrases ≠ [] := by
    rintro rfl
    exact List.splitOn_ne_nil _ _ hphrases.symm
  refine ⟨_, stages_eq_ok_iff.mpr ⟨phrases, nonempty, ?_, rfl⟩⟩
  rw [spell, hphrases, List.intercalate_splitOn]

theorem stages_of_isPhrase {stage : List String} (h : IsPhrase stage) :
    ∃ commands, Pipeline.stages {} stage = .ok commands := by
  obtain ⟨p, rfl⟩ := h
  refine ⟨_, stages_eq_ok_iff.mpr ⟨[p], List.cons_ne_nil _ _, ?_, rfl⟩⟩
  simp [spell_cons]

/-- Words that are not read as commands have a first malformed stage. -/
theorem exists_firstMalformed {tokens : List String} {e : SyntaxError}
    (h : Pipeline.stages {} tokens = .error e) :
    ∃ before stage after, FirstMalformed tokens before stage after := by
  classical
  cases hfind : (tokens.splitOn "|").find? fun stage => ¬ IsPhrase stage with
  | none =>
    obtain ⟨commands, hok⟩ := stages_ok_of_phrases (by simpa using hfind)
    rw [hok] at h
    cases h
  | some stage =>
    obtain ⟨malformed, before, after, split, earlier⟩ := List.find?_eq_some_iff_append.mp hfind
    exact ⟨before, stage, after, split, by simpa using earlier, by simpa using malformed⟩

/-! ### What is wrong with a stage -/

/-- Read from the left, words are items up to their end, a bar, or a redirection without a file. -/
theorem exists_items : ∀ tokens : List String, ∃ (items : List Item) (rest : List String),
    tokens = items.flatMap Item.words ++ rest ∧
      ((∀ word ∈ rest.head?, word = "|") ∨ ∃ (r : Redirection) (more : List String),
        rest = r.sign :: more ∧ ∀ word ∈ more.head?, word ∈ operators)
  | [] => ⟨[], [], rfl, .inl nofun⟩
  | token :: rest => by
    by_cases bar : token = "|"
    · exact ⟨[], token :: rest, rfl, .inl (by simpa using bar)⟩
    cases known : Redirection.ofToken? token with
    | none =>
      obtain ⟨items, rest', rfl, halt⟩ := exists_items rest
      exact ⟨.argument ⟨token, notMem_operators_iff.mpr ⟨bar, known⟩⟩ :: items, rest', rfl, halt⟩
    | some r =>
      obtain rfl := ofToken?_eq_some_iff.mp known
      match rest with
      | [] => exact ⟨[], [r.sign], rfl, .inr ⟨r, [], rfl, nofun⟩⟩
      | target :: rest =>
        by_cases plain : target ∈ operators
        · exact ⟨[], _, rfl, .inr ⟨r, target :: rest, rfl, by simpa using plain⟩⟩
        · obtain ⟨items, rest', rfl, halt⟩ := exists_items rest
          exact ⟨.redirection r ⟨target, plain⟩ :: items, rest', rfl, halt⟩

variable {stage following later later' : List String} {e : SyntaxError}

/-- **Something is wrong with every malformed stage.** -/
theorem exists_blames (delimited : "|" ∉ stage) (malformed : ¬ IsPhrase stage)
    (ends : ∀ word ∈ following.head?, word = "|") : ∃ e, Blames stage following e := by
  obtain ⟨items, rest, rfl, ended | ⟨r, more, rfl, stray⟩⟩ := exists_items stage
  · cases rest with
    | nil =>
      refine ⟨_, .empty (List.append_nil _) ?_⟩
      by_contra named
      exact malformed ⟨⟨items, named⟩, (List.append_nil _).symm⟩
    | cons bar more =>
      obtain rfl : bar = "|" := by simpa using ended
      exact absurd (List.mem_append_right _ List.mem_cons_self) delimited
  · cases more with
    | cons found more => exact ⟨_, .unexpected rfl rfl (by simpa using stray)⟩
    | nil =>
      cases following with
      | nil => exact ⟨_, .missing rfl rfl⟩
      | cons bar more =>
        obtain rfl : bar = "|" := by simpa using ends
        exact ⟨_, .unexpected rfl rfl (by decide)⟩

/-- What stands behind the bar after a stage does not matter. -/
theorem Blames.of_bar (h : Blames stage ("|" :: later) e) : Blames stage ("|" :: later') e := by
  cases h with
  | missing _ hend => cases hend
  | empty hstage unnamed => exact .empty hstage unnamed
  | @unexpected items r rest _ found hstage hfound operator =>
    cases rest with
    | nil =>
      obtain ⟨rfl, -⟩ := List.cons.inj hfound
      exact .unexpected hstage rfl operator
    | cons next rest =>
      obtain ⟨rfl, -⟩ := List.cons.inj hfound
      exact .unexpected hstage rfl operator

/-! ### Reading -/

theorem stages_missing (c : Command) (r : Redirection) :
    Pipeline.stages c [r.sign] = .error (.missingTarget r.sign) := by
  cases r <;> rfl

theorem stages_unexpected (c : Command) (r : Redirection) {found : String} (h : found ∈ operators)
    (more : List String) :
    Pipeline.stages c (r.sign :: found :: more) = .error (.unexpectedOperator r.sign found) := by
  have operator : Pipeline.isOperator found = true := by
    rw [← Bool.not_eq_false, isOperator_eq_false_iff, not_not]
    exact h
  have bar : r.sign ≠ "|" := by cases r <;> decide
  have known : Redirection.ofToken? r.sign = some r := ofToken?_eq_some_iff.mpr rfl
  rw [Pipeline.stages.eq_def]
  dsimp only
  rw [if_neg bar, known]
  dsimp only
  rw [if_pos operator]

/-- A command without an argument is none where its stage ends. -/
theorem stages_unnamed {c : Command} (unnamed : c.argv = [])
    (ends : ∀ word ∈ following.head?, word = "|") :
    Pipeline.stages c following = .error .emptyStage := by
  cases following with
  | nil =>
    rw [stages_nil, complete_of_unnamed unnamed]
    rfl
  | cons bar more =>
    obtain rfl : bar = "|" := by simpa using ends
    rw [stages_bar, complete_of_unnamed unnamed]
    rfl

/-- **Reading a stage brings the error that it is blamed for.** -/
theorem stages_of_blames (h : Blames stage following e)
    (ends : ∀ word ∈ following.head?, word = "|") :
    Pipeline.stages {} (stage ++ following) = .error e := by
  cases h with
  | missing hstage hend =>
    rw [hstage, hend, List.append_nil, stages_items, stages_missing]
  | unexpected hstage hfound operator =>
    rw [hstage, List.append_assoc, List.cons_append, hfound, stages_items,
      stages_unexpected _ _ operator]
  | empty hstage unnamed =>
    rw [hstage, stages_items]
    refine stages_unnamed ?_ ends
    rw [foldl_extend_empty]
    exact unnamed

/-- Phrases before a fault do not change it. -/
theorem stages_barred {before : List (List String)} {rest : List String}
    (wellFormed : ∀ earlier ∈ before, IsPhrase earlier)
    (h : Pipeline.stages {} rest = .error e) :
    Pipeline.stages {} (barred before ++ rest) = .error e := by
  induction before with
  | nil => exact h
  | cons earlier before ih =>
    obtain ⟨⟨p, rfl⟩, others⟩ := List.forall_mem_cons.mp wellFormed
    have regroup :
        barred (p.words :: before) ++ rest = p.words ++ "|" :: (barred before ++ rest) := by
      simp [barred]
    rw [regroup, stages_phrase, stages_bar, complete_of_named p.named, ih others]
    rfl

/-- The first malformed stage brings the error that it is blamed for. -/
theorem FirstMalformed.stages_eq {tokens : List String} {before after : List (List String)}
    (h : FirstMalformed tokens before stage after) (blames : Blames stage (further after) e) :
    Pipeline.stages {} tokens = .error e := by
  rw [h.tokens_eq]
  exact stages_barred h.wellFormed (stages_of_blames blames (head?_further after))

/-- Words are not read as commands if and only if a stage is malformed, the first of which is
blamed. -/
theorem stages_eq_error_iff {tokens : List String} :
    Pipeline.stages {} tokens = .error e ↔ ∃ before stage after,
      FirstMalformed tokens before stage after ∧ Blames stage (further after) e := by
  constructor
  · intro h
    obtain ⟨before, stage, after, first⟩ := exists_firstMalformed h
    have hstage : stage ∈ tokens.splitOn "|" := by simp [first.split]
    obtain ⟨e', blames⟩ :=
      exists_blames (bar_notMem stage hstage) first.malformed (head?_further after)
    obtain rfl : e = e' := Except.error.inj (h.symm.trans (first.stages_eq blames))
    exact ⟨before, stage, after, first, blames⟩
  · rintro ⟨before, stage, after, first, blames⟩
    exact first.stages_eq blames

/-! ### The mark of the background -/

theorem ofTokens_eq_error_iff {tokens : List String} : Pipeline.ofTokens tokens = .error e ↔
    Pipeline.stages {} (Pipeline.splitBackground tokens).1 = .error e := by
  unfold Pipeline.ofTokens
  dsimp only
  cases Pipeline.stages {} (Pipeline.splitBackground tokens).1 with
  | error e' =>
    exact ⟨fun h => congrArg _ (Except.error.inj h), fun h => congrArg _ (Except.error.inj h)⟩
  | ok commands => exact iff_of_false nofun nofun

/-- The mark of the background is taken from what stands behind another word. -/
theorem splitBackground_append {word : String} (h : word ≠ "&") (before after : List String) :
    (Pipeline.splitBackground (before ++ word :: after)).1 =
      before ++ word :: (Pipeline.splitBackground after).1 := by
  cases after with
  | nil =>
    rw [splitBackground_of_unmarked (by simpa using h), splitBackground_of_unmarked (by simp)]
  | cons next after =>
    have last : (before ++ word :: next :: after).getLast? = (next :: after).getLast? := by
      rw [List.append_cons, List.getLast?_append_of_ne_nil _ (List.cons_ne_nil _ _)]
    by_cases marked : (next :: after).getLast? = some "&"
    · rw [splitBackground_of_marked (last.trans marked), splitBackground_of_marked marked]
      simp [List.dropLast_append_of_ne_nil]
    · rw [splitBackground_of_unmarked (last.trans_ne marked), splitBackground_of_unmarked marked]

/-- Only a last `&` is taken away. -/
theorem exists_of_splitBackground (tokens : List String) :
    ∃ mark, tokens = (Pipeline.splitBackground tokens).1 ++ mark := by
  by_cases marked : tokens.getLast? = some "&"
  · rw [splitBackground_of_marked marked]
    exact ⟨["&"], (List.dropLast_append_getLast? _ marked).symm⟩
  · rw [splitBackground_of_unmarked marked]
    exact ⟨[], (List.append_nil _).symm⟩

/-! ### The first fault -/

/-- An operator in place of a file is found whatever follows it. -/
theorem ofTokens_unexpected {tokens : List String} (faultless : Faultless tokens) (r : Redirection)
    {found : String} (operator : found ∈ operators) (rest : List String) :
    Pipeline.ofTokens (tokens ++ r.sign :: found :: rest) =
      .error (.unexpectedOperator r.sign found) := by
  obtain ⟨before, items, wellFormed, rfl⟩ := faultless
  have unmarked : found ≠ "&" := by
    rintro rfl
    exact absurd operator (by decide)
  rw [ofTokens_eq_error_iff, List.append_cons, splitBackground_append unmarked,
    List.append_assoc, List.append_assoc]
  refine stages_barred wellFormed ?_
  rw [List.singleton_append, stages_items, stages_unexpected _ _ operator]

/-- **Words are rejected for their first malformed stage: for the first redirection in it that has
no file, or else because it has no argument.  An operator that stands in place of a file is reported
whatever comes behind it; and once a bar ends a malformed stage, all that follows does not
matter.** -/
theorem error_at_first_fault :
    (∀ tokens e, Pipeline.ofTokens tokens = .error e ↔ ∃ before stage after,
      FirstMalformed (Pipeline.splitBackground tokens).1 before stage after ∧
        Blames stage (further after) e) ∧
    (∀ tokens operator found,
      Pipeline.ofTokens tokens = .error (.unexpectedOperator operator found) →
      ∃ upTo rest, Faultless upTo ∧ tokens = upTo ++ operator :: found :: rest ∧
        ∀ rest', Pipeline.ofTokens (upTo ++ operator :: found :: rest') =
          .error (.unexpectedOperator operator found)) ∧
    ∀ before stage, (∀ earlier ∈ before, IsPhrase earlier) → "|" ∉ stage → ¬ IsPhrase stage →
      ∃ e, ∀ later, Blames stage ("|" :: later) e ∧
        Pipeline.ofTokens (barred before ++ (stage ++ "|" :: later)) = .error e := by
  refine ⟨fun tokens e => ofTokens_eq_error_iff.trans stages_eq_error_iff,
    fun tokens operator found h => ?_, fun before stage wellFormed delimited malformed => ?_⟩
  · obtain ⟨before, stage, after, first, blames⟩ :=
      stages_eq_error_iff.mp (ofTokens_eq_error_iff.mp h)
    obtain ⟨mark, htokens⟩ := exists_of_splitBackground tokens
    cases blames with
    | @unexpected items r rest more _ hstage hfound stray =>
      have faultless : Faultless (barred before ++ items.flatMap Item.words) :=
        ⟨before, items, first.wellFormed, rfl⟩
      refine ⟨_, more ++ mark, faultless, ?_, ofTokens_unexpected faultless r stray⟩
      rw [htokens, first.tokens_eq, hstage, List.append_assoc (items.flatMap Item.words),
        List.cons_append, hfound]
      simp only [List.append_assoc, List.cons_append]
  · have bar : ∀ later : List String, ∀ word ∈ ("|" :: later).head?, word = "|" := by simp
    obtain ⟨e, blames⟩ := exists_blames delimited malformed (bar [])
    refine ⟨e, fun later => ⟨blames.of_bar, ?_⟩⟩
    rw [ofTokens_eq_error_iff, ← List.append_assoc, splitBackground_append (by decide),
      List.append_assoc]
    exact stages_barred wellFormed (stages_of_blames blames.of_bar (bar _))

/-- In `ls | cat > < f | < &` the second stage is to blame, and nothing behind it counts. -/
theorem fault_of_second_stage :
    (∃ before stage after,
      FirstMalformed ["ls", "|", "cat", ">", "<", "f", "|", "<"] before stage after ∧
        Blames stage (further after) (.unexpectedOperator ">" "<")) ∧
    (∃ upTo rest, Faultless upTo ∧
      ["ls", "|", "cat", ">", "<", "f", "|", "<", "&"] = upTo ++ ">" :: "<" :: rest ∧
      ∀ rest', Pipeline.ofTokens (upTo ++ ">" :: "<" :: rest') =
        .error (.unexpectedOperator ">" "<")) ∧
    ∃ e, ∀ later, Pipeline.ofTokens (["ls", "|", "cat", ">", "|"] ++ later) = .error e := by
  obtain ⟨decided, unexpected, ended⟩ := error_at_first_fault
  have named : IsPhrase ["ls"] := ⟨⟨[.argument ⟨"ls", by decide⟩], by decide⟩, rfl⟩
  have malformed : ¬ IsPhrase ["cat", ">"] := by
    intro h
    obtain ⟨commands, hok⟩ := stages_of_isPhrase h
    cases hok
  refine ⟨(decided ["ls", "|", "cat", ">", "<", "f", "|", "<", "&"] _).mp rfl,
    unexpected _ _ _ rfl, ?_⟩
  obtain ⟨e, he⟩ := ended [["ls"]] ["cat", ">"] (by simpa using named) (by decide) malformed
  exact ⟨e, fun later => (he later).2⟩

end JobControl.Grammar
