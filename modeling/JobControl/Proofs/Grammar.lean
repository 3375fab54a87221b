import JobControl.Pipeline
import Mathlib.Data.List.Basic

/-!
# The grammar of lines

A line that is a pipeline is a *sentence*: phrases between bars, and a `&` behind them if it runs in
the background.  A phrase is a sequence of arguments and redirections in any order, with at least
one argument.  The words of a sentence determine what it asks for, and reading words as a pipeline
accepts the words of sentences and no others.

## Main definitions

* `PlainWord`, `Item`, `Phrase`, `Sentence` — the grammar, from its words up.
* `Sentence.words s` — the words of `s`, in order.
* `Phrase.command p`, `Sentence.pipeline s` — what a phrase and a sentence ask for.

## Main results

* `Grammar.stages_items` — the words of some items continue a command by these items.
* `Grammar.stages_eq_ok_iff` — words are commands if and only if they are those of phrases.
* `Grammar.ofTokens_eq_ok_iff` — **words are a pipeline if and only if they are those of a sentence,
  and the pipeline is the one that the sentence asks for.**
-/

namespace JobControl

/-- The word that announces a redirection. -/
def Redirection.sign : Redirection → String
  | input => "<"
  | output => ">"

namespace Grammar

/-- The words that are no part of a command. -/
def operators : List String := ["|", "<", ">"]

/-- A word that is no operator. -/
structure PlainWord where
  text : String
  plain : text ∉ operators

/-- A part of a phrase. -/
inductive Item
  | argument (word : PlainWord)
  | redirection (r : Redirection) (target : PlainWord)

namespace Item

/-- The words of an item. -/
def words : Item → List String
  | argument word => [word.text]
  | redirection r target => [r.sign, target.text]

/-- The argument that an item is. -/
def argument? : Item → Option String
  | argument word => some word.text
  | redirection _ _ => none

/-- The file that an item puts in place of an input or output. -/
def target? (r : Redirection) : Item → Option String
  | argument _ => none
  | redirection r' target => if r' = r then some target.text else none

end Item

/-- The arguments among some items. -/
def arguments (items : List Item) : List String := items.filterMap Item.argument?

/-- The files that some items put in place of an input or output. -/
def targets (r : Redirection) (items : List Item) : List String := items.filterMap (Item.target? r)

/-- Arguments and redirections in any order, with an argument among them. -/
structure Phrase where
  items : List Item
  named : arguments items ≠ []

namespace Phrase

/-- The words of a phrase. -/
def words (p : Phrase) : List String := p.items.flatMap Item.words

/-- The command that a phrase asks for: of several files for one purpose the last counts. -/
def command (p : Phrase) : Command where
  argv := arguments p.items
  input := (targets .input p.items).getLast?
  output := (targets .output p.items).getLast?

end Phrase

/-- The words of some phrases with bars between them. -/
def spell (phrases : List Phrase) : List String := ["|"].intercalate (phrases.map Phrase.words)

/-- Phrases in the foreground or the background.  Those in the foreground do not end with the mark
of the background. -/
structure Sentence where
  phrases : List Phrase
  background : Bool
  nonempty : phrases ≠ []
  unmarked : background = false → (spell phrases).getLast? ≠ some "&"

namespace Sentence

/-- The words of a sentence. -/
def words (s : Sentence) : List String := spell s.phrases ++ if s.background then ["&"] else []

/-- The pipeline that a sentence asks for. -/
def pipeline (s : Sentence) : Pipeline where
  commands := s.phrases.map Phrase.command
  background := s.background

end Sentence

/-! ### Items -/

/-- A command continued by an item. -/
def extend (c : Command) : Item → Command
  | .argument word => c.push word.text
  | .redirection r target => c.redirect target.text r

/-- What a new last file means for a place that already has one. -/
theorem getLast?_cons_orElse (path : String) (paths : List String) (before : Option String) :
    ((path :: paths).getLast? <|> before) = (paths.getLast? <|> some path) := by
  rw [List.getLast?_cons]
  cases paths.getLast? <;> rfl

section Lists

variable {r : Redirection} (word : PlainWord) (items : List Item)

@[simp] theorem arguments_argument :
    arguments (.argument word :: items) = word.text :: arguments items := rfl

@[simp] theorem arguments_redirection :
    arguments (.redirection r word :: items) = arguments items := rfl

@[simp] theorem targets_argument : targets r (.argument word :: items) = targets r items := rfl

@[simp] theorem targets_redirection :
    targets r (.redirection r word :: items) = word.text :: targets r items := by
  cases r <;> rfl

theorem targets_redirection_of_ne {r' : Redirection} (h : r' ≠ r) :
    targets r (.redirection r' word :: items) = targets r items :=
  List.filterMap_cons_none (if_neg h)

end Lists

/-- Items add their arguments, and of their files the last counts. -/
theorem foldl_extend (items : List Item) (c : Command) :
    items.foldl extend c = {
      argv := c.argv ++ arguments items
      input := (targets .input items).getLast? <|> c.input
      output := (targets .output items).getLast? <|> c.output } := by
  induction items generalizing c with
  | nil => simp [arguments, targets]
  | cons item items ih =>
    rw [List.foldl_cons, ih]
    cases item with
    | argument word => simp [extend, Command.push]
    | redirection r target =>
      cases r with
      | input =>
        have other :
            targets .output (.redirection .input target :: items) = targets .output items :=
          targets_redirection_of_ne _ _ (by decide)
        rw [other, arguments_redirection, targets_redirection, getLast?_cons_orElse]
        rfl
      | output =>
        have other :
            targets .input (.redirection .output target :: items) = targets .input items :=
          targets_redirection_of_ne _ _ (by decide)
        rw [other, arguments_redirection, targets_redirection, getLast?_cons_orElse]
        rfl

theorem foldl_extend_empty (items : List Item) : items.foldl extend {} = {
    argv := arguments items
    input := (targets .input items).getLast?
    output := (targets .output items).getLast? } := by
  rw [foldl_extend]
  simp

/-- The words of a first phrase, and of others with a bar before each. -/
theorem spell_cons (p : Phrase) (others : List Phrase) :
    spell (p :: others) = p.words ++ others.flatMap fun other => "|" :: other.words := by
  induction others generalizing p with
  | nil => simp [spell]
  | cons other others ih =>
    have := ih other
    simp only [spell, List.map_cons] at this ⊢
    rw [List.intercalate_cons_cons, this]
    simp

/-! ### Reading -/

theorem isOperator_eq_false_iff {token : String} :
    Pipeline.isOperator token = false ↔ token ∉ operators := by
  simp [Pipeline.isOperator, operators, not_or, and_assoc]

theorem complete_of_named {c : Command} (h : c.argv ≠ []) : c.complete = .ok c :=
  if_neg fun he => h (List.isEmpty_iff.mp he)

theorem complete_of_unnamed {c : Command} (h : c.argv = []) : c.complete = .error .emptyStage :=
  if_pos (List.isEmpty_iff.mpr h)

theorem stages_nil (c : Command) : Pipeline.stages c [] = do
    let command ← c.complete
    return [command] := by
  rw [Pipeline.stages]

/-- At the end of the words stands a command that names a program. -/
theorem stages_nil_eq_ok_iff {c : Command} {commands : List Command} :
    Pipeline.stages c [] = .ok commands ↔ c.argv ≠ [] ∧ commands = [c] := by
  rw [Pipeline.stages]
  by_cases h : c.argv = []
  · rw [complete_of_unnamed h]
    exact iff_of_false nofun fun h' => h'.1 h
  · rw [complete_of_named h]
    exact ⟨fun h' => ⟨h, (Except.ok.inj h').symm⟩, fun h' => congrArg _ h'.2.symm⟩

/-- A bar ends a command. -/
theorem stages_bar (c : Command) (rest : List String) : Pipeline.stages c ("|" :: rest) = do
    let command ← c.complete
    return command :: (← Pipeline.stages {} rest) := by
  rw [Pipeline.stages.eq_def]
  exact if_pos rfl

/-- Before a bar stands a command that names a program. -/
theorem stages_bar_eq_ok_iff {c : Command} {rest : List String} {commands : List Command} :
    Pipeline.stages c ("|" :: rest) = .ok commands ↔
      c.argv ≠ [] ∧ ∃ others, Pipeline.stages {} rest = .ok others ∧ commands = c :: others := by
  rw [stages_bar]
  by_cases h : c.argv = []
  · rw [complete_of_unnamed h]
    exact iff_of_false nofun fun h' => h'.1 h
  · rw [complete_of_named h]
    cases Pipeline.stages {} rest with
    | error e => exact iff_of_false nofun fun h' => nomatch h'
    | ok others =>
      constructor
      · intro h'
        exact ⟨h, others, rfl, (Except.ok.inj h').symm⟩
      · rintro ⟨-, others', hothers, rfl⟩
        rw [Except.ok.inj hothers]
        rfl

theorem ofToken?_eq_none_iff {token : String} :
    Redirection.ofToken? token = none ↔ token ≠ "<" ∧ token ≠ ">" := by
  unfold Redirection.ofToken?
  split_ifs with hinput houtput
  · exact iff_of_false nofun fun h => h.1 hinput
  · exact iff_of_false nofun fun h => h.2 houtput
  · exact iff_of_true rfl ⟨hinput, houtput⟩

theorem ofToken?_eq_some_iff {token : String} {r : Redirection} :
    Redirection.ofToken? token = some r ↔ token = r.sign := by
  constructor
  · intro h
    unfold Redirection.ofToken? at h
    split_ifs at h with hinput houtput
    · obtain rfl := Option.some.inj h
      exact hinput
    · obtain rfl := Option.some.inj h
      exact houtput
  · rintro rfl
    cases r <;> decide

/-- A word is plain if it is no bar and announces no redirection. -/
theorem notMem_operators_iff {token : String} :
    token ∉ operators ↔ token ≠ "|" ∧ Redirection.ofToken? token = none := by
  rw [ofToken?_eq_none_iff]
  simp [operators]

/-- The words of an item continue a command by it. -/
theorem stages_item (c : Command) (item : Item) (rest : List String) :
    Pipeline.stages c (item.words ++ rest) = Pipeline.stages (extend c item) rest := by
  cases item with
  | argument word =>
    obtain ⟨bar, unknown⟩ := notMem_operators_iff.mp word.plain
    rw [Item.words, List.singleton_append, Pipeline.stages.eq_def]
    dsimp only
    rw [if_neg bar, unknown]
    rfl
  | redirection r target =>
    have plain := isOperator_eq_false_iff.mpr target.plain
    have bar : r.sign ≠ "|" := by cases r <;> decide
    have known : Redirection.ofToken? r.sign = some r := ofToken?_eq_some_iff.mpr rfl
    rw [Item.words, List.cons_append, List.singleton_append, Pipeline.stages.eq_def]
    dsimp only
    rw [if_neg bar, known]
    dsimp only
    rw [plain]
    rfl

/-- The words of some items continue a command by these items. -/
theorem stages_items (items : List Item) (c : Command) (rest : List String) :
    Pipeline.stages c (items.flatMap Item.words ++ rest) =
      Pipeline.stages (items.foldl extend c) rest := by
  induction items generalizing c with
  | nil => rfl
  | cons item items ih =>
    rw [List.flatMap_cons, List.append_assoc, stages_item, ih, List.foldl_cons]

theorem stages_phrase (p : Phrase) (rest : List String) :
    Pipeline.stages {} (p.words ++ rest) = Pipeline.stages p.command rest := by
  rw [Phrase.words, stages_items, foldl_extend_empty]
  rfl

/-- **The words of phrases are read as the commands that they ask for.** -/
theorem stages_spell (p : Phrase) (others : List Phrase) :
    Pipeline.stages {} (spell (p :: others)) = .ok ((p :: others).map Phrase.command) := by
  rw [spell_cons, stages_phrase]
  induction others generalizing p with
  | nil => exact stages_nil_eq_ok_iff.mpr ⟨p.named, rfl⟩
  | cons other others ih =>
    rw [List.flatMap_cons, List.cons_append]
    refine stages_bar_eq_ok_iff.mpr ⟨p.named, _, ?_, rfl⟩
    rw [stages_phrase]
    exact ih other

/-- **What is read continues a first command by some items, and others are those of phrases.** -/
theorem exists_of_stages {c : Command} {tokens : List String} {commands : List Command}
    (h : Pipeline.stages c tokens = .ok commands) :
    ∃ (items : List Item) (others : List Phrase), tokens = items.flatMap Item.words ++
        others.flatMap (fun other => "|" :: other.words) ∧
      (items.foldl extend c).argv ≠ [] ∧
      commands = items.foldl extend c :: others.map Phrase.command := by
  fun_induction Pipeline.stages c tokens generalizing commands with
  | case1 c =>
    obtain ⟨named, rfl⟩ := stages_nil_eq_ok_iff.mp ((stages_nil c).trans h)
    exact ⟨[], [], rfl, named, rfl⟩
  | case2 c rest ih =>
    obtain ⟨named, others, hothers, rfl⟩ := stages_bar_eq_ok_iff.mp ((stages_bar c rest).trans h)
    -- the words behind the bar are those of phrases, the first of which starts afresh
    obtain ⟨items, phrases, rfl, named', rfl⟩ := ih hothers
    rw [foldl_extend_empty] at named' ⊢
    exact ⟨[], ⟨items, named'⟩ :: phrases, rfl, named, rfl⟩
  | case3 c token bar rest unknown ih =>
    obtain ⟨items, phrases, rfl, named, rfl⟩ := ih h
    have plain := notMem_operators_iff.mpr ⟨bar, unknown⟩
    exact ⟨.argument ⟨token, plain⟩ :: items, phrases, rfl, named, rfl⟩
  | case4 => cases h
  | case5 => cases h
  | case6 c token bar r target rest known plain ih =>
    obtain ⟨items, phrases, rfl, named, rfl⟩ := ih h
    obtain rfl := ofToken?_eq_some_iff.mp known
    have plain := isOperator_eq_false_iff.mp (Bool.eq_false_iff.mpr plain)
    exact ⟨.redirection r ⟨target, plain⟩ :: items, phrases, rfl, named, rfl⟩

/-- **Words are read as commands if and only if they are those of phrases, and the commands are the
ones that the phrases ask for.** -/
theorem stages_eq_ok_iff {tokens : List String} {commands : List Command} :
    Pipeline.stages {} tokens = .ok commands ↔
      ∃ phrases, phrases ≠ [] ∧ spell phrases = tokens ∧ phrases.map Phrase.command = commands := by
  constructor
  · intro h
    obtain ⟨items, others, rfl, named, rfl⟩ := exists_of_stages h
    rw [foldl_extend_empty] at named ⊢
    exact ⟨⟨items, named⟩ :: others, List.cons_ne_nil _ _, spell_cons _ _, rfl⟩
  · rintro ⟨phrases, hne, rfl, rfl⟩
    obtain ⟨p, others, rfl⟩ := List.exists_cons_of_ne_nil hne
    exact stages_spell p others

/-! ### The mark of the background -/

theorem splitBackground_of_marked {tokens : List String} (h : tokens.getLast? = some "&") :
    Pipeline.splitBackground tokens = (tokens.dropLast, true) := if_pos h

theorem splitBackground_of_unmarked {tokens : List String} (h : tokens.getLast? ≠ some "&") :
    Pipeline.splitBackground tokens = (tokens, false) := if_neg h

/-- The mark of the background is told apart from the phrases. -/
theorem splitBackground_words (s : Sentence) :
    Pipeline.splitBackground s.words = (spell s.phrases, s.background) := by
  unfold Sentence.words
  cases hbackground : s.background with
  | true => rw [if_pos rfl, splitBackground_of_marked List.getLast?_concat, List.dropLast_concat]
  | false =>
    rw [if_neg Bool.false_ne_true, List.append_nil]
    exact splitBackground_of_unmarked (s.unmarked hbackground)

theorem ofTokens_eq_ok {tokens : List String} {pipeline : Pipeline} :
    Pipeline.ofTokens tokens = .ok pipeline ↔
      Pipeline.stages {} (Pipeline.splitBackground tokens).1 = .ok pipeline.commands ∧
        pipeline.background = (Pipeline.splitBackground tokens).2 := by
  unfold Pipeline.ofTokens
  cases h : Pipeline.stages {} (Pipeline.splitBackground tokens).1 with
  | error e =>
    dsimp only
    rw [h]
    exact iff_of_false nofun fun h' => nomatch h'.1
  | ok commands =>
    dsimp only
    rw [h]
    constructor
    · intro h'
      obtain rfl := Except.ok.inj h'
      exact ⟨rfl, rfl⟩
    · rintro ⟨hcommands, hbackground⟩
      rw [Except.ok.inj hcommands, ← hbackground]
      rfl

/-- **Words are read as a pipeline if and only if they are those of a sentence, and the pipeline is
the one that the sentence asks for.** -/
theorem ofTokens_eq_ok_iff {tokens : List String} {pipeline : Pipeline} :
    Pipeline.ofTokens tokens = .ok pipeline ↔
      ∃ s : Sentence, s.words = tokens ∧ s.pipeline = pipeline := by
  rw [ofTokens_eq_ok, stages_eq_ok_iff]
  constructor
  · obtain ⟨commands, background⟩ := pipeline
    rintro ⟨⟨phrases, hne, hspell, hcommands⟩, hbackground⟩
    obtain rfl : _ = commands := hcommands
    obtain rfl : background = _ := hbackground
    by_cases hlast : tokens.getLast? = some "&"
    · rw [splitBackground_of_marked hlast] at hspell ⊢
      refine ⟨⟨phrases, true, hne, nofun⟩, ?_, rfl⟩
      exact (congrArg (· ++ ["&"]) hspell).trans (List.dropLast_append_getLast? _ hlast)
    · rw [splitBackground_of_unmarked hlast] at hspell ⊢
      refine ⟨⟨phrases, false, hne, fun _ => hspell ▸ hlast⟩, ?_, rfl⟩
      exact (List.append_nil _).trans hspell
  · rintro ⟨s, rfl, rfl⟩
    rw [splitBackground_words]
    exact ⟨⟨s.phrases, s.nonempty, rfl, rfl⟩, rfl⟩

/-- A redirection may come first, and a `&` that is not the last word is an argument. -/
example : Pipeline.ofTokens [">", "f", "a", "&", "b"] =
    .ok {
      commands := [{ argv := ["a", "&", "b"], output := some "f" }]
      background := false } := rfl

end Grammar
end JobControl
