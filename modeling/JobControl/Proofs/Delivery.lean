import Mathlib.Data.List.TakeWhile
import JobControl.Proofs.Encoding
import JobControl.Proofs.Reports
import JobControl.Proofs.SearchPath

/-!
# What a program is started with

A text that is handed to the system ends at its first NUL character, so a text that holds one would
arrive cut off.  Nothing is started with such a text.  The words of each command are checked when
its program is searched for, and the paths of its redirections when they are opened; a name with a
NUL character fails the search, as no file is called so.

## Main definitions

* `Text.received bs` — what arrives of some bytes.
* `Command.texts c` — all texts of a command: its words and the paths of its redirections.
* `Check` — the words of a command, or the path of a redirection; `Pipeline.checks` is the order in
  which they are checked.
* `Check.Fails check cause` — what may be told when a check fails.
* `Preparation.Intact p` — a stage has the words and the files that its command asks for.
* `Pipeline.BlamedFor pipeline cause` — the first check that fails is told.

## Main results

* `Text.received_eq_iff` — bytes arrive as they are if none of them is NUL.
* `checked_of_prepare` — **checks are made in order, up to the first that fails.**
* `arguments_reach_exec` — **what a pipeline is prepared with arrives as it is, and a pipeline with
  a text that would not is rejected before anything is started.**
-/

namespace JobControl

open JobControl.Action (run_pure_iff run_bind_iff run_ask_bind_iff)

/-! ### Bytes -/

namespace Text

/-- What arrives of some bytes: they are handed over with a NUL byte at their end, and are read up
to the first one. -/
def received (bs : List UInt8) : List UInt8 := (bs ++ [0]).takeWhile (· ≠ 0)

/-- **Bytes arrive as they are if and only if none of them is NUL.** -/
theorem received_eq_iff {bs : List UInt8} : received bs = bs ↔ 0 ∉ bs := by
  rw [received]
  constructor
  · intro h nul
    rw [← h] at nul
    simpa using List.mem_takeWhile_imp nul
  · intro h
    have all : ∀ b ∈ bs, decide (b ≠ 0) = true := fun b hb =>
      decide_eq_true fun hzero => h (hzero ▸ hb)
    rw [List.takeWhile_append_of_pos all]
    simp

end Text

namespace Command

/-- The paths of the redirections of a command. -/
def paths (c : Command) : List String := c.input.toList ++ c.output.toList

/-- The words of a command and the paths of its redirections. -/
def texts (c : Command) : List String := c.argv ++ c.paths

end Command

/-! ### Searches -/

namespace Search

variable {rounds : Nat} {events : List Event} {name : String} {path : List UInt8}

theorem clean_of_isRunnable (h : (isRunnable path rounds).Run events true) :
    Text.hasNulByte path = false := by
  rw [isRunnable] at h
  split at h
  · cases (run_pure_iff.mp h).2
  · next clean => exact Bool.eq_false_iff.mpr clean

/-- What is found is one of the paths that are tried, and holds no NUL byte. -/
theorem mem_of_first {paths : List (List UInt8)} :
    ∀ {events : List Event}, (first isRunnable paths rounds).Run events (some path) →
      path ∈ paths ∧ Text.hasNulByte path = false := by
  induction paths with
  | nil =>
    intro events h
    cases (run_pure_iff.mp h).2
  | cons candidate paths ih =>
    intro events h
    obtain ⟨asking, others, found, rfl, hask, hothers⟩ := run_bind_iff.mp h
    cases found with
    | true =>
      cases (run_pure_iff.mp hothers).2
      exact ⟨List.mem_cons_self, clean_of_isRunnable hask⟩
    | false =>
      obtain ⟨hmem, clean⟩ := ih hothers
      exact ⟨List.mem_cons_of_mem _ hmem, clean⟩

/-- The name of a program is a part of each path under which it is looked for. -/
theorem mem_of_mem_candidates {program : List UInt8} {searchPath : Option (List UInt8)} {b : UInt8}
    (h : path ∈ candidates program searchPath) (hb : b ∈ program) : b ∈ path := by
  have joined : ∀ directory, b ∈ join directory program := by
    intro directory
    unfold join
    split_ifs <;> simp [hb]
  rcases List.mem_cons.mp h with rfl | h
  · exact hb
  · cases searchPath with
    | none => cases h
    | some bytes =>
      obtain ⟨directory, -, rfl⟩ := List.mem_map.mp h
      exact joined directory

/-- **No name with a NUL character is found, and no path with a NUL byte is an answer.** -/
theorem clean_of_program (h : (program name rounds).Run events (some path)) :
    Text.hasNul name = false ∧ Text.hasNulByte path = false := by
  obtain ⟨searchPath, rest, rfl, hrest⟩ := run_ask_bind_iff.mp h
  rw [resolve] at hrest
  split at hrest
  · cases (run_pure_iff.mp hrest).2
  · obtain ⟨hmem, clean⟩ := mem_of_first hrest
    rw [← Text.hasNulByte_toBytes]
    rw [Text.hasNulByte_eq_false_iff] at clean ⊢
    rw [Text.hasNulByte_eq_false_iff]
    exact ⟨fun nul => clean (mem_of_mem_candidates hmem nul), clean⟩

/-- On files that do not change meanwhile, a search comes to the answer that they give. -/
theorem answer_of_program {found : Option (List UInt8)}
    (h : (program name rounds).Run events found) :
    ∃ searchPath, ⟨.environment "PATH", searchPath⟩ ∈ events ∧
      ∀ files, Answered files events → answer files name searchPath = found := by
  obtain ⟨searchPath, rest, rfl, hrest⟩ := run_ask_bind_iff.mp h
  refine ⟨searchPath, List.mem_cons_self, fun files answered => ?_⟩
  exact (run_resolve_iff.mp ⟨rest, hrest, fun path said hmem =>
    answered path said (List.mem_cons_of_mem _ hmem)⟩).symm

end Search

/-! ### Checks -/

/-- What is checked of a pipeline. -/
inductive Check
  /-- That the first word of a command names a program, which can be started with the others. -/
  | words (argv : List String)
  /-- That the file of a redirection can be opened. -/
  | file (path : String)

namespace Check

/-- The texts that are checked. -/
def texts : Check → List String
  | words argv => argv
  | file path => [path]

/-- The texts that are checked hold no NUL character. -/
def Clean (check : Check) : Prop := ∀ text ∈ check.texts, Text.hasNul text = false

/-- What may be told when a check fails. -/
inductive Fails : Check → Rejection → Prop
  | unnamed : Fails (words []) (.malformed .emptyStage)
  | notFound {name : String} {arguments : List String} :
      Fails (words (name :: arguments)) (.programNotFound name)
  | nulInArgument {name : String} {arguments : List String} : Text.hasNul name = false →
      arguments.any Text.hasNul = true →
      Fails (words (name :: arguments)) (.launch (.nulInArgument name))
  | nulInPath {path : String} : Text.hasNul path = true →
      Fails (file path) (.redirection path .nulInPath)
  | refused {path : String} {errno : Errno} : Text.hasNul path = false →
      Fails (file path) (.redirection path (.refused errno))

/-- A check of a text with a NUL character fails for a program that is not found, or for the
character. -/
theorem Fails.cause_of_not_clean {check : Check} {cause : Rejection} (h : check.Fails cause)
    (nul : ¬ check.Clean) : (∃ name, cause = .programNotFound name) ∨
      (∃ name, cause = .launch (.nulInArgument name)) ∨
      ∃ path, cause = .redirection path .nulInPath := by
  cases h with
  | unnamed => exact absurd (List.forall_mem_nil _) nul
  | notFound => exact .inl ⟨_, rfl⟩
  | nulInArgument _ _ => exact .inr (.inl ⟨_, rfl⟩)
  | nulInPath _ => exact .inr (.inr ⟨_, rfl⟩)
  | @refused path _ clean =>
    have : (file path).Clean := List.forall_mem_singleton.mpr clean
    exact absurd this nul

end Check

/-- The order in which a pipeline is checked: the words of all commands, and then the paths of all
redirections. -/
def Pipeline.checks (p : Pipeline) : List Check :=
  p.commands.map (.words ·.argv) ++ p.commands.flatMap fun c => c.paths.map .file

/-- A pipeline with such a text has a check that is not clean. -/
theorem Pipeline.exists_check {p : Pipeline} {command : Command} (hcommand : command ∈ p.commands)
    {text : String} (htext : text ∈ command.texts) :
    ∃ check ∈ p.checks, text ∈ check.texts := by
  rcases List.mem_append.mp htext with h | h
  · exact ⟨.words command.argv, List.mem_append_left _ (List.mem_map_of_mem hcommand), h⟩
  · exact ⟨.file text, List.mem_append_right _ (List.mem_flatMap.mpr
      ⟨command, hcommand, List.mem_map_of_mem h⟩), List.mem_singleton_self text⟩

/-- Some checks are made in order, up to the first that fails. -/
inductive Checked {α : Type} : List Check → Except Rejection α → Prop
  | passed (a : α) : Checked [] (.ok a)
  | failed {check : Check} {rest : List Check} {cause : Rejection} : check.Fails cause →
      Checked (check :: rest) (.error cause)
  | next {check : Check} {rest : List Check} {result : Except Rejection α} : check.Clean →
      Checked rest result → Checked (check :: rest) result

namespace Checked

variable {α β : Type} {checks more : List Check} {cause : Rejection}

theorem append {a : α} {result : Except Rejection β} (h : Checked checks (.ok a))
    (others : Checked more result) : Checked (checks ++ more) result := by
  generalize hfirst : (.ok a : Except Rejection α) = first at h
  induction h with
  | passed _ => exact others
  | failed _ => cases hfirst
  | next clean _ ih => exact .next clean (ih hfirst)

theorem stop (h : Checked checks (.error cause : Except Rejection α)) (more : List Check) :
    Checked (checks ++ more) (.error cause : Except Rejection β) := by
  generalize hfirst : (.error cause : Except Rejection α) = first at h
  induction h with
  | passed _ => cases hfirst
  | failed fails =>
    cases hfirst
    exact .failed fails
  | next clean _ ih => exact .next clean (ih hfirst)

/-- What the checks that are passed come to does not matter. -/
theorem ok {a : α} (h : Checked checks (.ok a)) (b : β) : Checked checks (.ok b) := by
  have := h.append (.passed b)
  rwa [List.append_nil] at this

/-- Nor does it matter what the check that fails keeps from being made. -/
theorem error (h : Checked checks (.error cause : Except Rejection α)) :
    Checked checks (.error cause : Except Rejection β) := by
  have := h.stop (β := β) []
  rwa [List.append_nil] at this

/-- If the checks are passed, no text holds a NUL character. -/
theorem clean {a : α} (h : Checked checks (.ok a)) : ∀ check ∈ checks, check.Clean := by
  generalize hresult : (.ok a : Except Rejection α) = result at h
  induction h with
  | passed _ => exact List.forall_mem_nil _
  | failed _ => cases hresult
  | next clean _ ih => exact List.forall_mem_cons.mpr ⟨clean, ih hresult⟩

/-- If one fails, no text that was checked before holds a NUL character. -/
theorem split (h : Checked checks (.error cause : Except Rejection α)) :
    ∃ before check after, checks = before ++ check :: after ∧ (∀ c ∈ before, c.Clean) ∧
      check.Fails cause := by
  generalize hresult : (.error cause : Except Rejection α) = result at h
  induction h with
  | passed _ => cases hresult
  | @failed check rest _ fails =>
    cases hresult
    exact ⟨[], check, rest, rfl, List.forall_mem_nil _, fails⟩
  | @next first _ _ clean _ ih =>
    obtain ⟨before, check, after, rfl, cleans, fails⟩ := ih hresult
    exact ⟨first :: before, check, after, rfl, List.forall_mem_cons.mpr ⟨clean, cleans⟩, fails⟩

end Checked

/-! ### Runs -/

section Runs

variable {rounds : Nat} {events : List Event}

theorem checked_of_find {command : Command} {result : Except Rejection Program}
    (h : (Program.find command rounds).Run events result) :
    Checked [.words command.argv] result := by
  cases hargv : command.argv with
  | nil =>
    rw [Program.find, hargv] at h
    obtain ⟨-, rfl⟩ := run_pure_iff.mp h
    exact .failed .unnamed
  | cons name arguments =>
    rw [Program.find, hargv] at h
    obtain ⟨searching, last, found, rfl, hsearch, hlast⟩ := run_bind_iff.mp h
    cases found with
    | none =>
      obtain ⟨-, rfl⟩ := run_pure_iff.mp hlast
      exact .failed .notFound
    | some path =>
      obtain ⟨name_clean, path_clean⟩ := Search.clean_of_program hsearch
      dsimp only at hlast
      have same : Text.hasNulByte ∘ Text.toBytes = Text.hasNul := funext Text.hasNulByte_toBytes
      rw [List.any_cons, path_clean, Bool.false_or, List.any_map, same] at hlast
      split at hlast
      · next nul =>
        obtain ⟨-, rfl⟩ := run_pure_iff.mp hlast
        exact .failed (.nulInArgument name_clean nul)
      · next clean =>
        obtain ⟨-, rfl⟩ := run_pure_iff.mp hlast
        exact .next (List.forall_mem_cons.mpr ⟨name_clean, by simpa using clean⟩) (.passed _)

theorem checked_of_findAll {commands : List Command} :
    ∀ {events : List Event} {result : Except Rejection (List Program)},
      (Program.findAll commands rounds).Run events result →
      Checked (commands.map (.words ·.argv)) result := by
  induction commands with
  | nil =>
    intro events result h
    obtain ⟨-, rfl⟩ := run_pure_iff.mp h
    exact .passed _
  | cons command commands ih =>
    intro events result h
    obtain ⟨finding, more, found, rfl, hfind, hmore⟩ := run_bind_iff.mp h
    cases found with
    | error cause =>
      obtain ⟨-, rfl⟩ := run_pure_iff.mp hmore
      exact (checked_of_find hfind).stop _
    | ok program =>
      obtain ⟨others, last, found, rfl, hothers, hlast⟩ := run_bind_iff.mp hmore
      cases found with
      | error cause =>
        obtain ⟨-, rfl⟩ := run_pure_iff.mp hlast
        exact (checked_of_find hfind).append (ih hothers)
      | ok programs =>
        obtain ⟨-, rfl⟩ := run_pure_iff.mp hlast
        exact (checked_of_find hfind).append ((ih hothers).ok _)

theorem checked_of_openFile (redirection : Redirection) {path : Option String}
    {result : Except Rejection (Option Fd)}
    (h : (Stage.openFile redirection.request path rounds).Run events result) :
    Checked (path.toList.map .file) result := by
  cases path with
  | none =>
    obtain ⟨-, rfl⟩ := run_pure_iff.mp h
    exact .passed _
  | some path =>
    rw [Stage.openFile] at h
    split at h
    · next nul =>
      obtain ⟨-, rfl⟩ := run_pure_iff.mp h
      exact .failed (.nulInPath nul)
    · next clean =>
      have clean := Bool.eq_false_iff.mpr clean
      obtain ⟨asking, last, answer, rfl, -, hlast⟩ := run_bind_iff.mp h
      cases answer with
      | error errno =>
        obtain ⟨-, rfl⟩ := run_pure_iff.mp hlast
        exact .failed (.refused clean)
      | ok fd =>
        obtain ⟨-, rfl⟩ := run_pure_iff.mp hlast
        exact .next (List.forall_mem_singleton.mpr clean) (.passed _)

/-- The input of a command is opened, and then its output. -/
theorem checked_of_openFiles {program : Program} {command : Command}
    {result : Except Rejection Stage}
    (h : (Stage.openFiles program command rounds).Run events result) :
    Checked (command.paths.map .file) result := by
  rw [Command.paths, List.map_append]
  obtain ⟨reading, more, input, rfl, hinput, hmore⟩ := run_bind_iff.mp h
  have input_checked := checked_of_openFile .input hinput
  cases input with
  | error cause =>
    obtain ⟨-, rfl⟩ := run_pure_iff.mp hmore
    exact input_checked.stop _
  | ok input =>
    obtain ⟨writing, last, output, rfl, houtput, hlast⟩ := run_bind_iff.mp hmore
    have output_checked := checked_of_openFile .output houtput
    cases output with
    | error cause =>
      obtain ⟨_, _, _, -, -, hend⟩ := run_bind_iff.mp hlast
      obtain ⟨-, rfl⟩ := run_pure_iff.mp hend
      exact input_checked.append output_checked.error
    | ok output =>
      obtain ⟨-, rfl⟩ := run_pure_iff.mp hlast
      exact input_checked.append (output_checked.ok _)

theorem checked_of_openAll {rows : List (Program × Command)} :
    ∀ {events : List Event} {result : Except Rejection (List Stage)},
      (Stage.openAll rows rounds).Run events result →
      Checked ((rows.map Prod.snd).flatMap fun c => c.paths.map .file) result := by
  induction rows with
  | nil =>
    intro events result h
    obtain ⟨-, rfl⟩ := run_pure_iff.mp h
    exact .passed _
  | cons row rows ih =>
    intro events result h
    rw [List.map_cons, List.flatMap_cons]
    obtain ⟨opening, more, stage, rfl, hopen, hmore⟩ := run_bind_iff.mp h
    have first := checked_of_openFiles hopen
    cases stage with
    | error cause =>
      obtain ⟨-, rfl⟩ := run_pure_iff.mp hmore
      exact first.stop _
    | ok stage =>
      obtain ⟨others, last, found, rfl, hothers, hlast⟩ := run_bind_iff.mp hmore
      cases found with
      | error cause =>
        obtain ⟨_, _, _, -, -, hend⟩ := run_bind_iff.mp hlast
        obtain ⟨-, rfl⟩ := run_pure_iff.mp hend
        exact first.append (ih hothers)
      | ok stages =>
        obtain ⟨-, rfl⟩ := run_pure_iff.mp hlast
        exact first.append ((ih hothers).ok _)

/-- **A pipeline is checked in order, up to the first check that fails.** -/
theorem checked_of_prepare {pipeline : Pipeline} {result : Except Rejection (List Stage)}
    (h : (Stage.prepare pipeline rounds).Run events result) : Checked pipeline.checks result := by
  obtain ⟨finding, opening, found, rfl, hfind, hopen⟩ := run_bind_iff.mp h
  have words := checked_of_findAll hfind
  cases found with
  | error cause =>
    obtain ⟨-, rfl⟩ := run_pure_iff.mp hopen
    exact words.stop _
  | ok programs =>
    have commands_eq : (programs.zip pipeline.commands).map Prod.snd = pipeline.commands :=
      List.map_snd_zip (Nat.le_of_eq (length_of_findAll hfind).symm)
    have files := checked_of_openAll hopen
    rw [commands_eq] at files
    exact words.append files

end Runs

/-! ### Stages -/

/-- A stage has what its command asks for, and the texts that its program is started with arrive as
they are. -/
structure Preparation.Intact (rounds : Nat) (p : Preparation) : Prop where
  /-- The program is the one that the search for the first word comes to, which on files that do not
  change is the answer that they give.  It is started with its path and the other words. -/
  program : ∃ name arguments, p.command.argv = name :: arguments ∧
    (Search.program name rounds).Run p.searching (some p.stage.program.path) ∧
    (∃ searchPath, ⟨.environment "PATH", searchPath⟩ ∈ p.searching ∧
      ∀ files, Search.Answered files p.searching →
        Search.answer files name searchPath = some p.stage.program.path) ∧
    p.stage.program.argv = p.stage.program.path :: arguments.map Text.toBytes ∧
    Text.received p.stage.program.path = p.stage.program.path ∧
    p.stage.program.argv.map Text.received = p.stage.program.argv
  input : p.stage.input.isSome = p.command.input.isSome
  output : p.stage.output.isSome = p.command.output.isSome
  /-- The descriptors are those that the files were opened under, the input first. -/
  opens : ∃ reading writing, p.opening = reading ++ writing ∧
    Redirection.input.Yields p.command.input reading p.stage.input ∧
    Redirection.output.Yields p.command.output writing p.stage.output
  clean : ∀ text ∈ p.command.texts, Text.hasNul text = false

theorem Redirection.Yields.isSome_eq {r : Redirection} {path : Option String} {events : List Event}
    {file : Option Fd} (h : r.Yields path events file) : file.isSome = path.isSome := by
  cases h <;> rfl

theorem Preparation.Succeeds.intact {rounds : Nat} {p : Preparation} (h : p.Succeeds rounds)
    (clean : ∀ text ∈ p.command.texts, Text.hasNul text = false) : p.Intact rounds := by
  obtain ⟨reading, writing, split, input, output⟩ := h.opens
  refine ⟨?_, input.isSome_eq, output.isSome_eq, h.opens, clean⟩
  obtain ⟨command, searching, opening, program, _, _⟩ := p
  obtain ⟨hargv, search, arrives⟩ := h.finds
  have received : ∀ bytes ∈ _ :: _, Text.received bytes = bytes := fun bytes hbytes =>
    Text.received_eq_iff.mpr (Text.hasNulByte_eq_false_iff.mp (arrives bytes hbytes))
  exact ⟨_, _, hargv, search, Search.answer_of_program search, rfl,
    received _ List.mem_cons_self, (List.map_congr_left received).trans (List.map_id _)⟩

/-- The first check of a pipeline that fails is told, and before it no text holds a NUL character.
If there is one in the texts of this check, a program is not found, or the character is told. -/
def Pipeline.BlamedFor (p : Pipeline) (cause : Rejection) : Prop :=
  ∃ before check after, p.checks = before ++ check :: after ∧ (∀ c ∈ before, c.Clean) ∧
    check.Fails cause ∧
    (¬ check.Clean → (∃ name, cause = .programNotFound name) ∨
      (∃ name, cause = .launch (.nulInArgument name)) ∨
      ∃ path, cause = .redirection path .nulInPath)

theorem Checked.blamedFor {p : Pipeline} {α : Type} {cause : Rejection}
    (h : Checked p.checks (.error cause : Except Rejection α)) : p.BlamedFor cause := by
  obtain ⟨before, check, after, split, clean, fails⟩ := h.split
  exact ⟨before, check, after, split, clean, fails, fails.cause_of_not_clean⟩

/-- No process is asked for. -/
def Unforked (events : List Event) : Prop := ∀ e ∈ events, ∀ child, e.call ≠ .fork child

theorem Ordinary.unforked {events : List Event} (h : Ordinary events) : Unforked events := by
  rintro e he child hcall
  have := h e he
  rw [hcall] at this
  cases this

section Lines

variable {rounds : Nat} {events : List Event} {pipeline : Pipeline}

/-- Every check of a pipeline that can be prepared is passed. -/
theorem clean_of_prepare {stages : List Stage}
    (h : (Stage.prepare pipeline rounds).Run events (.ok stages)) :
    ∀ command ∈ pipeline.commands, ∀ text ∈ command.texts, Text.hasNul text = false := by
  intro command hcommand text htext
  obtain ⟨check, hcheck, hmem⟩ := Pipeline.exists_check hcommand htext
  exact (checked_of_prepare h).clean check hcheck text hmem

/-- A pipeline with a NUL character in one of its texts cannot be prepared. -/
theorem blamed_of_prepare {result : Except Rejection (List Stage)}
    (nul : ∃ command ∈ pipeline.commands, ∃ text ∈ command.texts, Text.hasNul text = true)
    (h : (Stage.prepare pipeline rounds).Run events result) :
    ∃ cause, result = .error cause ∧ pipeline.BlamedFor cause := by
  cases result with
  | ok stages =>
    obtain ⟨command, hcommand, text, htext, hnul⟩ := nul
    rw [clean_of_prepare h command hcommand text htext] at hnul
    cases hnul
  | error cause => exact ⟨cause, rfl, (checked_of_prepare h).blamedFor⟩

theorem unforked_reapBackground {shell shell' : Shell}
    (h : (shell.reapBackground rounds).Run events shell') : Unforked events := by
  have only : shell.reapBackground.Only fun c => ∀ child, c ≠ .fork child :=
    only_reapBackground (fun _ _ => nofun) (fun _ _ => nofun) fun _ _ => nofun
  exact only.of_run h

/-- A line with such a pipeline starts nothing. -/
theorem blamed_of_execute {tokens : List String} {shell shell' : Shell} {report : Report}
    (parsed : Pipeline.ofTokens tokens = .ok pipeline) (unnamed : Line.builtin? tokens = none)
    (nul : ∃ command ∈ pipeline.commands, ∃ text ∈ command.texts, Text.hasNul text = true)
    (h : (Line.execute shell tokens rounds).Run events (shell', report)) :
    Unforked events ∧ ∃ cause, report = .rejected cause ∧ pipeline.BlamedFor cause := by
  obtain ⟨reaping, rest, middle, rfl, hreap, executed⟩ := executed_of_run h
  have unprepared : ∀ {preparing stages},
      ¬ (Stage.prepare pipeline rounds).Run preparing (.ok stages) := by
    intro preparing stages hprepare
    obtain ⟨cause, hcause, -⟩ := blamed_of_prepare nul hprepare
    cases hcause
  cases executed with
  | empty => cases parsed
  | builtin hname _ | exit hname _ => exact nomatch unnamed.symm.trans hname
  | pipeline _ hevaluate =>
    cases evaluated_of_run hevaluate with
    | malformed parsed' => exact nomatch parsed.symm.trans parsed'
    | @unprepared _ preparing cause parsed' hprepare =>
      obtain rfl := Except.ok.inj (parsed.symm.trans parsed')
      obtain ⟨_, hcause, blamed⟩ := blamed_of_prepare nul hprepare
      cases hcause
      have ordinary : Ordinary (preparing ++ [⟨.say (.rejected cause), ()⟩]) :=
        List.forall_mem_append.mpr ⟨(ordinary_prepare pipeline).of_run hprepare,
          List.forall_mem_singleton.mpr rfl⟩
      exact ⟨List.forall_mem_append.mpr ⟨unforked_reapBackground hreap, ordinary.unforked⟩,
        cause, rfl, blamed⟩
    | unlaunched parsed' hprepare _ | launched parsed' hprepare _ _ _ =>
      obtain rfl := Except.ok.inj (parsed.symm.trans parsed')
      exact absurd hprepare unprepared

end Lines

/-- **What a pipeline is prepared with arrives as it is.**  Whatever the system answers, preparing a
pipeline comes to an end, and no process is asked for meanwhile.  If it succeeds, there is one stage
for each command, in order, with the program that the first word leads to, with the path of this
program and the other words as its arguments, byte for byte, and with a file for each redirection;
and no text of the pipeline holds a NUL character.  If a text holds one, preparing fails: what is
told is the check of this text or an earlier one, and a line with this pipeline is rejected for it
and starts nothing. -/
theorem arguments_reach_exec (pipeline : Pipeline) (rounds : Nat) :
    ((Stage.prepare pipeline).Ends fun c => c.isOrdinary = true) ∧
    (∀ events result, (Stage.prepare pipeline rounds).Run events result → Unforked events) ∧
    (∀ events stages, (Stage.prepare pipeline rounds).Run events (.ok stages) →
      ∃ preparations : List Preparation, preparations.map (·.command) = pipeline.commands ∧
        preparations.map (·.stage) = stages ∧
        events =
          (preparations.map (·.searching)).flatten ++ (preparations.map (·.opening)).flatten ∧
        ∀ p ∈ preparations, p.Intact rounds) ∧
    ((∃ command ∈ pipeline.commands, ∃ text ∈ command.texts, Text.hasNul text = true) →
      (∀ events result, (Stage.prepare pipeline rounds).Run events result →
        ∃ cause, result = .error cause ∧ pipeline.BlamedFor cause) ∧
      ∀ tokens shell events shell' report, Pipeline.ofTokens tokens = .ok pipeline →
        Line.builtin? tokens = none →
        (Line.execute shell tokens rounds).Run events (shell', report) →
        Unforked events ∧ ∃ cause, report = .rejected cause ∧ pipeline.BlamedFor cause) := by
  refine ⟨ends_prepare pipeline, fun events result run => ?_, fun events stages run => ?_,
    fun nul => ⟨fun events result run => blamed_of_prepare nul run,
      fun tokens shell events shell' report parsed unnamed run =>
        blamed_of_execute parsed unnamed nul run⟩⟩
  · have ordinary : Ordinary events := (ordinary_prepare pipeline).of_run run
    exact ordinary.unforked
  · obtain ⟨preparations, commands_eq, stages_eq, events_eq, succeed⟩ := preparations_of_run run
    refine ⟨preparations, commands_eq, stages_eq, events_eq, fun p hp => (succeed p hp).intact ?_⟩
    exact clean_of_prepare run p.command (commands_eq ▸ List.mem_map_of_mem hp)

/-! The command `tool 'x y' < /in` with its program in a directory whose name is no text, and the
line `/a | /a` whose second stage has an argument with a NUL character. -/

namespace Sample

def feeding : Pipeline where
  commands := [{ argv := ["tool", "x y"], input := some "/in" }]
  background := false

/-- The path `/tool` in a directory with a byte that begins no character. -/
def toolPath : List UInt8 := [47, 0xff] ++ Text.toBytes "/tool"

theorem run_feeding : (Stage.prepare feeding 0).Run [
    ⟨.environment "PATH", some [47, 0xff]⟩, ⟨.metadata (Text.toBytes "tool"), .error .enoent⟩,
    ⟨.metadata toolPath, .ok ⟨.regular, 0o755, 0⟩⟩, ⟨.openInput "/in", .ok 3⟩]
    (.ok [⟨⟨"tool", toolPath, [toolPath, Text.toBytes "x y"]⟩, some 3, none⟩]) :=
  .ask (.ask (.ask (.ask (.done _))))

def cutting : Pipeline where
  commands := [{ argv := ["/a"] }, { argv := ["/a", "x\x00y"] }]
  background := false

/-- Both programs are found, and the argument is told. -/
def refusingNul : List Event := [
  ⟨.environment "PATH", none⟩, ⟨.metadata (Text.toBytes "/a"), .ok ⟨.regular, 0o755, 0⟩⟩,
  ⟨.environment "PATH", none⟩, ⟨.metadata (Text.toBytes "/a"), .ok ⟨.regular, 0o755, 0⟩⟩,
  ⟨.say (.rejected (.launch (.nulInArgument "/a"))), ()⟩]

theorem run_refusingNul :
    (Line.execute { terminal := .detached 1 } ["/a", "|", "/a", "x\x00y"] 0).Run refusingNul
      ({ terminal := .detached 1 }, .rejected (.launch (.nulInArgument "/a"))) :=
  .ask (.ask (.ask (.ask (.ask (.done _)))))

end Sample

/-- The first command gets its words, and the second line starts nothing. -/
theorem cut_argument_starts_nothing :
    (∃ preparations : List Preparation,
      preparations.map (·.command) = Sample.feeding.commands ∧
      ∀ p ∈ preparations, p.Intact 0) ∧
    Unforked Sample.refusingNul ∧
    Sample.cutting.BlamedFor (.launch (.nulInArgument "/a")) := by
  obtain ⟨-, -, intact, -⟩ := arguments_reach_exec Sample.feeding 0
  obtain ⟨-, -, -, cut⟩ := arguments_reach_exec Sample.cutting 0
  obtain ⟨preparations, commands_eq, -, -, intact⟩ := intact _ _ Sample.run_feeding
  have nul : ∃ command ∈ Sample.cutting.commands, ∃ text ∈ command.texts,
      Text.hasNul text = true :=
    ⟨{ argv := ["/a", "x\x00y"] }, by simp [Sample.cutting], "x\x00y",
      by simp [Command.texts, Command.paths], by decide⟩
  obtain ⟨unforked, _, hcause, blamed⟩ := (cut nul).2 _ _ _ _ _ rfl rfl Sample.run_refusingNul
  cases hcause
  exact ⟨⟨preparations, commands_eq, intact⟩, unforked, blamed⟩

end JobControl
