import Mathlib.Data.List.Forall2
import JobControl.Proofs.Opening

/-!
# Preparing a pipeline, request by request

Before anything is started, the program of each command is searched for, in the order of the
pipeline, and then the files of each command are opened.  A search tries one path after the other,
and ends at the first that leads to a runnable file.

## Main definitions

* `Search.Tried paths events found` — some paths are tried, up to the first that is runnable.
* `Search.Ended name events found` — the search for a program, from the search path on.
* `Command.Finds`, `Redirection.Yields` — the program that a command is found to name; the
  descriptor under which the file of a redirection is opened.
* `Command.Found`, `Command.Granted` — the search for the program of a command succeeds; its
  redirections are granted.
* `Preparation` — how a command becomes a stage.
* `Line.Prepared commands events` — both, for each command of a line, and no other request of this
  kind.

## Main results

* `Search.ended_of_run` — every search is of this form.
* `preparations_of_run` — **a pipeline is prepared by finding each program and opening each file.**
* `prepared_of_run` — what of this is seen in the requests alone.
-/

namespace JobControl

open JobControl.Action (run_pure_iff run_bind_iff run_ask_bind_iff)

variable {rounds : Nat} {events : List Event}

/-! ### Searches -/

namespace Search

/-- Some paths are tried in order, up to the first that leads to a runnable file. -/
inductive Tried : List (List UInt8) → List Event → Option (List UInt8) → Prop
  | exhausted : Tried [] [] none
  /-- No file can have this path. -/
  | passed {path : List UInt8} {rest : List (List UInt8)} {events : List Event}
      {found : Option (List UInt8)} : Text.hasNulByte path = true → Tried rest events found →
      Tried (path :: rest) events found
  | denied {path : List UInt8} {rest : List (List UInt8)} {answer : Except Errno Metadata}
      {events : List Event} {found : Option (List UInt8)} :
      (∀ metadata, answer = .ok metadata → metadata.isRunnable = false) → Tried rest events found →
      Tried (path :: rest) (⟨.metadata path, answer⟩ :: events) found
  | runnable {path : List UInt8} {rest : List (List UInt8)} {metadata : Metadata} :
      metadata.isRunnable = true →
      Tried (path :: rest) [⟨.metadata path, .ok metadata⟩] (some path)

/-- The search for a program: an empty name is not searched for. -/
inductive Ended (name : String) : List Event → Option (List UInt8) → Prop
  | unnamed {path : Option (List UInt8)} : name = "" →
      Ended name [⟨.environment "PATH", path⟩] none
  | tried {path : Option (List UInt8)} {events : List Event} {found : Option (List UInt8)} :
      name ≠ "" → Tried (candidates (Text.toBytes name) path) events found →
      Ended name (⟨.environment "PATH", path⟩ :: events) found

theorem tried_of_run {paths : List (List UInt8)} :
    ∀ {events : List Event} {found : Option (List UInt8)},
      (first isRunnable paths rounds).Run events found → Tried paths events found := by
  induction paths with
  | nil =>
    intro events found h
    obtain ⟨rfl, rfl⟩ := run_pure_iff.mp h
    exact .exhausted
  | cons path rest ih =>
    intro events found h
    obtain ⟨asking, more, runnable, rfl, hask, hmore⟩ := run_bind_iff.mp h
    rw [isRunnable] at hask
    split at hask
    · next hnul =>
      obtain ⟨rfl, rfl⟩ := run_pure_iff.mp hask
      exact .passed hnul (ih hmore)
    · obtain ⟨answer, last, rfl, hlast⟩ := run_ask_bind_iff.mp hask
      cases answer with
      | error e =>
        obtain ⟨rfl, rfl⟩ := run_pure_iff.mp hlast
        exact .denied nofun (ih hmore)
      | ok metadata =>
        obtain ⟨rfl, rfl⟩ := run_pure_iff.mp hlast
        cases hrunnable : metadata.isRunnable with
        | true =>
          rw [hrunnable] at hmore
          obtain ⟨rfl, rfl⟩ := run_pure_iff.mp hmore
          exact .runnable hrunnable
        | false =>
          rw [hrunnable] at hmore
          exact .denied (by rintro _ ⟨⟩; exact hrunnable) (ih hmore)

/-- **Every search asks for the search path and then about the candidates in order.** -/
theorem ended_of_run {name : String} {found : Option (List UInt8)}
    (h : (program name rounds).Run events found) : Ended name events found := by
  obtain ⟨path, rest, rfl, hrest⟩ := run_ask_bind_iff.mp h
  rw [resolve] at hrest
  split at hrest
  · next hname =>
    obtain ⟨rfl, rfl⟩ := run_pure_iff.mp hrest
    exact .unnamed hname
  · next hname => exact .tried hname (tried_of_run hrest)

end Search

/-- The search for the program of a command ends at a runnable file. -/
def Command.Found (c : Command) (events : List Event) : Prop :=
  ∃ name path, c.name? = some name ∧ Search.Ended name events (some path)

/-- The search for the program of a command comes to a path.  The program is started with this path
and the arguments of the command, and none of these holds a NUL byte. -/
inductive Command.Finds (rounds : Nat) (c : Command) (events : List Event) : Program → Prop
  | intro {name : String} {path : List UInt8} {arguments : List String} :
      c.argv = name :: arguments → (Search.program name rounds).Run events (some path) →
      (∀ bytes ∈ path :: arguments.map Text.toBytes, Text.hasNulByte bytes = false) →
      Finds rounds c events { name, path, argv := path :: arguments.map Text.toBytes }

theorem finds_of_run {command : Command} {program : Program}
    (h : (Program.find command rounds).Run events (.ok program)) :
    command.Finds rounds events program := by
  cases hargv : command.argv with
  | nil =>
    rw [Program.find, hargv] at h
    cases (run_pure_iff.mp h).2
  | cons name arguments =>
    rw [Program.find, hargv] at h
    obtain ⟨searching, last, found, rfl, hsearch, hlast⟩ := run_bind_iff.mp h
    cases found with
    | none => cases (run_pure_iff.mp hlast).2
    | some path =>
      dsimp only at hlast
      split at hlast
      · cases (run_pure_iff.mp hlast).2
      · next clean =>
        obtain ⟨rfl, hprogram⟩ := run_pure_iff.mp hlast
        cases hprogram
        rw [List.append_nil]
        exact .intro hargv hsearch (by simpa using clean)

theorem allFind_of_run {commands : List Command} :
    ∀ {events : List Event} {programs : List Program},
      (Program.findAll commands rounds).Run events (.ok programs) →
      ∃ found : List (List Event × Program), events = (found.map Prod.fst).flatten ∧
        programs = found.map Prod.snd ∧
        List.Forall₂ (fun command row => command.Finds rounds row.1 row.2) commands found := by
  induction commands with
  | nil =>
    intro events programs h
    obtain ⟨rfl, hprograms⟩ := run_pure_iff.mp h
    cases hprograms
    exact ⟨[], rfl, rfl, .nil⟩
  | cons command commands ih =>
    intro events programs h
    obtain ⟨finding, others, program, rest, rfl, rfl, hfind, hothers⟩ := run_findAll_cons h
    obtain ⟨found, rfl, rfl, finds⟩ := ih hothers
    exact ⟨(finding, program) :: found, rfl, rfl, .cons (finds_of_run hfind) finds⟩

/-! ### Files -/

/-- The file of a redirection is opened. -/
def Redirection.opening : Redirection → String → Fd → Event
  | .input, path, fd => ⟨.openInput path, .ok fd⟩
  | .output, path, fd => ⟨.openOutput path, .ok fd⟩

/-- The file of a redirection is opened, if there is one. -/
inductive Redirection.Granted (r : Redirection) : Option String → List Event → Prop
  | absent : Granted r none []
  | opened {path : String} {fd : Fd} : Granted r (some path) [r.opening path fd]

/-- The files of a command are opened, its input before its output. -/
def Command.Granted (c : Command) (events : List Event) : Prop :=
  ∃ reading writing, events = reading ++ writing ∧ Redirection.input.Granted c.input reading ∧
    Redirection.output.Granted c.output writing

/-- The file of a redirection is opened under a descriptor, if there is one.  Its path holds no NUL
character. -/
inductive Redirection.Yields (r : Redirection) : Option String → List Event → Option Fd → Prop
  | absent : Yields r none [] none
  | opened {path : String} {fd : Fd} : Text.hasNul path = false →
      Yields r (some path) [r.opening path fd] (some fd)

theorem yields_of_run (redirection : Redirection) {path : Option String} {file : Option Fd}
    (run : (Stage.openFile redirection.request path rounds).Run events (.ok file)) :
    redirection.Yields path events file := by
  cases path with
  | none =>
    obtain ⟨rfl, hfile⟩ := run_pure_iff.mp run
    cases hfile
    exact .absent
  | some path =>
    rw [Stage.openFile] at run
    split at run
    · cases (run_pure_iff.mp run).2
    · next clean =>
      cases redirection with
      | input | output =>
        obtain ⟨answer, last, rfl, hlast⟩ := run_ask_bind_iff.mp run
        cases answer with
        | error e => cases (run_pure_iff.mp hlast).2
        | ok fd =>
          obtain ⟨rfl, hfile⟩ := run_pure_iff.mp hlast
          cases hfile
          exact .opened (Bool.eq_false_iff.mpr clean)

/-! ### Stages -/

/-- How a command becomes a stage: by the search for its program, and then by the opening of its
files. -/
structure Preparation where
  command : Command
  searching : List Event
  opening : List Event
  stage : Stage

/-- The stage has the program that was found and the files that were opened. -/
structure Preparation.Succeeds (rounds : Nat) (p : Preparation) : Prop where
  finds : p.command.Finds rounds p.searching p.stage.program
  opens : ∃ reading writing, p.opening = reading ++ writing ∧
    Redirection.input.Yields p.command.input reading p.stage.input ∧
    Redirection.output.Yields p.command.output writing p.stage.output

/-- The programs are those of the commands still when the files are opened. -/
theorem preparations_of_openAll {commands : List Command} {found : List (List Event × Program)}
    (finds : List.Forall₂ (fun command row => command.Finds rounds row.1 row.2) commands found) :
    ∀ {events : List Event} {stages : List Stage},
      (Stage.openAll ((found.map Prod.snd).zip commands) rounds).Run events (.ok stages) →
      ∃ preparations : List Preparation, preparations.map (·.command) = commands ∧
        preparations.map (·.searching) = found.map Prod.fst ∧
        events = (preparations.map (·.opening)).flatten ∧
        preparations.map (·.stage) = stages ∧ ∀ p ∈ preparations, p.Succeeds rounds := by
  induction finds with
  | nil =>
    intro events stages h
    obtain ⟨rfl, hstages⟩ := run_pure_iff.mp h
    cases hstages
    exact ⟨[], rfl, rfl, rfl, rfl, List.forall_mem_nil _⟩
  | @cons command row commands found first _ ih =>
    intro events stages h
    obtain ⟨opening, others, stage, rest, rfl, rfl, hopen, hothers⟩ := run_openAll_cons h
    obtain ⟨reading, writing, input, output, rfl, rfl, hinput, houtput⟩ := run_openFiles hopen
    obtain ⟨preparations, rfl, searches, rfl, rfl, succeed⟩ := ih hothers
    refine ⟨⟨command, row.1, reading ++ writing, ⟨row.2, input, output⟩⟩ :: preparations, rfl,
      congrArg (row.1 :: ·) searches, rfl, rfl, List.forall_mem_cons.mpr ⟨⟨first, ?_⟩, succeed⟩⟩
    exact ⟨reading, writing, rfl, yields_of_run .input hinput, yields_of_run .output houtput⟩

/-- **A pipeline is prepared by finding the program of each command and then opening the files of
each command, in order; its stages are those of its commands.** -/
theorem preparations_of_run {pipeline : Pipeline} {stages : List Stage}
    (h : (Stage.prepare pipeline rounds).Run events (.ok stages)) :
    ∃ preparations : List Preparation, preparations.map (·.command) = pipeline.commands ∧
      preparations.map (·.stage) = stages ∧
      events = (preparations.map (·.searching)).flatten ++ (preparations.map (·.opening)).flatten ∧
      ∀ p ∈ preparations, p.Succeeds rounds := by
  obtain ⟨finding, opening, found, rfl, hfind, hopen⟩ := run_bind_iff.mp h
  cases found with
  | error e => cases (run_pure_iff.mp hopen).2
  | ok programs =>
    obtain ⟨found, rfl, rfl, finds⟩ := allFind_of_run hfind
    obtain ⟨preparations, commands_eq, searches, rfl, stages_eq, succeed⟩ :=
      preparations_of_openAll finds hopen
    exact ⟨preparations, commands_eq, stages_eq, by rw [searches], succeed⟩

theorem Command.Finds.found {command : Command} {program : Program}
    (h : command.Finds rounds events program) : command.Found events := by
  obtain ⟨hargv, search, -⟩ := h
  exact ⟨_, _, by rw [Command.name?, hargv]; rfl, Search.ended_of_run search⟩

theorem Redirection.Yields.granted {r : Redirection} {path : Option String} {file : Option Fd}
    (h : r.Yields path events file) : r.Granted path events := by
  cases h with
  | absent => exact .absent
  | opened _ => exact .opened

theorem Preparation.Succeeds.granted {p : Preparation} (h : p.Succeeds rounds) :
    p.command.Granted p.opening := by
  obtain ⟨reading, writing, split, input, output⟩ := h.opens
  exact ⟨reading, writing, split, input.granted, output.granted⟩

/-- A pipeline is prepared only if the program of each command is found and then the files of each
command are opened, in order. -/
theorem prepared_of_run {pipeline : Pipeline} {stages : List Stage}
    (h : (Stage.prepare pipeline rounds).Run events (.ok stages)) :
    stages.length = pipeline.commands.length ∧
      ∃ searches openings, events = searches.flatten ++ openings.flatten ∧
        List.Forall₂ Command.Found pipeline.commands searches ∧
        List.Forall₂ Command.Granted pipeline.commands openings := by
  obtain ⟨preparations, commands_eq, rfl, rfl, succeed⟩ := preparations_of_run h
  rw [← commands_eq]
  refine ⟨by rw [List.length_map, List.length_map], _, _, rfl, ?_, ?_⟩
  · rw [List.forall₂_map_left_iff, List.forall₂_map_right_iff, List.forall₂_same]
    exact fun p hp => (succeed p hp).finds.found
  · rw [List.forall₂_map_left_iff, List.forall₂_map_right_iff, List.forall₂_same]
    exact fun p hp => (succeed p hp).granted

/-! ### Lines -/

/-- The request looks for a program, or opens a file. -/
def Call.isPreparing : Call → Bool
  | .environment _ | .metadata _ | .openInput _ | .openOutput _ => true
  | _ => false

/-- The system refuses to open a file. -/
def Event.refusesFile : Event → Bool
  | ⟨.openInput _, .error _⟩ | ⟨.openOutput _, .error _⟩ => true
  | _ => false

/-- The program of each command of a line is found, in order, then the files of each command are
opened; later requests are of another kind. -/
def Line.Prepared (commands : List Command) (events : List Event) : Prop :=
  ∃ searches openings following, events = searches.flatten ++ (openings.flatten ++ following) ∧
    List.Forall₂ Command.Found commands searches ∧
    List.Forall₂ Command.Granted commands openings ∧
    ∀ e ∈ following, e.call.isPreparing = false

theorem Event.refusesFile_of_call {e : Event}
    (h : ∀ path, e.call ≠ .openInput path ∧ e.call ≠ .openOutput path) : e.refusesFile = false := by
  obtain ⟨call, answer⟩ := e
  cases call with
  | openInput path => exact absurd rfl (h path).1
  | openOutput path => exact absurd rfl (h path).2
  | _ => rfl

theorem Search.Tried.accepts {paths : List (List UInt8)} {found : Option (List UInt8)}
    (h : Tried paths events found) : ∀ e ∈ events, e.refusesFile = false := by
  induction h with
  | exhausted => exact List.forall_mem_nil _
  | passed _ _ ih => exact ih
  | denied _ _ ih => exact List.forall_mem_cons.mpr ⟨rfl, ih⟩
  | runnable _ => simp [Event.refusesFile]

theorem Command.Found.accepts {command : Command} (h : command.Found events) :
    ∀ e ∈ events, e.refusesFile = false := by
  obtain ⟨name, path, -, ended⟩ := h
  cases ended with
  | tried _ tried => exact List.forall_mem_cons.mpr ⟨rfl, tried.accepts⟩

theorem Redirection.Granted.accepts {r : Redirection} {path : Option String}
    (h : r.Granted path events) : ∀ e ∈ events, e.refusesFile = false := by
  cases h with
  | absent => exact List.forall_mem_nil _
  | opened => cases r <;> simp [Redirection.opening, Event.refusesFile]

theorem Command.Granted.accepts {command : Command} (h : command.Granted events) :
    ∀ e ∈ events, e.refusesFile = false := by
  obtain ⟨reading, writing, rfl, input, output⟩ := h
  exact List.forall_mem_append.mpr ⟨input.accepts, output.accepts⟩

/-- What holds of the events of each command holds of all of them. -/
theorem forall_mem_flatten {P : Event → Prop} {R : Command → List Event → Prop}
    {commands : List Command} {parts : List (List Event)} (h : List.Forall₂ R commands parts)
    (each : ∀ {command part}, R command part → ∀ e ∈ part, P e) : ∀ e ∈ parts.flatten, P e := by
  induction h with
  | nil => exact List.forall_mem_nil _
  | cons first _ ih =>
    rw [List.flatten_cons]
    exact List.forall_mem_append.mpr ⟨each first, ih⟩

/-- When a line is prepared, no file is refused. -/
theorem Line.Prepared.accepts {commands : List Command} (h : Line.Prepared commands events) :
    ∀ e ∈ events, e.refusesFile = false := by
  obtain ⟨searches, openings, following, rfl, found, granted, others⟩ := h
  refine List.forall_mem_append.mpr ⟨forall_mem_flatten found fun h => h.accepts,
    List.forall_mem_append.mpr ⟨forall_mem_flatten granted fun h => h.accepts, fun e he => ?_⟩⟩
  refine Event.refusesFile_of_call fun path => ⟨?_, ?_⟩
  all_goals
    intro hcall
    have := others e he
    rw [hcall] at this
    cases this

end JobControl
