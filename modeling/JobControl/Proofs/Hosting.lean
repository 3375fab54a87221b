import JobControl.Machine.Host
import JobControl.Stage
import JobControl.Proofs.Overwriting

/-!
# The shell on its machine

A request of a running shell that the machine can answer is answered at once, before any other
process takes a step.  So looking for a program leaves the machine as it is.

## Main definitions

* `Host.Does x h a h'` — something done on `h` comes to the value `a`, and leaves `h'`.
* `Host.Runs action h a h'` — so does an action of the shell.
* `Host.Ready h p` — the shell is the process `p`, and makes requests.
* `Host.fault? h p command` — why a command names no program that can be started.

## Main results

* `Host.Ready.does_request` — **a request that has an answer gets it at once.**
* `Host.Ready.runs_findAll` — the search for programs changes nothing, and ends at the first fault.
-/

namespace JobControl

namespace Host

variable {α β : Type} {h h' h₁ : Host} {p : Process}

/-- Something done on a machine with a shell comes to a value, and leaves such a machine. -/
def Does (x : Hosted α) (h : Host) (a : α) (h' : Host) : Prop := x.run.run h = (some a, h')

theorem does_pure_iff {a b : α} : Does (pure a : Hosted α) h b h' ↔ b = a ∧ h' = h := by
  constructor
  · intro hdone
    cases hdone
    exact ⟨rfl, rfl⟩
  · rintro ⟨rfl, rfl⟩
    rfl

theorem does_bind_iff {x : Hosted α} {f : α → Hosted β} {b : β} :
    Does (x >>= f) h b h' ↔ ∃ a h₁, Does x h a h₁ ∧ Does (f a) h₁ b h' := by
  unfold Does
  simp only [OptionT.run_bind, StateT.run_bind, Option.elimM]
  rcases x.run.run h with ⟨value, h₁⟩
  cases value with
  | none => exact iff_of_false nofun (by rintro ⟨_, _, ⟨⟩, _⟩)
  | some a =>
    constructor
    · exact fun hf => ⟨a, h₁, rfl, hf⟩
    · rintro ⟨_, _, ⟨⟩, hf⟩
      exact hf

theorem Does.unique {x : Hosted α} {a b : α} (first : Does x h a h₁) (second : Does x h b h') :
    a = b ∧ h₁ = h' := by
  cases first.symm.trans second
  exact ⟨rfl, rfl⟩

/-- What an action of the shell comes to. -/
def Runs (action : Action α) (h : Host) (a : α) (h' : Host) : Prop :=
  Does (action.run answer Routine.rounds) h (some a) h'

namespace Runs

variable {a : α} {b : β} {x : Action α} {f : α → Action β}

theorem pure (a : α) : Runs (Pure.pure a) h a h := does_pure_iff.mpr ⟨rfl, rfl⟩

theorem ask {c : Call} {value : c.Answer} (does : Does (answer c) h value h') :
    Runs (Action.ask c) h value h' :=
  does_bind_iff.mpr ⟨value, h', does, does_pure_iff.mpr ⟨rfl, rfl⟩⟩

theorem bind (hx : Runs x h a h₁) (hf : Runs (f a) h₁ b h') :
    Runs (x >>= f) h b h' := by
  unfold Runs Action.run at hx hf ⊢
  rw [Action.bind_apply]
  generalize x Routine.rounds = d at hx
  induction d generalizing h with
  | done value =>
    obtain ⟨hvalue, rfl⟩ := does_pure_iff.mp hx
    obtain rfl := Option.some.inj hvalue
    exact hf
  | ask c next ih =>
    obtain ⟨given, h₂, asked, hnext⟩ := does_bind_iff.mp hx
    exact does_bind_iff.mpr ⟨given, h₂, asked, ih given hnext⟩
  | unfinished => cases (does_pure_iff.mp hx).1

/-- What an action comes to is what the shell comes to. -/
theorem does_run (runs : Runs x h a h') : Does (run x) h a h' :=
  does_bind_iff.mpr ⟨_, _, runs, does_pure_iff.mpr ⟨rfl, rfl⟩⟩

end Runs

/-! ### Requests -/

/-- The shell is a running process that waits for nothing, on a machine that knows its programs. -/
structure Ready (h : Host) (p : Process) : Prop where
  process : h.machine.process? h.shell = some p
  running : p.condition = .running
  unharmed : p.doom = none
  awake : p.isWaiting = false
  known : h.machine.ImagesKnown

/-- **A request that has an answer gets it at once.** -/
theorem Ready.does_request (ready : h.Ready p) {r : SystemCall} {m : Machine} {value : r.Answer}
    (answers : h.machine.perform h.shell p r = (m, .answer value)) :
    Does (request r) h value { h with machine := m } := by
  have tries : h.tryRequest r h.machine = (m, some (.answered value)) := by
    simp only [tryRequest, ready.process, ready.running, ready.unharmed, answers, ready.awake,
      if_true]
  have runs : h.machine.runUntil (h.tryRequest r) Machine.maxTurns =
      (m, some (.answered value)) := by
    change Machine.runUntil _ _ (99999999 + 1) = _
    rw [Machine.runUntil, tries]
  change Does (requestWithin r (999999999 + 1)) h value { h with machine := m }
  rw [requestWithin]
  refine does_bind_iff.mpr ⟨h, h, rfl, ?_⟩
  rw [runs]
  exact does_bind_iff.mpr ⟨(), { h with machine := m }, rfl, rfl⟩

/-! ### Looking for programs -/

/-- The value of a variable of the shell. -/
def valueOf? (p : Process) (name : String) : Option (List UInt8) :=
  (p.environment.lookup (Text.toOctets name)).map Text.bytesOf

/-- Whether a path leads to a runnable file. -/
def isRunnable (h : Host) (p : Process) (path : List UInt8) : Bool :=
  !Text.hasNulByte path &&
    match h.machine.status h.shell p true (Text.octetsOf path) with
    | .ok status => status.toMetadata.isRunnable
    | .error _ => false

/-- Where the program with a name is found. -/
def program? (h : Host) (p : Process) (name : String) : Option (List UInt8) :=
  Id.run (Search.resolve (fun path => pure (h.isRunnable p path)) name (valueOf? p "PATH"))

/-- Why a command names no program that can be started: it names none, none is found, or an argument
holds a NUL byte. -/
def fault? (h : Host) (p : Process) (command : Command) : Option Rejection :=
  match command.argv with
  | [] => some (.malformed .emptyStage)
  | name :: arguments =>
    match h.program? p name with
    | none => some (.programNotFound name)
    | some path =>
      if (path :: arguments.map Text.toBytes).any Text.hasNulByte then
        some (.launch (.nulInArgument name))
      else none

/-- Something is found, unless there is a fault. -/
inductive Found {α : Type} : Option Rejection → Except Rejection α → Prop
  | found (a : α) : Found none (.ok a)
  | fault (cause : Rejection) : Found (some cause) (.error cause)

namespace Ready

theorem does_environment (ready : h.Ready p) (name : String) :
    Does (answer (.environment name)) h (valueOf? p name) h := by
  have found : Does Host.process h p h := by
    refine does_bind_iff.mpr ⟨h, h, rfl, ?_⟩
    rw [ready.process]
    rfl
  exact does_bind_iff.mpr ⟨p, h, found, does_pure_iff.mpr ⟨rfl, rfl⟩⟩

theorem does_metadata (ready : h.Ready p) (path : List UInt8) :
    Does (answer (.metadata path)) h
      ((h.machine.status h.shell p true (Text.octetsOf path)).map FileStatus.toMetadata) h :=
  does_bind_iff.mpr ⟨_, h, ready.does_request rfl, does_pure_iff.mpr ⟨rfl, rfl⟩⟩

theorem runs_isRunnable (ready : h.Ready p) (path : List UInt8) :
    Runs (Search.isRunnable path) h (h.isRunnable p path) h := by
  unfold Search.isRunnable isRunnable
  split
  · next hnul =>
    rw [hnul]
    exact .pure false
  · next hnul =>
    refine .bind (.ask (ready.does_metadata path)) ?_
    rw [Bool.not_eq_true] at hnul
    rw [hnul]
    cases h.machine.status h.shell p true (Text.octetsOf path) with
    | ok status => exact .pure _
    | error e => exact .pure false

theorem runs_first (ready : h.Ready p) (paths : List (List UInt8)) :
    Runs (Search.first Search.isRunnable paths) h
      (Id.run (Search.first (fun path => pure (h.isRunnable p path)) paths)) h := by
  induction paths with
  | nil => exact .pure none
  | cons path paths ih =>
    refine .bind (ready.runs_isRunnable path) ?_
    simp only [Search.first, Id.run_bind, Id.run_pure]
    cases h.isRunnable p path with
    | true => exact .pure _
    | false => exact ih

/-- **The shell finds a program where it is.** -/
theorem runs_program (ready : h.Ready p) (name : String) :
    Runs (Search.program name) h (h.program? p name) h := by
  refine .bind (.ask (ready.does_environment "PATH")) ?_
  unfold program? Search.resolve
  split
  · exact .pure none
  · exact ready.runs_first _

theorem runs_find (ready : h.Ready p) (command : Command) :
    ∃ result, Runs (Program.find command) h result h ∧
      Found (h.fault? p command) result := by
  unfold Program.find fault?
  cases command.argv with
  | nil => exact ⟨_, .pure _, .fault _⟩
  | cons name arguments =>
    have finds := ready.runs_program name
    dsimp only
    generalize h.program? p name = found at finds
    cases found with
    | none => exact ⟨_, .bind finds (.pure _), .fault _⟩
    | some path =>
      have checks : ∃ result : Except Rejection Program,
          Runs (if (path :: arguments.map Text.toBytes).any Text.hasNulByte then
              pure (.error (.launch (.nulInArgument name)))
            else pure (.ok { name, path, argv := path :: arguments.map Text.toBytes })) h
            result h ∧
          Found (if (path :: arguments.map Text.toBytes).any Text.hasNulByte then
              some (.launch (.nulInArgument name))
            else none) result := by
        split
        · exact ⟨_, .pure _, .fault _⟩
        · exact ⟨_, .pure _, .found _⟩
      obtain ⟨result, checks, found⟩ := checks
      exact ⟨result, .bind finds checks, found⟩

/-- **The search for programs changes nothing, and ends at the first fault.** -/
theorem runs_findAll (ready : h.Ready p) (commands : List Command) :
    ∃ result, Runs (Program.findAll commands) h result h ∧
      Found (commands.findSome? (h.fault? p)) result ∧
      ∀ programs, result = .ok programs → programs.length = commands.length := by
  induction commands with
  | nil => exact ⟨_, .pure _, .found _, by rintro _ ⟨⟩; rfl⟩
  | cons command commands ih =>
    obtain ⟨first, finds, found⟩ := ready.runs_find command
    rw [List.findSome?_cons]
    generalize h.fault? p command = fault at found
    cases found with
    | fault cause => exact ⟨_, .bind finds (.pure _), .fault cause, nofun⟩
    | found program =>
      obtain ⟨others, follows, found, length_eq⟩ := ih
      dsimp only
      generalize commands.findSome? (h.fault? p) = fault at found
      cases found with
      | fault cause => exact ⟨_, .bind finds (.bind follows (.pure _)), .fault cause, nofun⟩
      | found programs =>
        refine ⟨_, .bind finds (.bind follows (.pure _)), .found _, ?_⟩
        rintro _ ⟨⟩
        rw [List.length_cons, List.length_cons, length_eq programs rfl]

end Ready

end Host

end JobControl
