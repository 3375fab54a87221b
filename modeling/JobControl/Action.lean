import JobControl.Call

/-!
# Actions

An action of the shell is a dialogue with the system: it is finished, or it makes a request and goes
on in a way that depends on the answer.  Nothing is assumed of the answers, so what holds of all
runs of an action holds on every system.

A loop that only the system can end takes a number of rounds that is given from outside; a run that
needs more stays unfinished.

## Main definitions

* `Dialogue α` — a dialogue that ends with a value of type `α`.
* `Action α` — a dialogue for each number of rounds.
* `Action.ask c` — make the request `c`.
* `Action.run serve rounds a` — the dialogue with a system that answers by `serve`.
* `Dialogue.Run d t a` — with the answers in `t` the dialogue `d` ends with `a`; `run_bind_iff` says
  what this is for a dialogue in two parts.
-/

namespace JobControl

/-- A dialogue with the system. -/
inductive Dialogue (α : Type) : Type
  | done (value : α)
  | ask (call : Call) (next : call.Answer → Dialogue α)
  /-- A loop has used up its rounds. -/
  | unfinished

namespace Dialogue

/-- The dialogue that goes on with the value of another. -/
def bind {α β : Type} (d : Dialogue α) (f : α → Dialogue β) : Dialogue β :=
  match d with
  | done a => f a
  | ask c next => ask c fun answer => (next answer).bind f
  | unfinished => unfinished

instance : Monad Dialogue where
  pure := done
  bind := bind

@[simp] theorem pure_eq {α : Type} (a : α) : (pure a : Dialogue α) = done a := rfl

@[simp] theorem done_bind {α β : Type} (a : α) (f : α → Dialogue β) : done a >>= f = f a := rfl

@[simp] theorem ask_bind {α β : Type} (c : Call) (next : c.Answer → Dialogue α)
    (f : α → Dialogue β) : ask c next >>= f = ask c fun answer => next answer >>= f := rfl

@[simp] theorem unfinished_bind {α β : Type} (f : α → Dialogue β) :
    unfinished >>= f = unfinished := rfl

theorem bind_done {α : Type} (d : Dialogue α) : d.bind done = d := by
  induction d with
  | done a => rfl
  | ask c next ih => exact congrArg (ask c) (funext ih)
  | unfinished => rfl

theorem bind_bind {α β γ : Type} (d : Dialogue α) (f : α → Dialogue β) (g : β → Dialogue γ) :
    (d.bind f).bind g = d.bind fun a => (f a).bind g := by
  induction d with
  | done a => rfl
  | ask c next ih => exact congrArg (ask c) (funext ih)
  | unfinished => rfl

instance : LawfulMonad Dialogue :=
  LawfulMonad.mk' Dialogue bind_done (fun _ _ => rfl) bind_bind

/-- With the answers recorded in the events, the dialogue ends with a value. -/
inductive Run {α : Type} : Dialogue α → List Event → α → Prop
  | done (a : α) : Run (done a) [] a
  | ask {c : Call} {next : c.Answer → Dialogue α} {answer : c.Answer} {events : List Event}
      {a : α} : Run (next answer) events a → Run (ask c next) (⟨c, answer⟩ :: events) a

@[simp] theorem run_done_iff {α : Type} {a b : α} {events : List Event} :
    Run (done a) events b ↔ events = [] ∧ b = a := by
  constructor
  · intro h
    cases h
    exact ⟨rfl, rfl⟩
  · rintro ⟨rfl, rfl⟩
    exact .done _

@[simp] theorem run_ask_iff {α : Type} {c : Call} {next : c.Answer → Dialogue α}
    {events : List Event} {a : α} : Run (ask c next) events a ↔
      ∃ answer rest, events = ⟨c, answer⟩ :: rest ∧ Run (next answer) rest a := by
  constructor
  · intro h
    cases h with
    | ask rest => exact ⟨_, _, rfl, rest⟩
  · rintro ⟨answer, rest, rfl, h⟩
    exact .ask h

@[simp] theorem not_run_unfinished {α : Type} {events : List Event} {a : α} :
    ¬ Run (unfinished : Dialogue α) events a := nofun

/-- A run of a dialogue that goes on with another is a run of the first and then one of the
other. -/
theorem run_bind_iff {α β : Type} {d : Dialogue α} {f : α → Dialogue β} {events : List Event}
    {b : β} : Run (d >>= f) events b ↔
      ∃ before after a, events = before ++ after ∧ Run d before a ∧ Run (f a) after b := by
  constructor
  · intro h
    induction d generalizing events with
    | done a => exact ⟨[], events, a, rfl, .done a, h⟩
    | ask c next ih =>
      cases h with
      | ask rest =>
        obtain ⟨before, after, a, rfl, first, second⟩ := ih _ rest
        exact ⟨_ :: before, after, a, rfl, .ask first, second⟩
    | unfinished => cases h
  · rintro ⟨before, after, a, rfl, first, second⟩
    induction first with
    | done _ => exact second
    | ask _ ih => exact .ask (ih second)

/-- The answers determine a run. -/
theorem Run.unique {α : Type} {d : Dialogue α} {events events' more more' : List Event} {a a' : α}
    (h : Run d events a) (h' : Run d events' a') (same : events ++ more = events' ++ more') :
    events = events' ∧ a = a' := by
  induction h generalizing events' with
  | done _ =>
    cases h'
    exact ⟨rfl, rfl⟩
  | ask _ ih =>
    cases h' with
    | ask h' =>
      obtain ⟨first, others⟩ := List.cons.inj same
      cases first
      obtain ⟨rfl, rfl⟩ := ih h' others
      exact ⟨rfl, rfl⟩

/-- The value of a dialogue with a system that answers by `serve`, if it ends. -/
def run {α : Type} {m : Type → Type} [Monad m] (serve : (c : Call) → m c.Answer) :
    Dialogue α → m (Option α)
  | done a => pure (some a)
  | ask c next => do (next (← serve c)).run serve
  | unfinished => pure none

end Dialogue

/-- A dialogue for each number of rounds that its loops may take. -/
def Action (α : Type) : Type := Nat → Dialogue α

namespace Action

instance : Monad Action where
  pure a := fun _ => .done a
  bind x f := fun rounds => (x rounds).bind fun a => f a rounds

@[simp] theorem pure_apply {α : Type} (a : α) (rounds : Nat) :
    (pure a : Action α) rounds = .done a := rfl

@[simp] theorem bind_apply {α β : Type} (x : Action α) (f : α → Action β) (rounds : Nat) :
    (x >>= f) rounds = x rounds >>= fun a => f a rounds := rfl

instance : LawfulMonad Action :=
  LawfulMonad.mk' Action (fun x => funext fun n => Dialogue.bind_done (x n)) (fun _ _ => rfl)
    fun x f g => funext fun n => Dialogue.bind_bind (x n) (fun a => f a n) fun b => g b n

/-- Make a request. -/
def ask (c : Call) : Action c.Answer := fun _ => .ask c .done

/-! ### Runs of actions -/

section Runs

open Dialogue

variable {α β : Type} {rounds : Nat} {events : List Event}

theorem run_pure_iff {a b : α} :
    Run ((pure a : Action α) rounds) events b ↔ events = [] ∧ b = a := run_done_iff

theorem run_pair_iff {a a' : α} {b b' : β} :
    Run ((pure (a, b) : Action (α × β)) rounds) events (a', b') ↔
      events = [] ∧ a' = a ∧ b' = b := by
  rw [run_pure_iff, Prod.mk.injEq]

theorem run_bind_iff {x : Action α} {f : α → Action β} {b : β} :
    Run ((x >>= f) rounds) events b ↔ ∃ before after a,
      events = before ++ after ∧ Run (x rounds) before a ∧ Run (f a rounds) after b :=
  Dialogue.run_bind_iff

theorem run_bind_pure_iff {x : Action α} {f : α → β} {b : β} :
    Run ((x >>= fun a => pure (f a)) rounds) events b ↔
      ∃ a, Run (x rounds) events a ∧ b = f a := by
  rw [run_bind_iff]
  constructor
  · rintro ⟨before, after, a, rfl, h, hlast⟩
    obtain ⟨rfl, rfl⟩ := run_pure_iff.mp hlast
    rw [List.append_nil]
    exact ⟨a, h, rfl⟩
  · rintro ⟨a, h, rfl⟩
    exact ⟨events, [], a, (List.append_nil _).symm, h, run_pure_iff.mpr ⟨rfl, rfl⟩⟩

theorem run_bind_pair_iff {γ : Type} {x : Action α} {f : α → β} {g : α → γ} {b : β} {c : γ} :
    Run ((x >>= fun a => pure (f a, g a)) rounds) events (b, c) ↔
      ∃ a, Run (x rounds) events a ∧ b = f a ∧ c = g a := by
  simp only [run_bind_pure_iff, Prod.mk.injEq]

theorem run_ask_bind_iff {c : Call} {f : c.Answer → Action β} {b : β} :
    Run ((ask c >>= f) rounds) events b ↔
      ∃ answer rest, events = ⟨c, answer⟩ :: rest ∧ Run (f answer rounds) rest b := run_ask_iff

end Runs

/-- The number of rounds that a loop may take. -/
def rounds : Action Nat := fun n => .done n

/-- A loop has used up its rounds. -/
def unfinished {α : Type} : Action α := fun _ => .unfinished

/-- The value of an action on a system that answers by `serve`, if it ends. -/
def run {α : Type} {m : Type → Type} [Monad m] (serve : (c : Call) → m c.Answer) (rounds : Nat)
    (a : Action α) : m (Option α) :=
  (a rounds).run serve

/-! ### The requests, one by one -/

def environment (name : String) : Action (Option (List UInt8)) := ask (.environment name)
def metadata (path : List UInt8) : Action (Except Errno Metadata) := ask (.metadata path)
def openInput (path : String) : Action (Except Errno Fd) := ask (.openInput path)
def openOutput (path : String) : Action (Except Errno Fd) := ask (.openOutput path)
def pipe : Action (Except Errno (Fd × Fd)) := ask .pipe
def close (fd : Fd) : Action Unit := ask (.close fd)
def fork (child : Child) : Action (Except Errno Pid) := ask (.fork child)
def setGroup (pid group : Pid) : Action (Except Errno Unit) := ask (.setGroup pid group)
def wait (pid : Pid) (flags : WaitFlags) : Action (Except Errno WaitStatus) := ask (.wait pid flags)
def signalGroup (group : Pid) (signal : Signal) : Action (Except Errno Unit) :=
  ask (.signalGroup group signal)
def setDisposition (signal : Signal) (disposition : Disposition) : Action (Except Errno Unit) :=
  ask (.setDisposition signal disposition)
def isTerminal : Action Bool := ask .isTerminal
def ownPid : Action Pid := ask .ownPid
def ownGroup : Action Pid := ask .ownGroup
def terminalGroup : Action (Except Errno Pid) := ask .terminalGroup
def setTerminalGroup (group : Pid) : Action (Except Errno Unit) := ask (.setTerminalGroup group)
def modes : Action (Except Errno Modes) := ask .modes
def setModes (modes : Modes) : Action (Except Errno Unit) := ask (.setModes modes)
def changeDirectory (path : List UInt8) : Action (Except Errno Unit) :=
  ask (.changeDirectory path)
def workingDirectory : Action (Except Errno (List UInt8)) := ask .workingDirectory
def readInput : Action (Except Errno (List UInt8)) := ask .readInput
def say (message : Message) : Action Unit := ask (.say message)
def log (entry : LogEntry) : Action Unit := ask (.log entry)

/-- Close every descriptor of a list. -/
def closeAll : List Fd → Action Unit
  | [] => pure ()
  | fd :: rest => do
    close fd
    closeAll rest

end Action
end JobControl
