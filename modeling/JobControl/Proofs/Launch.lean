import JobControl.Proofs.Quiet

/-!
# What a launch asks, request by request

A launch makes a pipe for each stage but the last, starts the process of the stage, puts it into its
group and closes what only that stage needed.  At the first request that is refused it closes all
that is left.  `Launched` tells this one request at a time; what is proved of a launch is proved by
induction on it.

## Main definitions

* `forks events` — the processes that were started, in order.
* `closings fds` — the events of closing some descriptors.
* `Stage.child stage incoming ends started` — the process to be started for a stage.
* `Spawn.Launched incoming started list events started' failure` — the events of a launch.
* `Spawn.needs list` — the pipes and processes that some stages need, in order.
* `Spawn.attempts events` — what was asked for in order to have these, and what was refused.

## Main results

* `Spawn.launched_of_run` — every run of a launch is of this form.
* `Spawn.Launched.programs_eq` — the processes started are those of the first stages.
* `Spawn.Launched.met` — what the stages need is asked for in order, up to the first refusal.
-/

namespace JobControl

open JobControl.Action (run_pure_iff run_bind_iff run_bind_pair_iff run_ask_bind_iff)

variable {rounds : Nat}

/-! ### What was started -/

/-- The process that an event started. -/
def Event.newPid? : Event → Option Pid
  | ⟨.fork _, .ok pid⟩ => some pid
  | _ => none

/-- The processes that were started, in order. -/
def forks (events : List Event) : List Pid := events.filterMap Event.newPid?

@[simp] theorem forks_append (events more : List Event) :
    forks (events ++ more) = forks events ++ forks more := List.filterMap_append

theorem newPid?_of_call {e : Event} (h : ∀ child, e.call ≠ .fork child) : e.newPid? = none := by
  obtain ⟨call, answer⟩ := e
  cases call with
  | fork child => exact absurd rfl (h child)
  | _ => rfl

theorem forks_eq_nil {events : List Event} (h : ∀ e ∈ events, ∀ child, e.call ≠ .fork child) :
    forks events = [] :=
  List.filterMap_eq_nil_iff.mpr fun e he => newPid?_of_call (h e he)

theorem Event.newPid?_of_quiet {e : Event} (h : e.call.isQuiet = true) : e.newPid? = none := by
  refine newPid?_of_call fun child hcall => ?_
  rw [hcall] at h
  cases h

theorem forks_of_quiet {events : List Event} (h : Quiet events) : forks events = [] :=
  List.filterMap_eq_nil_iff.mpr fun e he => Event.newPid?_of_quiet (h e he)

/-! ### The events of a launch -/

/-- The events of closing some descriptors. -/
def closings (fds : List Fd) : List Event := fds.map fun fd => ⟨.close fd, ()⟩

theorem run_closeAll {fds : List Fd} :
    ∀ {events : List Event} {value : Unit}, (Action.closeAll fds rounds).Run events value →
      events = closings fds := by
  induction fds with
  | nil => intro events value h; exact (run_pure_iff.mp h).1
  | cons fd fds ih =>
    intro events value h
    obtain ⟨_, rest, rfl, hrest⟩ := run_ask_bind_iff.mp h
    rw [ih hrest]
    rfl

theorem quiet_closings (fds : List Fd) : Quiet (closings fds) := by
  intro e he
  obtain ⟨fd, -, rfl⟩ := List.mem_map.mp he
  rfl

/-- The process to be started for a stage, after those of `started`: a file takes the place of a
pipe end. -/
def Stage.child (stage : Stage) (incoming : Option Fd) (ends : Option (Fd × Fd))
    (started : List Pid) : Child where
  program := stage.program
  input := stage.input <|> incoming
  output := stage.output <|> ends.map Prod.snd
  group := Spawn.group started

section Child

variable {stage : Stage} {incoming : Option Fd} {ends : Option (Fd × Fd)} {started : List Pid}

@[simp] theorem Stage.program_child : (stage.child incoming ends started).program = stage.program :=
  rfl

theorem Stage.input_child : (stage.child incoming ends started).input = stage.input.or incoming :=
  Option.orElse_eq_or

theorem Stage.output_child :
    (stage.child incoming ends started).output = stage.output.or (ends.map Prod.snd) :=
  Option.orElse_eq_or

end Child

namespace Spawn

/-- The files of the stages to come, and the pipe end for the first of these. -/
def others (rest : List Stage) (incoming : Option Fd) : List Fd :=
  (rest.map Stage.files).flatten ++ incoming.toList

/-- A pipe is made unless no stage is left to read from it. -/
inductive Piped : List Stage → List Event → Option (Fd × Fd) → Prop
  | last : Piped [] [] none
  | between {stage : Stage} {rest : List Stage} {ends : Fd × Fd} :
      Piped (stage :: rest) [⟨.pipe, .ok ends⟩] (some ends)

theorem Piped.quiet {rest : List Stage} {events : List Event} {ends : Option (Fd × Fd)}
    (h : Piped rest events ends) : Quiet events := by
  cases h with
  | last => exact quiet_nil
  | between => exact quiet_cons.mpr ⟨rfl, quiet_nil⟩

/-- The events of starting some stages after others, with the processes started by then and what
kept the rest from it. -/
inductive Launched : Option Fd → List Pid → List Stage → List Event → List Pid →
    Option LaunchError → Prop
  | done {incoming started} : Launched incoming started [] (closings incoming.toList) started none
  | noPipe {incoming started stage next rest errno} :
      Launched incoming started (stage :: next :: rest)
        (⟨.pipe, .error errno⟩ :: closings (stage.files ++ others (next :: rest) incoming))
        started (some (.pipe errno))
  | noFork {incoming started stage rest piping ends errno} : Piped rest piping ends →
      Launched incoming started (stage :: rest)
        (piping ++ ⟨.fork (stage.child incoming ends started), .error errno⟩ ::
          closings ((ends.map Prod.snd).toList ++ (ends.map Prod.fst).toList ++ stage.files
            ++ others rest incoming))
        started (some (.fork errno))
  | forked {incoming started stage rest piping ends pid answer events started' failure} :
      Piped rest piping ends →
      Launched (ends.map Prod.fst) (started ++ [pid]) rest events started' failure →
      Launched incoming started (stage :: rest)
        (piping ++ ⟨.fork (stage.child incoming ends started), .ok pid⟩ ::
          ⟨.setGroup pid ((group started).getD pid), answer⟩ ::
          (closings ((ends.map Prod.snd).toList ++ stage.files ++ incoming.toList) ++ events))
        started' failure

theorem run_pipeTo {rest : List Stage} {events : List Event}
    {result : Except Errno (Option (Fd × Fd))} (h : (pipeTo rest rounds).Run events result) :
    (∃ ends, result = .ok ends ∧ Piped rest events ends) ∨
      ∃ errno, result = .error errno ∧ events = [⟨.pipe, .error errno⟩] ∧ rest ≠ [] := by
  cases rest with
  | nil =>
    obtain ⟨rfl, rfl⟩ := run_pure_iff.mp h
    exact .inl ⟨none, rfl, .last⟩
  | cons stage rest =>
    obtain ⟨answer, last, rfl, hlast⟩ := run_ask_bind_iff.mp h
    cases answer with
    | error errno =>
      obtain ⟨rfl, rfl⟩ := run_pure_iff.mp hlast
      exact .inr ⟨errno, rfl, rfl, nofun⟩
    | ok ends =>
      obtain ⟨rfl, rfl⟩ := run_pure_iff.mp hlast
      exact .inl ⟨some ends, rfl, .between⟩

theorem run_launch {child : Child} {events : List Event} {result : Except LaunchError Pid}
    (h : (launch child rounds).Run events result) :
    (∃ e, result = .error (.fork e) ∧ events = [⟨.fork child, .error e⟩]) ∨
      ∃ pid answer, result = .ok pid ∧
        events = [⟨.fork child, .ok pid⟩, ⟨.setGroup pid (child.group.getD pid), answer⟩] := by
  obtain ⟨answer, rest, rfl, hrest⟩ := run_ask_bind_iff.mp h
  cases answer with
  | error e =>
    obtain ⟨rfl, rfl⟩ := run_pure_iff.mp hrest
    exact .inl ⟨e, rfl, rfl⟩
  | ok pid =>
    obtain ⟨grouped, last, rfl, hlast⟩ := run_ask_bind_iff.mp hrest
    obtain ⟨rfl, rfl⟩ := run_pure_iff.mp hlast
    exact .inr ⟨pid, grouped, rfl, rfl⟩

/-- **Every run of a launch is of the form that `Launched` tells.** -/
theorem launched_of_run {list : List Stage} :
    ∀ {incoming : Option Fd} {started started' : List Pid} {events : List Event}
      {failure : Option LaunchError},
      (stages incoming started list rounds).Run events (started', failure) →
      Launched incoming started list events started' failure := by
  induction list with
  | nil =>
    intro incoming started started' events failure h
    obtain ⟨_, hclose, rfl, rfl⟩ := run_bind_pair_iff.mp h
    rw [run_closeAll hclose]
    exact .done
  | cons stage rest ih =>
    intro incoming started started' events failure h
    obtain ⟨piping, more, answer, rfl, hpipe, hmore⟩ := run_bind_iff.mp h
    rcases run_pipeTo hpipe with ⟨ends, rfl, piped⟩ | ⟨errno, rfl, rfl, hrest⟩
    · obtain ⟨launching, last, result, rfl, hlaunch, hlast⟩ := run_bind_iff.mp hmore
      rcases run_launch hlaunch with ⟨errno, rfl, rfl⟩ | ⟨pid, answer, rfl, rfl⟩
      · obtain ⟨_, hclose, rfl, rfl⟩ := run_bind_pair_iff.mp hlast
        rw [run_closeAll hclose]
        exact .noFork piped
      · obtain ⟨closing, following, _, rfl, hclose, hfollowing⟩ := run_bind_iff.mp hlast
        rw [run_closeAll hclose]
        exact .forked piped (ih hfollowing)
    · obtain ⟨_, hclose, rfl, rfl⟩ := run_bind_pair_iff.mp hmore
      obtain ⟨next, rest, rfl⟩ := List.exists_cons_of_ne_nil hrest
      rw [run_closeAll hclose]
      exact .noPipe

variable {incoming : Option Fd} {started started' : List Pid} {list : List Stage}
  {events : List Event} {failure : Option LaunchError}

/-- A launch makes pipes, starts processes, puts them into groups, and closes descriptors; and it
comes to an end. -/
theorem ends_stages {P : Call → Prop} (piping : P .pipe) (starting : ∀ child, P (.fork child))
    (grouping : ∀ pid group, P (.setGroup pid group)) (closing : ∀ fd, P (.close fd)) :
    ∀ (list : List Stage) (incoming : Option Fd) (started : List Pid),
      (stages incoming started list).Ends P := by
  have close : ∀ fds : List Fd, (Action.closeAll fds).Ends P := Action.ends_closeAll closing
  intro list
  induction list with
  | nil => exact fun _ _ => .bind (close _) fun _ => .pure _
  | cons stage rest ih =>
    intro incoming started
    have pipe : (pipeTo rest).Ends P := by
      unfold pipeTo
      split
      · exact .pure _
      · refine .bind (.ask piping) fun answer => ?_
        cases answer <;> exact .pure _
    refine .bind pipe fun ends => ?_
    cases ends with
    | error e => exact .bind (close _) fun _ => .pure _
    | ok ends =>
      refine .bind (.bind (.ask (starting _)) fun answer => ?_) fun answer => ?_
      · cases answer with
        | error e => exact .pure _
        | ok pid => exact .bind (.ask (grouping _ _)) fun _ => .pure _
      · cases answer with
        | error e => exact .bind (close _) fun _ => .pure _
        | ok pid => exact .bind (close _) fun _ => ih _ _

theorem only_stages {P : Call → Prop} (piping : P .pipe) (starting : ∀ child, P (.fork child))
    (grouping : ∀ pid group, P (.setGroup pid group)) (closing : ∀ fd, P (.close fd))
    (list : List Stage) (incoming : Option Fd) (started : List Pid) :
    (stages incoming started list).Only P :=
  (ends_stages piping starting grouping closing list incoming started).only

/-! ### What is asked for, and what is refused -/

/-- What a launch needs of the system. -/
inductive Need
  | pipe
  | process (program : Program)
  deriving DecidableEq

/-- What the stages of a pipeline need, in order: each but the last a pipe, then its process. -/
def needs : List Stage → List Need
  | [] => []
  | [stage] => [.process stage.program]
  | stage :: rest => .pipe :: .process stage.program :: needs rest

/-- What a request of a launch is made for, and why it is refused if it is. -/
def attempt? : Event → Option (Need × Option LaunchError)
  | ⟨.pipe, .ok _⟩ => some (.pipe, none)
  | ⟨.pipe, .error errno⟩ => some (.pipe, some (.pipe errno))
  | ⟨.fork child, .ok _⟩ => some (.process child.program, none)
  | ⟨.fork child, .error errno⟩ => some (.process child.program, some (.fork errno))
  | _ => none

/-- The program of a process that was started. -/
def program? : Event → Option Program
  | ⟨.fork child, .ok _⟩ => some child.program
  | _ => none

/-- The requests of a launch for what it needs, in order. -/
def attempts (events : List Event) : List (Need × Option LaunchError) := events.filterMap attempt?

/-- The programs of the processes that were started, in order. -/
def programs (events : List Event) : List Program := events.filterMap program?

/-- What is needed is asked for in order, up to the first refusal. -/
inductive Met : List Need → List (Need × Option LaunchError) → Option LaunchError → Prop
  | all : Met [] [] none
  | refused {need needs error} : Met (need :: needs) [(need, some error)] (some error)
  | granted {need needs attempts failure} : Met needs attempts failure →
      Met (need :: needs) ((need, none) :: attempts) failure

section Extraction

variable {more : List Event} {child : Child} {pid group : Pid} {errno : Errno}

theorem filterMap_closings {α : Type} {f : Event → Option α} (h : ∀ fd, f ⟨.close fd, ()⟩ = none)
    (fds : List Fd) : (closings fds).filterMap f = [] := by
  rw [closings, List.filterMap_map]
  exact List.filterMap_eq_nil_iff.mpr fun fd _ => h fd

@[simp] theorem forks_closings (fds : List Fd) : forks (closings fds) = [] :=
  filterMap_closings (fun _ => rfl) fds

@[simp] theorem attempts_closings (fds : List Fd) : attempts (closings fds) = [] :=
  filterMap_closings (fun _ => rfl) fds

@[simp] theorem programs_closings (fds : List Fd) : programs (closings fds) = [] :=
  filterMap_closings (fun _ => rfl) fds

@[simp] theorem attempts_append : attempts (events ++ more) = attempts events ++ attempts more :=
  List.filterMap_append

@[simp] theorem programs_append : programs (events ++ more) = programs events ++ programs more :=
  List.filterMap_append

@[simp] theorem forks_forked {answer : Except Errno Unit} :
    forks (⟨.fork child, .ok pid⟩ :: ⟨.setGroup pid group, answer⟩ :: events) =
      pid :: forks events := rfl

@[simp] theorem attempts_forked {answer : Except Errno Unit} :
    attempts (⟨.fork child, .ok pid⟩ :: ⟨.setGroup pid group, answer⟩ :: events) =
      (.process child.program, none) :: attempts events := rfl

@[simp] theorem programs_forked {answer : Except Errno Unit} :
    programs (⟨.fork child, .ok pid⟩ :: ⟨.setGroup pid group, answer⟩ :: events) =
      child.program :: programs events := rfl

@[simp] theorem forks_noFork :
    forks (⟨.fork child, .error errno⟩ :: events) = forks events := rfl

@[simp] theorem attempts_noFork : attempts (⟨.fork child, .error errno⟩ :: events) =
    (.process child.program, some (.fork errno)) :: attempts events := rfl

@[simp] theorem programs_noFork :
    programs (⟨.fork child, .error errno⟩ :: events) = programs events := rfl

@[simp] theorem forks_noPipe : forks (⟨.pipe, .error errno⟩ :: events) = forks events := rfl

@[simp] theorem attempts_noPipe : attempts (⟨.pipe, .error errno⟩ :: events) =
    (.pipe, some (.pipe errno)) :: attempts events := rfl

@[simp] theorem programs_noPipe :
    programs (⟨.pipe, .error errno⟩ :: events) = programs events := rfl

end Extraction

section Piped

variable {rest : List Stage} {ends : Option (Fd × Fd)}

theorem Piped.forks_eq (h : Piped rest events ends) : forks events = [] := by
  cases h <;> rfl

theorem Piped.programs_eq (h : Piped rest events ends) : programs events = [] := by
  cases h <;> rfl

/-- With its pipe granted, a stage needs its process, and then the others what they need. -/
theorem Piped.met {stage : Stage} {answers : List (Need × Option LaunchError)}
    (h : Piped rest events ends)
    (process : Met (.process stage.program :: needs rest) answers failure) :
    Met (needs (stage :: rest)) (attempts events ++ answers) failure := by
  cases h with
  | last => exact process
  | between => exact .granted process

end Piped

/-- The processes started come after those that had been started before. -/
theorem Launched.forks_eq (h : Launched incoming started list events started' failure) :
    started' = started ++ forks events := by
  induction h with
  | done => simp
  | noPipe => simp
  | noFork piped => simp [piped.forks_eq]
  | forked piped _ ih => simp [ih, piped.forks_eq]

/-- **The processes started are those of the first stages, in order.** -/
theorem Launched.programs_eq (h : Launched incoming started list events started' failure) :
    programs events = (list.take (forks events).length).map (·.program) := by
  induction h with
  | done => simp
  | noPipe => simp
  | noFork piped => simp [piped.forks_eq, piped.programs_eq]
  | forked piped _ ih => simp [piped.forks_eq, piped.programs_eq, ih]

/-- Every stage is started unless something is refused. -/
theorem Launched.length_eq_iff (h : Launched incoming started list events started' failure) :
    (forks events).length = list.length ↔ failure = none := by
  induction h with
  | done => simp
  | noPipe => simp
  | noFork piped => simp [piped.forks_eq]
  | forked piped _ ih => simpa [piped.forks_eq] using ih

/-- **A launch asks for what the stages need, in order, up to the first refusal.** -/
theorem Launched.met (h : Launched incoming started list events started' failure) :
    Met (needs list) (attempts events) failure := by
  induction h with
  | done => simpa [needs] using Met.all
  | noPipe => simpa [needs] using Met.refused
  | noFork piped => simpa using piped.met Met.refused
  | forked piped _ ih => simpa using piped.met (Met.granted ih)

end Spawn
end JobControl
