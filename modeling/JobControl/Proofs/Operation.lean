import JobControl.Proofs.Lines
import JobControl.Proofs.Roster

/-!
# The operations of a shell

A shell does four things with its jobs: it launches the pipeline of a line, brings the background
job to the foreground, lets it go on where it is, and collects what is to be reported.  Each takes
the roster through some steps, and only a launch adds a job to it.  A line is the last of these
operations, then one of the others or a builtin that concerns no job.

## Main definitions

* `Spawn.Started started events started'` — the events of starting some processes.
* `Roster.Evolves own jobs events jobs'` — steps with at most one launch among them.
* `Shell.Operates shell events shell'` — an operation of the shell.
* `Shell.Advances shell events shell'` — the table is left settled, and its roster has evolved.

## Main results

* `Spawn.started_of_run` — the first process started leads the group that all others join.
* `run_reapBackground` — collecting what is to be reported polls the jobs behind the foreground.
* `Shell.Operates.advances` — what an operation does to a shell.
* `execute_operates` — a line collects what is to be reported and then carries out an operation.
-/

namespace JobControl

open JobControl.Action (run_pure_iff run_pair_iff run_bind_iff run_bind_pair_iff run_ask_bind_iff)
open Roster JobTable

/-! ### The terminal -/

variable {own : Pid} {rounds : Nat} {events : List Event} {job : Job}
  {terminal : Terminal} {shell shell' : Shell}

/-- Lending the terminal to a group is one request, if the shell has a terminal. -/
theorem run_handTo {group : Pid} {value : Unit}
    (h : (terminal.handTo group rounds).Run events value) :
    Quiet events ∨
      ∃ answer more, events = ⟨.setTerminalGroup group, answer⟩ :: more ∧ Quiet more := by
  unfold Terminal.handTo at h
  split at h
  · obtain ⟨answer, more, rfl, hmore⟩ := run_ask_bind_iff.mp h
    refine .inr ⟨answer, more, rfl, ?_⟩
    cases answer with
    | ok _ => exact (run_pure_iff.mp hmore).1 ▸ quiet_nil
    | error e =>
      have logging : (Action.log (.handOverFailed group e)).IsQuiet := .ask rfl
      exact logging.of_run hmore
  · exact .inl ((run_pure_iff.mp h).1 ▸ quiet_nil)

theorem steps_handTo (own : Pid) {value : Unit}
    (h : (terminal.handTo job.pgid rounds).Run events value) (alive : job.state ≠ .done)
    (jobs : Multiset Job) :
    Steps own .polling (job ::ₘ jobs) events (job ::ₘ jobs) := by
  rcases run_handTo h with quiet | ⟨answer, more, rfl, quiet⟩
  · exact .quiet quiet
  · exact .cons_event (.handOver alive) (.quiet quiet)

/-- The shell takes its own terminal back. -/
theorem steps_reclaim {value : Unit} (h : (terminal.reclaim rounds).Run events value)
    (jobs : Multiset Job) : Steps terminal.shellGroup .polling jobs events jobs := by
  obtain ⟨handing, restoring, _, rfl, hhand, hrestore⟩ := run_bind_iff.mp h
  refine Steps.trans (?_ : Steps _ .polling jobs handing jobs) (.quiet ?_)
  · rcases run_handTo hhand with quiet | ⟨answer, more, rfl, quiet⟩
    · exact .quiet quiet
    · exact .cons_event .takeBack (.quiet quiet)
  · split at hrestore
    · obtain ⟨answer, more, rfl, hmore⟩ := run_ask_bind_iff.mp hrestore
      refine quiet_cons.mpr ⟨rfl, ?_⟩
      cases answer with
      | ok _ => exact (run_pure_iff.mp hmore).1 ▸ quiet_nil
      | error e =>
        have logging : (Action.log (.modesFailed e)).IsQuiet := .ask rfl
        exact logging.of_run hmore
    · exact (run_pure_iff.mp hrestore).1 ▸ quiet_nil

/-! ### Jobs in the foreground and the background -/

/-- What an operation that launches nothing does to a shell. -/
structure Shell.Keeps (jobs : Multiset Job) (shell : Shell) (events : List Event) (shell' : Shell) :
    Prop where
  terminal : shell'.terminal = shell.terminal
  settled : shell'.jobs.Settled
  spans : Spans shell.terminal.shellGroup jobs events shell'.jobs.roster

theorem run_waitAndReclaim {outcome : Outcome}
    (h : (shell.waitAndReclaim job rounds).Run events (shell', outcome))
    (settled : shell.jobs.Settled) :
    Shell.Keeps (job ::ₘ shell.jobs.roster) shell events shell' := by
  obtain ⟨waiting, back, jobs, rfl, rfl, hwait, hreclaim⟩ := waited_of_run h
  obtain ⟨settled', spans⟩ := run_waitForeground shell.terminal.shellGroup hwait settled
  exact ⟨rfl, settled',
    spans.before_steps
      ((steps_reclaim hreclaim jobs.roster).trans (.quiet outcome.quiet_announcement))⟩

theorem run_runForeground {outcome : Outcome}
    (h : (shell.runForeground job rounds).Run events (shell', outcome))
    (settled : shell.jobs.Settled) (alive : job.state ≠ .done) :
    Shell.Keeps (job ::ₘ shell.jobs.roster) shell events shell' := by
  obtain ⟨handing, others, _, rfl, hhand, hothers⟩ := run_bind_iff.mp h
  obtain ⟨hterminal, settled', spans⟩ := run_waitAndReclaim hothers settled
  exact ⟨hterminal, settled', spans.after_steps (steps_handTo _ hhand alive _)⟩

theorem run_launchBackground {group : Pid}
    (h : (shell.launchBackground job rounds).Run events (shell', group))
    (settled : shell.jobs.Settled) (alive : job.state ≠ .done) :
    Shell.Keeps (job ::ₘ shell.jobs.roster) shell events shell' := by
  obtain ⟨_, others, rfl, hothers⟩ := run_ask_bind_iff.mp h
  obtain ⟨jobs, hplace, rfl, -⟩ := run_bind_pair_iff.mp hothers
  obtain ⟨settled', steps⟩ := run_setBackground shell.terminal.shellGroup hplace settled alive
  exact ⟨rfl, settled', .steps (.cons_event (.quiet rfl) steps)⟩

/-- A table whose background job was taken away for a moment. -/
theorem JobTable.Settled.take {t : JobTable} (settled : t.Settled) (h : t.background = some job) :
    JobTable.Settled { t with background := none } ∧
      t.roster = job ::ₘ JobTable.roster { t with background := none } ∧ Rests job := by
  obtain ⟨foreground, background, disowned⟩ := t
  obtain ⟨rfl, rest⟩ := settled_iff.mp settled
  obtain rfl : background = some job := h
  rw [roster_some, Multiset.forall_mem_cons] at rest
  exact ⟨settled_iff.mpr ⟨rfl, rest.2⟩, rfl, rest.1⟩

/-- A table whose background job is put back. -/
theorem JobTable.Settled.put {t : JobTable} (taken : Settled { t with background := none })
    (rests : Rests job) : Settled { t with background := some job } ∧
      roster { t with background := some job } = job ::ₘ roster { t with background := none } := by
  obtain ⟨foreground, background, disowned⟩ := t
  obtain ⟨rfl, others⟩ := settled_iff.mp taken
  refine ⟨settled_iff.mpr ⟨rfl, ?_⟩, rfl⟩
  rw [roster_some, Multiset.forall_mem_cons]
  exact ⟨rests, others⟩

/-- **The background job is brought to the foreground, or stays where it is.** -/
theorem run_resumeForeground {result : Except Errno (Option Outcome)}
    (h : (shell.resumeForeground rounds).Run events (shell', result))
    (settled : shell.jobs.Settled) : shell.Keeps shell.jobs.roster events shell' := by
  cases foregrounded_of_run h with
  | noJob => exact ⟨rfl, settled, .steps .refl⟩
  | refused hbackground hhand hresume hreclaim hplace =>
    -- the terminal is taken back, and the job goes where it was
    obtain ⟨taken, roster_eq, alive, -⟩ := settled.take hbackground
    obtain ⟨settled', placed⟩ := run_setBackground shell.terminal.shellGroup hplace taken alive
    have steps := (steps_handTo shell.terminal.shellGroup hhand alive _).trans
      ((steps_resume _ hresume alive _).trans ((steps_reclaim hreclaim _).trans placed))
    exact ⟨rfl, settled', .steps (roster_eq ▸ steps)⟩
  | waited hbackground hhand hresume hwait =>
    obtain ⟨taken, roster_eq, alive, -⟩ := settled.take hbackground
    obtain ⟨hterminal, settled', waited⟩ := run_waitAndReclaim hwait taken
    have steps := (steps_handTo shell.terminal.shellGroup hhand alive _).trans
      (steps_resume _ hresume alive (JobTable.roster { shell.jobs with background := none }))
    rw [roster_eq, ← List.append_assoc]
    exact ⟨hterminal, settled', waited.after_steps steps⟩

/-- **A stopped background job is let go on where it is.** -/
theorem run_resumeBackground {result : Except Errno (Option Pid)}
    (h : (shell.resumeBackground rounds).Run events (shell', result))
    (settled : shell.jobs.Settled) : shell.Keeps shell.jobs.roster events shell' := by
  cases backgrounded_of_run h with
  | noJob | running => exact ⟨rfl, settled, .steps .refl⟩
  | refused hbackground _ hresume =>
    obtain ⟨-, roster_eq, alive, -⟩ := settled.take hbackground
    exact ⟨rfl, settled, .steps (roster_eq ▸ steps_resume _ hresume alive _)⟩
  | @resumed job resumed _ hbackground _ hresume =>
    obtain ⟨taken, roster_eq, alive, placed⟩ := settled.take hbackground
    have steps := steps_resume shell.terminal.shellGroup hresume alive
      (JobTable.roster { shell.jobs with background := none })
    -- only its members have changed, so that it may rest where it was
    obtain rfl := eq_resumed_of_run hresume
    obtain ⟨settled', put_eq⟩ := taken.put
      (⟨fun h => alive (Job.state_resumed_eq_done_iff.mp h), placed⟩ : Rests job.resumed)
    refine ⟨rfl, settled', ?_⟩
    rw [roster_eq, put_eq]
    exact .steps (steps.trans (.quiet (by simp [Call.isQuiet])))

/-- What is logged and said of a job whose state has changed. -/
def announcement : Option (Pid × State) → List Event
  | none => []
  | some (group, state) =>
    [⟨.log (.backgroundChanged group state), ()⟩, ⟨.say (.changed group state), ()⟩]

/-- It is collected what is to be reported, and then announced. -/
theorem collected_of_run (h : (shell.reapBackground rounds).Run events shell') :
    ∃ reaping change jobs, events = reaping ++ announcement change ∧ shell' = { shell with jobs } ∧
      shell.jobs.Collected rounds reaping jobs change := by
  obtain ⟨reaping, others, ⟨jobs, change⟩, rfl, hreap, hothers⟩ := run_bind_iff.mp h
  have collected := collected_of_reapTable hreap
  cases change with
  | none =>
    obtain ⟨rfl, rfl⟩ := run_pure_iff.mp hothers
    exact ⟨reaping, none, jobs, rfl, rfl, collected⟩
  | some change =>
    obtain ⟨_, saying, rfl, hsaying⟩ := run_ask_bind_iff.mp hothers
    obtain ⟨_, last, rfl, hlast⟩ := run_ask_bind_iff.mp hsaying
    obtain ⟨rfl, rfl⟩ := run_pure_iff.mp hlast
    exact ⟨reaping, some change, jobs, rfl, rfl, collected⟩

theorem quiet_announcement (change : Option (Pid × State)) : Quiet (announcement change) := by
  cases change with
  | none => exact quiet_nil
  | some _ => exact quiet_cons.mpr ⟨rfl, quiet_cons.mpr ⟨rfl, quiet_nil⟩⟩

/-- **Collecting what is to be reported polls the jobs that are not in the foreground; what has
become of them is then announced.** -/
theorem run_reapBackground (h : (shell.reapBackground rounds).Run events shell') :
    shell'.terminal = shell.terminal ∧ shell'.jobs.foreground = shell.jobs.foreground ∧
      ∃ polling announcing, events = polling ++ announcing ∧ Quiet announcing ∧
        Polled rounds shell.jobs.rear polling shell'.jobs.rear := by
  obtain ⟨reaping, change, jobs, rfl, rfl, collected⟩ := collected_of_run h
  obtain ⟨free, polling, logging, rfl, logged, polled⟩ := collected.polled
  rw [List.append_assoc]
  exact ⟨rfl, free, polling, _, rfl, quiet_append.mpr ⟨logged, quiet_announcement change⟩,
    polled⟩

theorem steps_reapBackground (h : (shell.reapBackground rounds).Run events shell')
    (settled : shell.jobs.Settled) : shell'.terminal = shell.terminal ∧ shell'.jobs.Settled ∧
      Steps shell.terminal.shellGroup .polling shell.jobs.roster events shell'.jobs.roster := by
  obtain ⟨hterminal, free, polling, announcing, rfl, quiet, polled⟩ := run_reapBackground h
  have rests : ∀ job ∈ shell.jobs.rear, Rests job := by
    have := (settled_iff.mp settled).2
    rwa [roster_eq_rear settled.free] at this
  have free' : shell'.jobs.foreground = none := free.trans settled.free
  have steps := polled.steps shell.terminal.shellGroup 0
  rw [Multiset.add_zero, Multiset.add_zero, ← roster_eq_rear settled.free,
    ← roster_eq_rear free'] at steps
  refine ⟨hterminal, settled_iff.mpr ⟨free', ?_⟩, steps.trans (.quiet quiet)⟩
  rw [roster_eq_rear free']
  exact polled.rests rests

/-! ### Launching -/

namespace Spawn

/-- The events of starting some processes after others: a process started leads the group, or joins
that of the first. -/
inductive Started : List Pid → List Event → List Pid → Prop
  | nil {started} : Started started [] started
  | quiet {started started' events} {e : Event} : e.call.isQuiet = true →
      Started started events started' → Started started (e :: events) started'
  | refused {started started' events child errno} : Started started events started' →
      Started started (⟨.fork child, .error errno⟩ :: events) started'
  | forked {started started' events child} {pid : Pid} : child.group = group started →
      Started (started ++ [pid]) events started' →
      Started started (⟨.fork child, .ok pid⟩ :: events) started'

variable {started middle last : List Pid} {more : List Event}

theorem Started.append (h : Started started events middle) (h' : Started middle more last) :
    Started started (events ++ more) last := by
  induction h with
  | nil => exact h'
  | quiet he _ ih => exact .quiet he (ih h')
  | refused _ ih => exact .refused (ih h')
  | forked hgroup _ ih => exact .forked hgroup (ih h')

theorem Started.of_quiet (h : Quiet events) : Started started events started := by
  induction events with
  | nil => exact .nil
  | cons e events ih =>
    obtain ⟨he, h⟩ := quiet_cons.mp h
    exact .quiet he (ih h)

/-- What a launch does is starting processes. -/
theorem Launched.starts {incoming : Option Fd} {started' : List Pid} {list : List Stage}
    {failure : Option LaunchError}
    (h : Launched incoming started list events started' failure) :
    Started started events started' := by
  induction h with
  | done => exact .of_quiet (quiet_closings _)
  | noPipe => exact .quiet rfl (.of_quiet (quiet_closings _))
  | noFork piped =>
    exact .append (.of_quiet piped.quiet) (.refused (.of_quiet (quiet_closings _)))
  -- the group that the process joins is that of the processes started before
  | forked piped _ ih =>
    exact .append (.of_quiet piped.quiet)
      (.forked rfl (.quiet rfl (.append (.of_quiet (quiet_closings _)) ih)))

/-- **Whatever is refused, the processes started are those that a run of the launch reports.** -/
theorem started_of_run {list : List Stage} {incoming : Option Fd} {started started' : List Pid}
    {failure : Option LaunchError}
    (h : (stages incoming started list rounds).Run events (started', failure)) :
    Started started events started' :=
  (launched_of_run h).starts

end Spawn

/-! ### Operations -/

/-- Steps of a roster with at most one launch among them, whose processes are one job; that job, or
one that was there before, may be waited for. -/
inductive Roster.Evolves (own : Pid) : Multiset Job → List Event → Multiset Job → Prop
  | launching {first middle last : Multiset Job} {before launch after : List Event}
      {started : List Pid} (foreground : Bool) : Steps own .polling first before middle →
      Spawn.Started [] launch started →
      Spans own ((Job.ofPids? started foreground).toList + middle) after last →
      Evolves own first (before ++ launch ++ after) last

namespace Roster

variable {first middle last : Multiset Job} {more : List Event}

/-- Steps without a launch. -/
theorem Spans.evolves (h : Spans own first events last) : Evolves own first events last := by
  have launched_nothing : (↑(Job.ofPids? [] true).toList : Multiset Job) + first = first :=
    Multiset.zero_add first
  rw [← launched_nothing] at h
  exact Evolves.launching true .refl .nil h

theorem Evolves.after_steps (h : Steps own .polling first events middle)
    (h' : Evolves own middle more last) : Evolves own first (events ++ more) last := by
  obtain ⟨foreground, before, launch, after⟩ := h'
  rw [← List.append_assoc, ← List.append_assoc]
  exact .launching foreground (h.trans before) launch after

theorem Evolves.before_steps (h : Evolves own first events middle)
    (h' : Steps own .polling middle more last) : Evolves own first (events ++ more) last := by
  obtain ⟨foreground, before, launch, after⟩ := h
  rw [List.append_assoc]
  exact .launching foreground before launch (after.before_steps h')

/-- An invariant that every step and every launch keeps is kept. -/
theorem Evolves.preserves (Inv : List Event → Multiset Job → Prop)
    (step : ∀ {q history first events last}, q = .blocking ∨ q = .polling →
      Step own q first events last → Inv history first → Inv (history ++ events) last)
    (launch : ∀ {history jobs events started} (foreground : Bool),
      Spawn.Started [] events started → Inv history jobs →
      Inv (history ++ events) ((Job.ofPids? started foreground).toList + jobs))
    (h : Evolves own first events last) (history : List Event) (inv : Inv history first) :
    Inv (history ++ events) last := by
  obtain ⟨foreground, before, started, after⟩ := h
  have inv := launch foreground started (before.preserves Inv (step (.inr rfl)) _ inv)
  rw [← List.append_assoc, ← List.append_assoc]
  exact after.preserves Inv step _ inv

end Roster

/-- One of the operations of a shell on its jobs. -/
inductive Shell.Operates (shell : Shell) (events : List Event) (shell' : Shell) : Prop
  | launch (tokens : List String) (rounds : Nat) (report : Report) :
      (Line.evaluate shell tokens rounds).Run events (shell', report) → Operates shell events shell'
  | foreground (rounds : Nat) (result : Except Errno (Option Outcome)) :
      (shell.resumeForeground rounds).Run events (shell', result) → Operates shell events shell'
  | background (rounds : Nat) (result : Except Errno (Option Pid)) :
      (shell.resumeBackground rounds).Run events (shell', result) → Operates shell events shell'
  | reap (rounds : Nat) :
      (shell.reapBackground rounds).Run events shell' → Operates shell events shell'
  /-- Nothing that concerns a job. -/
  | other : Quiet events → shell' = shell → Operates shell events shell'

/-- Job of processes just started. -/
theorem ofPids?_cons (pid : Pid) (pids : List Pid) (foreground : Bool) :
    Job.ofPids? (pid :: pids) foreground = some {
      pgid := pid
      members := (pid :: pids).map fun pid => { pid, status := .stillAlive }
      foreground
      lastStatus := none } := rfl

section Launched

variable {pids : List Pid} {foreground : Bool}

theorem status_of_ofPids? (h : Job.ofPids? pids foreground = some job) :
    ∀ member ∈ job.members, member.status = .stillAlive := by
  cases pids with
  | nil => cases h
  | cons pid pids =>
    obtain rfl := Option.some.inj h
    exact List.forall_mem_map.mpr fun _ _ => rfl

/-- A job just launched is running. -/
theorem running_of_ofPids? (h : Job.ofPids? pids foreground = some job) :
    job.state = .running := by
  cases pids with
  | nil => cases h
  | cons pid pids =>
    obtain rfl := Option.some.inj h
    exact Job.state_eq_running_iff.mpr ⟨⟨pid, .stillAlive⟩, List.mem_cons_self, rfl⟩

theorem alive_of_ofPids? (h : Job.ofPids? pids foreground = some job) : job.state ≠ .done := by
  rw [running_of_ofPids? h]
  nofun

end Launched

/-- The processes started for a line become a job in the foreground or the background. -/
theorem run_track {started : List Pid} {background : Bool} {report : Report}
    (h : (Line.track shell started background rounds).Run events (shell', report))
    (settled : shell.jobs.Settled) :
    shell.Keeps ((Job.ofPids? started !background).toList + shell.jobs.roster) events shell' := by
  cases hjob : Job.ofPids? started !background with
  | none =>
    rw [Line.track, hjob] at h
    obtain ⟨rfl, rfl, -⟩ := run_pair_iff.mp h
    exact ⟨rfl, settled, .steps .refl⟩
  | some job =>
    have alive := alive_of_ofPids? hjob
    cases tracks_of_run hjob h with
    | background hlaunch _ => exact run_launchBackground hlaunch settled alive
    | foreground hrun => exact run_runForeground hrun settled alive

/-- What an operation does to a shell. -/
structure Shell.Advances (shell : Shell) (events : List Event) (shell' : Shell) : Prop where
  terminal : shell'.terminal = shell.terminal
  settled : shell'.jobs.Settled
  evolves : Evolves shell.terminal.shellGroup shell.jobs.roster events shell'.jobs.roster

theorem Shell.Keeps.advances (h : shell.Keeps shell.jobs.roster events shell') :
    shell.Advances events shell' := ⟨h.terminal, h.settled, h.spans.evolves⟩

theorem advances_of_quiet (h : Quiet events) (settled : shell.jobs.Settled) :
    shell.Advances events shell := ⟨rfl, settled, (Spans.steps (.quiet h)).evolves⟩

/-- **Launching the pipeline of a line prepares it, starts its processes, and follows these as one
job.** -/
theorem run_evaluate {tokens : List String} {report : Report}
    (h : (Line.evaluate shell tokens rounds).Run events (shell', report))
    (settled : shell.jobs.Settled) : shell.Advances events shell' := by
  have prepared : ∀ {pipeline preparing prepared},
      (Stage.prepare pipeline rounds).Run preparing prepared → Quiet preparing :=
    fun hprepare => (ordinary_prepare _).quiet.of_run hprepare
  have said : ∀ {cause : Rejection}, Quiet [⟨.say (.rejected cause), ()⟩] := by
    simp [Call.isQuiet]
  cases evaluated_of_run h with
  | malformed => exact advances_of_quiet said settled
  | unprepared _ hprepare =>
    exact advances_of_quiet (quiet_append.mpr ⟨prepared hprepare, said⟩) settled
  | unlaunched _ hprepare hlaunch =>
    rw [← List.append_assoc]
    exact ⟨rfl, settled, .launching true (.quiet (prepared hprepare))
      (Spawn.started_of_run hlaunch) (.steps (.quiet said))⟩
  | launched _ hprepare hlaunch _ htrack =>
    obtain ⟨hterminal, settled', spans⟩ := run_track htrack settled
    rw [← List.append_assoc]
    exact ⟨hterminal, settled', .launching _ (.quiet (prepared hprepare))
      (Spawn.started_of_run hlaunch)
      (spans.after_steps (.quiet (ordinary_complaint _).quiet))⟩

/-- **An operation keeps the terminal, leaves the table settled, and takes the roster through some
steps.** -/
theorem Shell.Operates.advances (h : shell.Operates events shell') (settled : shell.jobs.Settled) :
    shell.Advances events shell' := by
  cases h with
  | launch _ _ _ h => exact run_evaluate h settled
  | foreground _ _ h => exact (run_resumeForeground h settled).advances
  | background _ _ h => exact (run_resumeBackground h settled).advances
  | reap _ h =>
    obtain ⟨hterminal, settled', steps⟩ := steps_reapBackground h settled
    exact ⟨hterminal, settled', (Spans.steps steps).evolves⟩
  | other quiet h =>
    rw [h]
    exact advances_of_quiet quiet settled

/-! ### Lines -/

/-- An operation, then something quiet. -/
def Shell.OperatesThen (shell : Shell) (events : List Event) (shell' : Shell) : Prop :=
  ∃ operating rest, events = operating ++ rest ∧ shell.Operates operating shell' ∧ Quiet rest

theorem operatesThen_of_ordinary (h : Ordinary events) : shell.OperatesThen events shell :=
  ⟨events, [], (List.append_nil _).symm, .other h.quiet rfl, quiet_nil⟩

/-- **A builtin carries out at most one operation.** -/
theorem run_builtin {builtin : Builtin} {arguments : List String} {result : BuiltinResult}
    (h : (builtin.run shell arguments rounds).Run events (shell', result)) :
    shell.OperatesThen events shell' := by
  cases ran_of_run h with
  | ordinary _ _ ordinary => exact operatesThen_of_ordinary ordinary
  | foreground hresume _ rest => exact ⟨_, _, rfl, .foreground rounds _ hresume, rest.quiet⟩
  | background hresume rest => exact ⟨_, _, rfl, .background rounds _ hresume, rest.quiet⟩

/-- **A line collects what is to be reported, and then carries out at most one operation.** -/
theorem execute_operates {tokens : List String} {report : Report}
    (h : (Line.execute shell tokens rounds).Run events (shell', report)) :
    ∃ reaping rest middle, events = reaping ++ rest ∧
      (shell.reapBackground rounds).Run reaping middle ∧ middle.OperatesThen rest shell' := by
  obtain ⟨reaping, rest, middle, rfl, hreap, executed⟩ := executed_of_run h
  refine ⟨reaping, rest, middle, rfl, hreap, ?_⟩
  cases executed with
  | empty => exact operatesThen_of_ordinary ordinary_nil
  | pipeline _ hevaluate =>
    exact ⟨rest, [], (List.append_nil _).symm, .launch _ rounds report hevaluate, quiet_nil⟩
  | builtin _ hrun | exit _ hrun => exact run_builtin hrun

/-- A line keeps the terminal, leaves the table settled, and takes the roster through some steps. -/
theorem execute_advances {tokens : List String} {report : Report}
    (h : (Line.execute shell tokens rounds).Run events (shell', report))
    (settled : shell.jobs.Settled) : shell.Advances events shell' := by
  obtain ⟨reaping, rest, middle, rfl, hreap, operating, last, rfl, hoperate, quiet⟩ :=
    execute_operates h
  obtain ⟨hterminal, settled, steps⟩ := steps_reapBackground hreap settled
  obtain ⟨hterminal', settled', evolves⟩ := hoperate.advances settled
  rw [hterminal] at hterminal' evolves
  exact ⟨hterminal', settled', .after_steps steps (evolves.before_steps (.quiet quiet))⟩

end JobControl
