import JobControl.Proofs.Operation

/-!
# Sessions

A session is a fresh shell that runs one line after another.  Nothing is assumed of the lines or of
the answers of the system.

## Main definitions

* `Session terminal lines shell` — after some lines, each given by its events, a shell that was
  fresh with `terminal` has become `shell`.
* `Event.settledPid?` — the process whose end an event reports, or that it cannot be waited for.
* `Course terminal history shell` — a shell after some operations in any order.
* `Job.Descends job' job` — a job at a later time.
* `Job.Becomes q job events job'` — what one step makes of a job.

## Main results

* `Course.preserves` — what every step and every launch keeps holds after every course.
* `Session.course` — a session is a course of operations.
* `Roster.Evolves.descends` — a job after an operation was there before, or was launched by it.
* `jobs_between_lines` — **each job between two lines has a member, is not done, and is led by the
  first process that was started for it.**
-/

namespace JobControl

open Roster JobTable

/-- The process that an event settles: it has ended, or it cannot be waited for. -/
def Event.settledPid? : Event → Option Pid
  | ⟨.wait pid _, .ok status⟩ => if status.state = .done then some pid else none
  | ⟨.wait pid _, .error e⟩ => if e = .eintr then none else some pid
  | _ => none

section Settled

variable {pid : Pid} {flags : WaitFlags} {status : WaitStatus} {errno : Errno}

theorem Event.settledPid?_ok : settledPid? ⟨.wait pid flags, .ok status⟩ =
    if status.state = .done then some pid else none := rfl

theorem Event.settledPid?_error : settledPid? ⟨.wait pid flags, .error errno⟩ =
    if errno = .eintr then none else some pid := rfl

theorem Event.settledPid?_of_quiet {e : Event} (h : e.call.isQuiet = true) :
    e.settledPid? = none := by
  obtain ⟨call, answer⟩ := e
  cases call with
  | wait _ _ => cases h
  | _ => rfl

end Settled

/-- A fresh shell after some operations, in any order. -/
inductive Course (terminal : Terminal) : List Event → Shell → Prop
  | fresh : Course terminal [] { terminal }
  | operate {history events : List Event} {shell shell' : Shell} : Course terminal history shell →
      shell.Operates events shell' → Course terminal (history ++ events) shell'

/-- A fresh shell after some lines. -/
inductive Session (terminal : Terminal) : List (List Event) → Shell → Prop
  | fresh : Session terminal [] { terminal }
  | line {lines : List (List Event)} {shell shell' : Shell} {tokens : List String} {rounds : Nat}
      {events : List Event} {report : Report} : Session terminal lines shell →
      (Line.execute shell tokens rounds).Run events (shell', report) →
      Session terminal (lines ++ [events]) shell'

variable {terminal : Terminal} {history : List Event} {lines : List (List Event)} {shell : Shell}

theorem Course.settled (h : Course terminal history shell) : shell.jobs.Settled := by
  induction h with
  | fresh => exact settled_iff.mpr ⟨rfl, nofun⟩
  | operate _ operates ih => exact (operates.advances ih).settled

theorem Course.terminal_eq (h : Course terminal history shell) : shell.terminal = terminal := by
  induction h with
  | fresh => rfl
  | operate before operates ih => exact (operates.advances before.settled).terminal.trans ih

/-- **What holds of a shell that follows nothing, and is kept by every step and every launch, holds
after every course of operations.** -/
theorem Course.preserves (Inv : List Event → Multiset Job → Prop) (init : Inv [] 0)
    (step : ∀ {q history first events last}, q = .blocking ∨ q = .polling →
      Step terminal.shellGroup q first events last → Inv history first →
      Inv (history ++ events) last)
    (launch : ∀ {history jobs events started} (foreground : Bool),
      Spawn.Started [] events started → Inv history jobs →
      Inv (history ++ events) ((Job.ofPids? started foreground).toList + jobs))
    (h : Course terminal history shell) : Inv history shell.jobs.roster := by
  induction h with
  | fresh => exact init
  | operate before operates ih =>
    have evolves := (operates.advances before.settled).evolves
    rw [before.terminal_eq] at evolves
    exact evolves.preserves Inv step launch _ ih

/-- A session is a course of operations: before each line comes the collecting of what is to be
reported. -/
theorem Session.course (h : Session terminal lines shell) :
    Course terminal lines.flatten shell := by
  induction h with
  | fresh => exact .fresh
  | line _ run ih =>
    obtain ⟨reaping, rest, middle, rfl, hreap, operating, last, rfl, operates, quiet⟩ :=
      execute_operates run
    have reaped := ih.operate (.reap _ hreap)
    have operated := (reaped.operate operates).operate (.other quiet rfl)
    rw [List.flatten_append, List.flatten_singleton, ← List.append_assoc, ← List.append_assoc]
    exact operated

theorem Session.settled (h : Session terminal lines shell) : shell.jobs.Settled := h.course.settled

/-! ### Where jobs come from -/

variable {own : Pid} {q : Inquiry} {first last : Multiset Job} {events : List Event}

/-- A job at a later time: its group is the same, and no process has joined it. -/
def Job.Descends (job' job : Job) : Prop := job'.pgid = job.pgid ∧ job'.pids.Sublist job.pids

theorem Job.Descends.refl (job : Job) : job.Descends job := ⟨rfl, .refl _⟩

theorem Job.Descends.trans {job₁ job₂ job₃ : Job} (h : job₁.Descends job₂)
    (h' : job₂.Descends job₃) : job₁.Descends job₃ := ⟨h.1.trans h'.1, h.2.trans h'.2⟩

theorem Job.descends_record {q : Inquiry} {job : Job} {found : Findings}
    (h : q.Surveyed job.members events found) : (job.record found).Descends job := by
  refine ⟨rfl, ?_⟩
  have := (List.filter_sublist (p := fun member : Member =>
    !(found.failures.map (·.pid)).contains member.pid) (l := found.members)).map (·.pid)
  rwa [h.pids_eq] at this

theorem Job.pids_resumed (job : Job) : job.resumed.pids = job.pids := by
  rw [pids, resumed, List.map_map, pids]
  refine List.map_congr_left fun member _ => ?_
  dsimp only [Function.comp]
  split <;> rfl

theorem Job.descends_resumed (job : Job) : job.resumed.Descends job :=
  ⟨rfl, by rw [pids_resumed]⟩

/-- What a step makes of a job. -/
inductive Job.Becomes (q : Inquiry) (job : Job) (events : List Event) : Job → Prop
  | same : Becomes q job events job
  | placed (foreground : Bool) : Becomes q job events { job with foreground }
  | resumed : Becomes q job events job.resumed
  | recorded {found : Findings} : q.Surveyed job.members events found →
      Becomes q job events (job.record found)

/-- A step adds no job. -/
theorem Roster.Step.becomes (h : Step own q first events last) :
    ∀ job' ∈ last, ∃ job ∈ first, job.Becomes q events job' := by
  have others : ∀ {job job' : Job} {jobs : Multiset Job}, job.Becomes q events job' →
      ∀ later ∈ job' ::ₘ jobs, ∃ earlier ∈ job ::ₘ jobs, earlier.Becomes q events later := by
    intro job job' jobs h later hlater
    rcases Multiset.mem_cons.mp hlater with rfl | hlater
    · exact ⟨job, Multiset.mem_cons_self _ _, h⟩
    · exact ⟨later, Multiset.mem_cons_of_mem hlater, .same⟩
  cases h with
  | quiet _ | takeBack => exact fun job hjob => ⟨job, hjob, .same⟩
  | inquire hsurvey => exact others (.recorded hsurvey)
  | resume _ => exact others .resumed
  | place foreground => exact others (.placed foreground)
  | signal _ _ | handOver _ => exact others .same
  | release _ => exact fun job hjob => ⟨job, Multiset.mem_cons_of_mem hjob, .same⟩

theorem Job.Becomes.descends {job job' : Job} (h : job.Becomes q events job') :
    job'.Descends job := by
  cases h with
  | same | placed _ => exact ⟨rfl, .refl _⟩
  | resumed => exact job.descends_resumed
  -- members that cannot be waited for are dropped, even the one that leads the group
  | recorded hsurvey => exact descends_record hsurvey

theorem Roster.Step.descends (h : Step own q first events last) :
    ∀ job' ∈ last, ∃ job ∈ first, job'.Descends job := by
  intro job' hjob'
  obtain ⟨job, hjob, becomes⟩ := h.becomes job' hjob'
  exact ⟨job, hjob, becomes.descends⟩

theorem Roster.Spans.descends (h : Spans own first events last) :
    ∀ job' ∈ last, ∃ job ∈ first, job'.Descends job := by
  refine h.preserves (fun _ later => ∀ job' ∈ later, ∃ job ∈ first, job'.Descends job) ?_
    [] fun job hjob => ⟨job, hjob, .refl _⟩
  intro q history _ events _ _ step ih later hlater
  obtain ⟨middle, hmiddle, hlater⟩ := step.descends later hlater
  obtain ⟨job, hjob, hmiddle⟩ := ih middle hmiddle
  exact ⟨job, hjob, hlater.trans hmiddle⟩

/-- A step starts no process. -/
theorem Roster.Step.forks_eq (h : Step own q first events last) : forks events = [] := by
  cases h with
  | quiet he => exact forks_of_quiet (quiet_cons.mpr ⟨he, quiet_nil⟩)
  | inquire hsurvey =>
    -- an inquiry waits and makes entries in the log
    refine forks_eq_nil fun e he child hcall => ?_
    rcases hsurvey.asks e he with ⟨entry, hentry⟩ | ⟨member, _, _, hwait⟩
    · cases hcall.symm.trans hentry
    · cases hcall.symm.trans hwait
  | _ => rfl

theorem Roster.Spans.forks_eq (h : Spans own first events last) : forks events = [] := by
  have started := h.preserves (fun history _ => forks history = []) ?_ [] rfl
  · exact started
  · intro q history _ events _ _ step ih
    rw [forks_append, ih, step.forks_eq, List.append_nil]

theorem Spawn.Started.forks_eq {started started' : List Pid} (h : Started started events started') :
    started' = started ++ forks events := by
  induction h with
  | nil => exact (List.append_nil _).symm
  | quiet he _ ih => rw [ih, ← List.singleton_append, forks_append,
      forks_of_quiet (quiet_cons.mpr ⟨he, quiet_nil⟩), List.nil_append]
  | refused _ ih => exact ih
  | forked _ _ ih =>
    rw [ih, List.append_assoc]
    rfl

theorem mem_ofPids?_toList {job : Job} {pids : List Pid} {foreground : Bool}
    (h : job ∈ (Job.ofPids? pids foreground).toList) :
    pids.head? = some job.pgid ∧ job.pids = pids := by
  cases pids with
  | nil => cases h
  | cons pid pids =>
    obtain rfl := List.mem_singleton.mp h
    refine ⟨rfl, ?_⟩
    rw [Job.pids, List.map_map]
    exact List.map_id _

/-- A job after an operation was there before, or was launched by it as a whole. -/
theorem Roster.Evolves.descends (h : Evolves own first events last) :
    ∀ job' ∈ last, (∃ job ∈ first, job'.Descends job) ∨
      ((forks events).head? = some job'.pgid ∧ job'.pids.Sublist (forks events)) := by
  obtain ⟨foreground, before, launch, after⟩ := h
  intro later hlater
  obtain ⟨job, hjob, hlater⟩ := after.descends later hlater
  rw [forks_append, forks_append, (Spans.steps before).forks_eq, after.forks_eq, List.append_nil,
    List.nil_append]
  rcases Multiset.mem_add.mp hjob with hjob | hjob
  · obtain ⟨hhead, hpids⟩ := mem_ofPids?_toList hjob
    rw [launch.forks_eq, List.nil_append] at hhead hpids
    exact .inr ⟨by rw [hlater.1, hhead], hpids ▸ hlater.2⟩
  · obtain ⟨earlier, hearlier, hjob⟩ := (Spans.steps before).descends job hjob
    exact .inl ⟨earlier, hearlier, hlater.trans hjob⟩

/-- Each job was launched by one of the lines. -/
theorem Session.launched (h : Session terminal lines shell) :
    ∀ job ∈ shell.jobs.roster,
      ∃ line ∈ lines, (forks line).head? = some job.pgid ∧ job.pids.Sublist (forks line) := by
  induction h with
  | fresh => nofun
  | @line lines _ _ _ _ events _ before run ih =>
    intro job hjob
    rcases (execute_advances run before.settled).evolves.descends job hjob with
      ⟨earlier, hearlier, hgroup, hpids⟩ | launched
    · obtain ⟨line, hline, hhead, hsub⟩ := ih earlier hearlier
      exact ⟨line, List.mem_append_left _ hline, by rw [hhead, hgroup], hpids.trans hsub⟩
    · exact ⟨events, List.mem_append_right _ (List.mem_singleton_self _), launched⟩

/-- **Between two lines no job is in the foreground; and each job in the background or disowned has
a member, is not done, is not marked as the foreground job, and has for its group the first process
that its line started, whether or not that process is still a member.** -/
theorem jobs_between_lines (h : Session terminal lines shell) :
    shell.jobs.foreground = none ∧ shell.jobs.foregroundGroup = none ∧
      ∀ job ∈ shell.jobs.background.toList ++ shell.jobs.disowned,
        job.members ≠ [] ∧ job.state ≠ .done ∧ job.foreground = false ∧
          ∃ line ∈ lines, (forks line).head? = some job.pgid ∧ job.pids.Sublist (forks line) := by
  have free := h.settled.free
  refine ⟨free, by rw [foregroundGroup, free]; rfl, fun job hjob => ?_⟩
  have hroster : job ∈ shell.jobs.roster := by
    rw [roster, free]
    exact hjob
  have alive := h.settled.alive job hroster
  obtain ⟨member, hmember, -⟩ := Job.state_ne_done_iff.mp alive
  exact ⟨List.ne_nil_of_mem hmember, alive, h.settled.placed job hroster, h.launched job hroster⟩

/-! ### A session of two lines

The first line is `/a | /a &`; at the second, the leader of its group cannot be waited for. -/

namespace Sample

/-- The program that the first line names. -/
def program : Program :=
  { name := "/a", path := Text.toBytes "/a", argv := [Text.toBytes "/a"] }

/-- Two processes are started in the background. -/
def launching : List Event := [
  ⟨.environment "PATH", none⟩, ⟨.metadata (Text.toBytes "/a"), .ok ⟨.regular, 0o755, 0⟩⟩,
  ⟨.environment "PATH", none⟩, ⟨.metadata (Text.toBytes "/a"), .ok ⟨.regular, 0o755, 0⟩⟩,
  ⟨.pipe, .ok (3, 4)⟩,
  ⟨.fork ⟨program, none, some 4, none⟩, .ok 7⟩, ⟨.setGroup 7 7, .ok ()⟩, ⟨.close 4, ()⟩,
  ⟨.fork ⟨program, some 3, none, some 7⟩, .ok 8⟩, ⟨.setGroup 8 7, .ok ()⟩, ⟨.close 3, ()⟩,
  ⟨.say (.launched 7), ()⟩]

/-- The first process is lost; the second is running. -/
def losing : List Event := [
  ⟨.wait 7 .collect, .error .echild⟩, ⟨.log (.forgotten ⟨7, .echild⟩), ()⟩,
  ⟨.wait 8 .collect, .error .eintr⟩, ⟨.wait 8 .collect, .ok .stillAlive⟩]

/-- A shell with some members of group 7 in the background. -/
def shellWith (members : List Member) : Shell where
  terminal := .detached 1
  jobs := { background := some ⟨7, members, false, none⟩ }

theorem run_launching : (Line.execute { terminal := .detached 1 } ["/a", "|", "/a", "&"] 2).Run
    launching (shellWith [⟨7, .stillAlive⟩, ⟨8, .stillAlive⟩], .background 7) :=
  .ask (.ask (.ask (.ask (.ask (.ask (.ask (.ask (.ask (.ask (.ask (.ask (.done _))))))))))))

theorem run_losing : (Line.execute (shellWith [⟨7, .stillAlive⟩, ⟨8, .stillAlive⟩]) [] 2).Run
    losing (shellWith [⟨8, .stillAlive⟩], .empty) :=
  .ask (.ask (.ask (.ask (.done _))))

theorem session : Session (.detached 1) [launching, losing] (shellWith [⟨8, .stillAlive⟩]) :=
  .line (.line .fresh run_launching) run_losing

end Sample

/-- The group of the job is still that of its lost leader. -/
theorem job_after_losing_leader :
    (Sample.shellWith [⟨8, .stillAlive⟩]).jobs.foreground = none ∧
      ∃ line ∈ [Sample.launching, Sample.losing],
        (forks line).head? = some 7 ∧ [8].Sublist (forks line) := by
  obtain ⟨free, -, jobs⟩ := jobs_between_lines Sample.session
  obtain ⟨-, -, -, launched⟩ := jobs _ (List.mem_singleton_self _)
  exact ⟨free, launched⟩

end JobControl
