import JobControl.Proofs.Session
import JobControl.Proofs.Tending

/-!
# What becomes of a job that loses its place

A job that loses its place in the background is hung up if it is recorded as stopped at that moment.
From then on it is only polled: if a poll records a stop, nobody is there to let it go on, and the
shell does not hang it up again.

## Main definitions

* `HungUp group events` — a group was told that its terminal is gone, and let go on.
* `Job.Later job events job'` — a job after some polls.
* `Job.Stops job events` — one of these polls makes it a stopped one.
* `Disowns jobs events jobs'` — what an operation does to the disowned jobs.
* `Job.Displaced job history` — a job has lost its place, and was only polled since then.

## Main results

* `Job.Later.stopped` — a job that is stopped was so before, or one of the polls made it so.
* `Shell.Operates.disowns` — an operation polls the disowned jobs, or disowns one more, or leaves
  them.
* `Course.displaced` — each disowned job has lost its place in this way.
* `stopped_since_displaced` — **a disowned job that is stopped was hung up after it stopped, or a
  poll has recorded the stop since it lost its place.**
* `stopped_without_hang_up` — in the second case it may be sent no signal at all.
-/

namespace JobControl

open JobControl.Action (run_pure_iff run_pair_iff run_bind_iff run_bind_pure_iff run_bind_pair_iff
  run_ask_bind_iff)
open JobTable

variable {job job' : Job} {rounds : Nat} {events more : List Event}

/-! ### Losing a place -/

/-- A group was hung up: it was told so and, unless that was refused, let go on. -/
inductive HungUp (group : Pid) (events : List Event) : Prop
  | refused {e : Errno} : ⟨.signalGroup group .hup, .error e⟩ ∈ events → HungUp group events
  | told {answer : Except Errno Unit} :
      [⟨.signalGroup group .hup, .ok ()⟩, ⟨.signalGroup group .cont, answer⟩] <:+: events →
      HungUp group events

theorem HungUp.exists_signal {group : Pid} (h : HungUp group events) :
    ∃ e ∈ events, e.call = .signalGroup group .hup := by
  cases h with
  | refused sent => exact ⟨_, sent, rfl⟩
  | told sent => exact ⟨_, sent.subset List.mem_cons_self, rfl⟩

theorem HungUp.behind {group : Pid} (h : HungUp group events) (before : List Event) :
    HungUp group (before ++ events) := by
  cases h with
  | refused sent => exact .refused (List.mem_append_right before sent)
  | told sent => exact .told (sent.trans (List.suffix_append before events).isInfix)

/-- A job that is stopped when it loses its place is hung up. -/
theorem Job.Displaces.hungUp_of_stopped (h : job.Displaces events job')
    (stopped : job.state = .stopped) : HungUp job.pgid events := by
  cases h with
  | unstopped running => exact absurd stopped running
  | untold _ => exact .refused (List.mem_cons_of_mem _ List.mem_cons_self)
  | unmoved _ | moved _ => exact .told ⟨[_], [_], rfl⟩

/-- A job that is stopped after it lost its place was so before, and was hung up. -/
theorem Job.Displaces.hungUp (h : job.Displaces events job') (stopped : job'.state = .stopped) :
    job.state = .stopped ∧ HungUp job'.pgid events := by
  have hungUp := h.hungUp_of_stopped
  cases h with
  | unstopped running => exact absurd stopped running
  | untold before | unmoved before => exact ⟨before, hungUp before⟩
  | moved before =>
    -- it is running now
    rw [Job.state_resumed (by rw [before]; nofun)] at stopped
    cases stopped

/-! ### Being polled -/

/-- A job after some polls, among other events. -/
inductive Job.Later (job : Job) : List Event → Job → Prop
  | now : Later job [] job
  | waiting {events : List Event} {job' : Job} (more : List Event) : Later job events job' →
      Later job (events ++ more) job'
  | polled {events asked : List Event} {job' : Job} {found : Findings} : Later job events job' →
      Inquiry.polling.Surveyed job'.members asked found →
      Later job (events ++ asked) (job'.record found)

/-- One of the polls of a job records that it is stopped, which it was not before. -/
def Job.Stops (job : Job) (events : List Event) : Prop :=
  ∃ before asked after earlier found, events = before ++ (asked ++ after) ∧
    job.Later before earlier ∧ earlier.state ≠ .stopped ∧
    Inquiry.polling.Surveyed earlier.members asked found ∧ (earlier.record found).state = .stopped

theorem Job.Stops.append (h : job.Stops events) (more : List Event) :
    job.Stops (events ++ more) := by
  obtain ⟨before, asked, after, earlier, found, rfl, stops⟩ := h
  refine ⟨before, asked, after ++ more, earlier, found, ?_, stops⟩
  rw [List.append_assoc, List.append_assoc]

theorem Job.Later.pgid_eq (h : job.Later events job') : job'.pgid = job.pgid := by
  induction h with
  | now => rfl
  | waiting _ _ ih | polled _ _ ih => exact ih

/-- **A job that is stopped was so before the polls, or one of them has made it so.** -/
theorem Job.Later.stopped (h : job.Later events job') (stopped : job'.state = .stopped) :
    job.state = .stopped ∨ job.Stops events := by
  induction h with
  | now => exact .inl stopped
  | waiting more _ ih => exact (ih stopped).imp_right (·.append more)
  | @polled events asked earlier found later surveyed ih =>
    by_cases before : earlier.state = .stopped
    · exact (ih before).imp_right (·.append asked)
    · refine .inr ⟨events, asked, [], earlier, found, ?_, later, before, surveyed, stopped⟩
      rw [List.append_nil]

/-- A job that is kept when some are polled is one of them, polled. -/
theorem Polled.mem_kept {polled kept : List Job} (h : Polled rounds polled events kept) :
    ∀ job' ∈ kept, ∃ job ∈ polled, ∃ before asked after found,
      events = before ++ (asked ++ after) ∧ Inquiry.polling.Surveyed job.members asked found ∧
      job' = job.record found := by
  -- what is said of the jobs that follow holds behind the poll of one more
  have wider : ∀ {first job' : Job} {rest : List Job} {events : List Event} (asked : List Event),
      (∃ job ∈ rest, ∃ before during after found, events = before ++ (during ++ after) ∧
        Inquiry.polling.Surveyed job.members during found ∧ job' = job.record found) →
      ∃ job ∈ first :: rest, ∃ before during after found,
        asked ++ events = before ++ (during ++ after) ∧
        Inquiry.polling.Surveyed job.members during found ∧ job' = job.record found := by
    rintro first job' rest events asked ⟨job, hjob, before, during, after, found, rfl, polled⟩
    exact ⟨job, List.mem_cons_of_mem _ hjob, asked ++ before, during, after, found,
      (List.append_assoc ..).symm, polled⟩
  induction h with
  | nil => nofun
  | ended _ _ _ ih => exact fun job' hjob' => wider _ (ih job' hjob')
  | @going first _ _ _ asked events run _ _ ih =>
    obtain ⟨found, surveyed, rfl⟩ := run_poll run
    refine List.forall_mem_cons.mpr ⟨?_, fun job' hjob' => wider _ (ih job' hjob')⟩
    exact ⟨first, List.mem_cons_self, [], asked, events, found, rfl, surveyed, rfl⟩

/-! ### What operations do -/

/-- What an operation does to the disowned jobs: it leaves them as they are, or polls them, or
disowns one more. -/
inductive Disowns (jobs : List Job) : List Event → List Job → Prop
  | keeps (events : List Event) : Disowns jobs events jobs
  | polls {before polling after : List Event} {rounds : Nat} {kept : List Job} :
      Polled rounds jobs polling kept → Disowns jobs (before ++ (polling ++ after)) kept
  | displaces {before displacing after : List Event} {previous displaced : Job} :
      previous.Displaces displacing displaced →
      Disowns jobs (before ++ (displacing ++ after)) (jobs ++ [displaced])

section Operations

variable {t t' : JobTable} {shell shell' : Shell} {jobs jobs' : List Job}

/-- What is done among other events. -/
theorem Disowns.among (h : Disowns jobs events jobs') (before after : List Event) :
    Disowns jobs (before ++ (events ++ after)) jobs' := by
  have regroup : ∀ first middle last : List Event,
      before ++ ((first ++ (middle ++ last)) ++ after) =
        (before ++ first) ++ (middle ++ (last ++ after)) := by
    simp only [List.append_assoc, implies_true]
  cases h with
  | keeps => exact .keeps _
  | polls polled =>
    rw [regroup]
    exact .polls polled
  | displaces displaces =>
    rw [regroup]
    exact .displaces displaces

theorem Disowns.behind (h : Disowns jobs events jobs') (before : List Event) :
    Disowns jobs (before ++ events) jobs' := by
  have among := h.among before []
  rwa [List.append_nil] at among

theorem JobTable.Takes.disowns (h : t.Takes job rounds events t') :
    Disowns t.disowned events t'.disowned := by
  cases h with
  | free _ => exact .keeps []
  | @displacing _ displaced _ _ hdisplace =>
    have disowns : Disowns t.disowned ([] ++ (events ++ [])) (t.disowned ++ [displaced]) :=
      .displaces (displaces_of_run hdisplace)
    rwa [List.nil_append, List.append_nil] at disowns

theorem JobTable.Waited.disowns {outcome : Outcome} (h : t.Waited job rounds events t' outcome) :
    Disowns t.disowned events t'.disowned := by
  cases h with
  | ended => exact .keeps _
  | moved _ _ _ takes => exact (((takes.disowns).behind [_]).behind _).behind _

theorem disowns_waitAndReclaim {outcome : Outcome}
    (h : (shell.waitAndReclaim job rounds).Run events (shell', outcome)) :
    Disowns shell.jobs.disowned events shell'.jobs.disowned := by
  obtain ⟨waiting, back, jobs, rfl, rfl, hwait, -⟩ := waited_of_run h
  exact (waited_of_waitForeground hwait).disowns.among [] _

theorem disowns_track {started : List Pid} {background : Bool} {report : Report}
    (h : (Line.track shell started background rounds).Run events (shell', report)) :
    Disowns shell.jobs.disowned events shell'.jobs.disowned := by
  cases hjob : Job.ofPids? started !background with
  | none =>
    rw [Line.track, hjob] at h
    obtain ⟨rfl, rfl, -⟩ := run_pair_iff.mp h
    exact .keeps []
  | some job =>
    cases tracks_of_run hjob h with
    | background hlaunch _ =>
      obtain ⟨_, placing, rfl, hplacing⟩ := run_ask_bind_iff.mp hlaunch
      obtain ⟨jobs, hplace, rfl, -⟩ := run_bind_pair_iff.mp hplacing
      exact (takes_of_run hplace).disowns.behind [_]
    | foreground hrun =>
      obtain ⟨lending, waiting, _, rfl, -, hwaiting⟩ := run_bind_iff.mp hrun
      exact (disowns_waitAndReclaim hwaiting).behind _

theorem disowns_resumeForeground {result : Except Errno (Option Outcome)}
    (h : (shell.resumeForeground rounds).Run events (shell', result)) :
    Disowns shell.jobs.disowned events shell'.jobs.disowned := by
  cases foregrounded_of_run h with
  | noJob => exact .keeps []
  | refused _ _ _ _ hplace => exact (((takes_of_run hplace).disowns.behind _).behind _).behind _
  | waited _ _ _ hwait => exact ((disowns_waitAndReclaim hwait).behind _).behind _

theorem JobTable.Collected.disowns {change : Option (Pid × State)}
    (h : t.Collected rounds events t' change) : Disowns t.disowned events t'.disowned := by
  have polls : ∀ {polling : List Event} {kept : List Job}, Polled rounds t.disowned polling kept →
      ∀ after, Disowns t.disowned ([] ++ (polling ++ after)) kept := fun polled _ => .polls polled
  cases h with
  | idle _ polled =>
    have disowns := polls polled []
    rwa [List.nil_append, List.append_nil] at disowns
  | ended _ polled | going _ polled => exact polls polled _

/-- **An operation polls the disowned jobs, or disowns one more, or leaves them as they are.** -/
theorem Shell.Operates.disowns (h : shell.Operates events shell') :
    Disowns shell.jobs.disowned events shell'.jobs.disowned := by
  cases h with
  | launch _ _ _ h =>
    cases evaluated_of_run h with
    | malformed | unprepared | unlaunched => exact .keeps _
    | launched _ _ _ _ htrack => exact (((disowns_track htrack).behind _).behind _).behind _
  | foreground _ _ h => exact disowns_resumeForeground h
  | background _ _ h =>
    cases backgrounded_of_run h <;> exact .keeps _
  | reap _ h =>
    obtain ⟨reaping, change, jobs, rfl, rfl, collected⟩ := collected_of_run h
    exact collected.disowns.among [] _
  | other _ same =>
    rw [same]
    exact .keeps events

end Operations

/-! ### Sessions -/

/-- A job lost its place in the course of some events, and was only polled since then. -/
inductive Job.Displaced (job : Job) (history : List Event) : Prop
  | intro {before displacing after : List Event} {previous displaced : Job} :
      history = before ++ (displacing ++ after) → previous.Displaces displacing displaced →
      displaced.Later after job → Displaced job history

theorem Job.Displaced.append {history : List Event} (h : job.Displaced history)
    (more : List Event) : job.Displaced (history ++ more) := by
  obtain @⟨before, displacing, after, _, _, rfl, displaces, later⟩ := h
  have split : (before ++ (displacing ++ after)) ++ more =
      before ++ (displacing ++ (after ++ more)) := by
    rw [List.append_assoc, List.append_assoc]
  exact .intro split displaces (later.waiting more)

/-- An operation only polls the jobs that lost their place before. -/
theorem Disowns.displaced {jobs jobs' : List Job} {history : List Event}
    (h : Disowns jobs events jobs') (displaced : ∀ job ∈ jobs, job.Displaced history) :
    ∀ job ∈ jobs', job.Displaced (history ++ events) := by
  intro job hjob
  cases h with
  | keeps => exact (displaced job hjob).append events
  | @polls before polling after _ _ polled =>
    obtain ⟨earlier, hearlier, first, asked, last, found, rfl, surveyed, rfl⟩ :=
      polled.mem_kept job hjob
    obtain @⟨start, displacing, rest, _, _, rfl, displaces, later⟩ := displaced earlier hearlier
    have later := ((later.waiting (before ++ first)).polled surveyed).waiting (last ++ after)
    have split :
        (start ++ (displacing ++ rest)) ++ (before ++ ((first ++ (asked ++ last)) ++ after)) =
          start ++ (displacing ++ (((rest ++ (before ++ first)) ++ asked) ++ (last ++ after))) := by
      simp only [List.append_assoc]
    exact .intro split displaces later
  | @displaces before displacing after previous last displaces =>
    rcases List.mem_append.mp hjob with hjob | hjob
    · exact (displaced job hjob).append _
    · obtain rfl := List.mem_singleton.mp hjob
      exact .intro (List.append_assoc ..).symm displaces (.waiting after .now)

variable {terminal : Terminal} {history : List Event} {lines : List (List Event)} {shell : Shell}

/-- **Each disowned job has lost its place, and was only polled since then.** -/
theorem Course.displaced (h : Course terminal history shell) :
    ∀ job ∈ shell.jobs.disowned, job.Displaced history := by
  induction h with
  | fresh => nofun
  | operate _ operates ih => exact operates.disowns.displaced ih

/-- **A disowned job that is stopped was hung up when it lost its place, as it was stopped then; or
a poll has recorded the stop since.** -/
theorem stopped_since_displaced (h : Session terminal lines shell) :
    ∀ job ∈ shell.jobs.disowned, job.state = .stopped →
      ∃ before displacing after previous displaced,
        lines.flatten = before ++ (displacing ++ after) ∧
        Job.Displaces previous displacing displaced ∧ displaced.Later after job ∧
        ((previous.state = .stopped ∧ HungUp job.pgid displacing) ∨ displaced.Stops after) := by
  intro job hjob stopped
  obtain ⟨split, displaces, later⟩ := h.course.displaced job hjob
  refine ⟨_, _, _, _, _, split, displaces, later, ?_⟩
  refine (later.stopped stopped).imp_left fun before => ?_
  rw [later.pgid_eq]
  exact displaces.hungUp before

/-! The line `/a | /a &`, then `/a &`, which takes its place, then an empty line, at which the first
job is found stopped. -/

namespace Sample

/-- The first job is running still; another is put into its place. -/
def replacing : List Event := [
  ⟨.wait 7 .collect, .ok .stillAlive⟩, ⟨.wait 8 .collect, .ok .stillAlive⟩,
  ⟨.environment "PATH", none⟩, ⟨.metadata (Text.toBytes "/a"), .ok ⟨.regular, 0o755, 0⟩⟩,
  ⟨.fork ⟨program, none, none, none⟩, .ok 9⟩, ⟨.setGroup 9 9, .ok ()⟩,
  ⟨.say (.launched 9), ()⟩, ⟨.log (.displaced 7), ()⟩]

def findingStopped : List Event := [
  ⟨.wait 7 .collect, .ok (.stopped .stop)⟩, ⟨.wait 8 .collect, .ok (.stopped .stop)⟩,
  ⟨.wait 9 .collect, .ok .stillAlive⟩]

/-- The second job is in the background, and the first is disowned. -/
def replaced (status : WaitStatus) (last : Option WaitStatus) : Shell where
  terminal := .detached 1
  jobs :=
    { background := some ⟨9, [⟨9, .stillAlive⟩], false, none⟩
      disowned := [⟨7, [⟨7, status⟩, ⟨8, status⟩], false, last⟩] }

theorem run_replacing : (Line.execute (shellWith [⟨7, .stillAlive⟩, ⟨8, .stillAlive⟩])
    ["/a", "&"] 1).Run replacing (replaced .stillAlive none, .background 9) :=
  .ask (.ask (.ask (.ask (.ask (.ask (.ask (.ask (.done _))))))))

theorem run_findingStopped : (Line.execute (replaced .stillAlive none) [] 1).Run findingStopped
    (replaced (.stopped .stop) (some (.stopped .stop)), .empty) :=
  .ask (.ask (.ask (.done _)))

theorem session_replacing : Session (.detached 1) [launching, replacing, findingStopped]
    (replaced (.stopped .stop) (some (.stopped .stop))) :=
  .line (.line (.line .fresh run_launching) run_replacing) run_findingStopped

/-- No signal is sent. -/
theorem unsignalled : ∀ e ∈ [launching, replacing, findingStopped].flatten,
    ∀ group signal, e.call ≠ .signalGroup group signal := by
  simp [launching, replacing, findingStopped]

end Sample

/-- The stop is recorded after the job has lost its place. -/
theorem stopped_after_replacing : ∃ before displacing after displaced,
    [Sample.launching, Sample.replacing, Sample.findingStopped].flatten =
      before ++ (displacing ++ after) ∧ Job.Stops displaced after := by
  obtain ⟨before, displacing, after, _, displaced, split, -, -, decided⟩ :=
    stopped_since_displaced Sample.session_replacing _ (List.mem_singleton_self _) rfl
  refine ⟨before, displacing, after, displaced, split, decided.resolve_left ?_⟩
  rintro ⟨-, hungUp⟩
  obtain ⟨e, he, hcall⟩ := hungUp.exists_signal
  have mem : e ∈ before ++ (displacing ++ after) :=
    List.mem_append_right _ (List.mem_append_left _ he)
  exact Sample.unsignalled e (split ▸ mem) _ _ hcall

/-- **A job whose stop is recorded after it has lost its place stays stopped, and is sent no signal
at all.** -/
theorem stopped_without_hang_up : ∃ lines shell, Session (.detached 1) lines shell ∧
    ∃ job ∈ shell.jobs.disowned, job.state = .stopped ∧
      ∀ e ∈ lines.flatten, ∀ group signal, e.call ≠ .signalGroup group signal :=
  ⟨_, _, Sample.session_replacing, _, List.mem_singleton_self _, rfl, Sample.unsignalled⟩

end JobControl
