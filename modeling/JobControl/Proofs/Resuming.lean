import JobControl.Proofs.ExitStatus

/-!
# Letting the background job go on

The job in the background goes on as a whole, by one signal to its group.  Where it is, it is let go
on only if it counts as stopped: a member is recorded as stopped and none as running.  It is always
let go on when it is brought to the foreground, once it has the terminal; if the system refuses the
signal then, the terminal is taken back and the job has the place that it had.

## Main definitions

* `Dialogue.EndsIn A Q d`, `Action.EndsWith A value a` — as long as the answers satisfy `A`, a
  dialogue ends with a value that satisfies `Q`, and an action with this value.
* `Event.Refuses group signal errno e` — the event refuses a signal, if it is one to the group.
* `Unsignalled events` — no signal is sent.

## Main results

* `Course.background_rests` — the background job of a shell is not done, and one of its members is
  stopped if none is running.
* `stopped_members_go_on` — **a background job without a running member goes on with all members,
  and one with a running member is left alone.**
* `stopped_beside_running` — in the second case a stopped member stays stopped.
* `refused_job_stays` — **a job that cannot be brought to the foreground stays in the background as
  it was, and the terminal comes back.**
-/

namespace JobControl

open JobTable

/-! ### Ending with a value -/

/-- As long as the answers satisfy `A`, the dialogue ends with a value that satisfies `Q`. -/
inductive Dialogue.EndsIn (A : Event → Prop) {α : Type} (Q : α → Prop) : Dialogue α → Prop
  | done {value : α} : Q value → EndsIn A Q (.done value)
  | ask {c : Call} {next : c.Answer → Dialogue α} :
      (∀ answer, A ⟨c, answer⟩ → EndsIn A Q (next answer)) → EndsIn A Q (.ask c next)

theorem Dialogue.EndsIn.bind {A : Event → Prop} {α β : Type} {P : α → Prop} {Q : β → Prop}
    {d : Dialogue α} {f : α → Dialogue β} (hd : EndsIn A P d)
    (hf : ∀ a, P a → EndsIn A Q (f a)) : EndsIn A Q (d >>= f) := by
  induction hd with
  | done h => exact hf _ h
  | ask _ ih => exact .ask ih

/-- As long as the answers satisfy `A`, the action ends with this value, whatever the number of
rounds. -/
def Action.EndsWith (A : Event → Prop) {α : Type} (value : α) (a : Action α) : Prop :=
  ∀ rounds, Dialogue.EndsIn A (· = value) (a rounds)

namespace Action

variable {A : Event → Prop} {α β : Type}

theorem EndsWith.pure (a : α) : EndsWith A a (Pure.pure a : Action α) := fun _ => .done rfl

theorem EndsWith.bind {x : Action α} {f : α → Action β} {a : α} {b : β} (hx : EndsWith A a x)
    (hf : EndsWith A b (f a)) : EndsWith A b (x >>= f) := by
  refine fun rounds => (hx rounds).bind ?_
  rintro _ rfl
  exact hf rounds

/-- What follows a request has to end the same way for each answer. -/
theorem EndsWith.ask_bind {c : Call} {f : c.Answer → Action β} {b : β}
    (hf : ∀ answer, A ⟨c, answer⟩ → EndsWith A b (f answer)) : EndsWith A b (ask c >>= f) :=
  fun rounds => .ask fun answer h => hf answer h rounds

end Action

/-- The event refuses a signal to a group, unless it is about something else. -/
def Event.Refuses (group : Pid) (signal : Signal) (errno : Errno) (e : Event) : Prop :=
  ∀ answer, e = ⟨.signalGroup group signal, answer⟩ → answer = .error errno

section Ending

variable {A : Event → Prop} {terminal : Terminal}

theorem endsWith_log (entry : LogEntry) : (Action.log entry).EndsWith A () :=
  fun _ => .ask fun _ _ => .done rfl

/-- Lending the terminal comes to an end, whether or not it is refused. -/
theorem endsWith_handTo (group : Pid) : (terminal.handTo group).EndsWith A () := by
  unfold Terminal.handTo
  split
  · refine .ask_bind fun answer _ => ?_
    cases answer with
    | ok _ => exact .pure _
    | error e => exact endsWith_log _
  · exact .pure _

theorem endsWith_reclaim : terminal.reclaim.EndsWith A () := by
  refine .bind (endsWith_handTo _) ?_
  split
  · refine .ask_bind fun answer _ => ?_
    cases answer with
    | ok _ => exact .pure _
    | error e => exact endsWith_log _
  · exact .pure _

theorem endsWith_resume (job : Job) (e : Errno) :
    job.resume.EndsWith (Event.Refuses job.pgid .cont e) (.error e) := by
  refine .ask_bind fun answer refuses => ?_
  obtain rfl : answer = .error e := refuses answer rfl
  exact .pure _

end Ending

/-! ### Where no signal is sent -/

/-- No signal is sent. -/
def Unsignalled (events : List Event) : Prop :=
  ∀ e ∈ events, ∀ group signal, e.call ≠ .signalGroup group signal

variable {terminal : Terminal} {shell shell' : Shell} {t t' : JobTable} {job : Job} {rounds : Nat}
  {events more history : List Event}

@[simp] theorem unsignalled_nil : Unsignalled [] := List.forall_mem_nil _

@[simp] theorem unsignalled_append :
    Unsignalled (events ++ more) ↔ Unsignalled events ∧ Unsignalled more := List.forall_mem_append

@[simp] theorem unsignalled_cons {e : Event} : Unsignalled (e :: events) ↔
    (∀ group signal, e.call ≠ .signalGroup group signal) ∧ Unsignalled events :=
  List.forall_mem_cons

/-- Where one signal is sent, there is one answer. -/
theorem Unsignalled.answer_eq {group : Pid} {signal : Signal} {answer answer' : Except Errno Unit}
    (before : Unsignalled events) (after : Unsignalled more)
    (h : ⟨.signalGroup group signal, answer⟩ ∈
      events ++ ⟨.signalGroup group signal, answer'⟩ :: more) : answer = answer' := by
  rcases List.mem_append.mp h with there | there
  · exact absurd rfl (before _ there _ _)
  rcases List.mem_cons.mp there with same | there
  · cases same
    rfl
  · exact absurd rfl (after _ there _ _)

theorem unsignalled_handTo {group : Pid} {value : Unit}
    (h : (terminal.handTo group rounds).Run events value) : Unsignalled events :=
  (only_handTo (fun _ => nofun) fun _ => nofun :
    (terminal.handTo group).Only fun c => ∀ group signal, c ≠ .signalGroup group signal).of_run h

theorem unsignalled_reclaim {value : Unit} (h : (terminal.reclaim rounds).Run events value) :
    Unsignalled events :=
  (only_reclaim (fun _ => nofun) (fun _ => nofun) fun _ => nofun :
    terminal.reclaim.Only fun c => ∀ group signal, c ≠ .signalGroup group signal).of_run h

/-- An inquiry sends no signal. -/
theorem Inquiry.Surveyed.unsignalled {q : Inquiry} {members : List Member} {found : Findings}
    (h : q.Surveyed members events found) : Unsignalled events := by
  intro e he group signal hcall
  rcases h.asks e he with ⟨entry, hlog⟩ | ⟨member, -, -, hwait⟩
  · cases hcall.symm.trans hlog
  · cases hcall.symm.trans hwait

theorem Complains.unsignalled (h : Complains events) : Unsignalled events := by
  intro e he group signal hcall
  obtain ⟨failure, hsay⟩ := h e he
  cases hcall.symm.trans hsay

theorem unsignalled_announcement (outcome : Outcome) : Unsignalled outcome.announcement := by
  unfold Outcome.announcement
  split <;> simp

/-- A wait in the foreground sends no signal if no job can lose its place. -/
theorem JobTable.Waited.unsignalled {outcome : Outcome}
    (h : t.Waited job rounds events t' outcome) (free : t.background = none) :
    Unsignalled events := by
  cases h with
  | ended surveyed complains _ =>
    simp [surveyed.unsignalled, complains.unsignalled]
  | moved surveyed complains _ takes =>
    cases takes with
    | free _ => simp [surveyed.unsignalled, complains.unsignalled]
    | displacing there _ => cases free.symm.trans there

theorem unsignalled_waitAndReclaim {outcome : Outcome} (free : shell.jobs.background = none)
    (h : (shell.waitAndReclaim job rounds).Run events (shell', outcome)) : Unsignalled events := by
  obtain ⟨waiting, back, jobs, rfl, rfl, hwait, hreclaim⟩ := waited_of_run h
  simp [(waited_of_waitForeground hwait).unsignalled free, unsignalled_reclaim hreclaim,
    unsignalled_announcement]

/-! ### Members that go on -/

/-- The background job of a shell is not done, and is not marked as the foreground job. -/
theorem Course.background_rests (h : Course terminal history shell)
    (hjob : shell.jobs.background = some job) : Rests job := (h.settled.take hjob).2.2

/-- When a job goes on, no member is stopped any more. -/
theorem Job.ne_stopped_of_resumed :
    ∀ member ∈ job.resumed.members, member.status.state ≠ .stopped := by
  refine List.forall_mem_map.mpr fun member _ => ?_
  split
  · nofun
  · assumption

/-- A member that was not stopped is as it was. -/
theorem Job.mem_resumed {member : Member} (h : member ∈ job.members)
    (other : member.status.state ≠ .stopped) : member ∈ job.resumed.members :=
  List.mem_map.mpr ⟨member, h, if_neg other⟩

/-- A job that is not done has a stopped member if none is running. -/
theorem Job.exists_stopped (alive : job.state ≠ .done)
    (idle : ∀ member ∈ job.members, member.status.state ≠ .running) :
    ∃ member ∈ job.members, member.status.state = .stopped := by
  obtain ⟨member, hmember, unfinished⟩ := Job.state_ne_done_iff.mp alive
  refine ⟨member, hmember, ?_⟩
  cases hstate : member.status.state with
  | running => exact absurd hstate (idle member hmember)
  | stopped => rfl
  | done => exact absurd hstate unfinished

/-- Such a job counts as stopped. -/
theorem Job.state_eq_stopped (alive : job.state ≠ .done)
    (idle : ∀ member ∈ job.members, member.status.state ≠ .running) : job.state = .stopped := by
  cases hstate : job.state with
  | running =>
    obtain ⟨member, hmember, running⟩ := Job.state_eq_running_iff.mp hstate
    exact absurd running (idle member hmember)
  | stopped => rfl
  | done => exact absurd hstate alive

/-- A job with a running member counts as running, so there is nothing to do. -/
theorem resumeBackground_of_running (hjob : shell.jobs.background = some job)
    (running : ∃ member ∈ job.members, member.status.state = .running) :
    shell.resumeBackground rounds = .done (shell, .ok (some job.pgid)) := by
  have counts : job.state ≠ .stopped := by
    rw [Job.state_eq_running_iff.mpr running]
    nofun
  simp only [Shell.resumeBackground, hjob, if_pos counts]
  rfl

/-- **A background job none of whose members is running is let go on where it is, and no member is
stopped after that; one with a running member counts as running and is left alone, which succeeds
without a single request.  If the signal is refused, nothing changes.** -/
theorem stopped_members_go_on (reached : Course terminal history shell)
    (hjob : shell.jobs.background = some job) :
    ((∃ member ∈ job.members, member.status.state = .running) → ∀ rounds,
      (shell.resumeBackground rounds).Run [] (shell, .ok (some job.pgid)) ∧
      ∀ events shell' result, (shell.resumeBackground rounds).Run events (shell', result) →
        result = .ok (some job.pgid) ∧ events = [] ∧ shell' = shell) ∧
    ∀ rounds events shell' result, (shell.resumeBackground rounds).Run events (shell', result) →
      (∀ answer, result = .ok answer → answer = some job.pgid ∧
        ((∀ member ∈ job.members, member.status.state ≠ .running) →
          (∃ member ∈ job.members, member.status.state = .stopped) ∧
          ⟨.signalGroup job.pgid .cont, .ok ()⟩ ∈ events ∧ ∃ job',
            shell' = { shell with jobs := { shell.jobs with background := some job' } } ∧
            job'.pgid = job.pgid ∧ job'.pids = job.pids ∧
            (∀ member ∈ job'.members, member.status.state ≠ .stopped) ∧
            ∀ member ∈ job.members, member.status.state ≠ .stopped → member ∈ job'.members)) ∧
      ∀ e, result = .error e → shell' = shell := by
  constructor
  · intro running rounds
    rw [resumeBackground_of_running hjob running]
    refine ⟨.done _, fun events shell' result run => ?_⟩
    obtain ⟨rfl, heq⟩ := Dialogue.run_done_iff.mp run
    cases heq
    exact ⟨rfl, rfl, rfl⟩
  intro rounds events shell' result run
  obtain ⟨alive, -⟩ := reached.background_rests hjob
  cases backgrounded_of_run run with
  | noJob none => cases none.symm.trans hjob
  | running there notStopped =>
    obtain rfl := Option.some.inj (hjob.symm.trans there)
    refine ⟨fun answer h => ⟨(Except.ok.inj h).symm, fun idle => ?_⟩, nofun⟩
    -- the job was left alone because it does not count as stopped
    exact absurd (Job.state_eq_stopped alive idle) notStopped
  | refused _ _ _ => exact ⟨nofun, fun _ _ => rfl⟩
  | resumed there stopped hresume =>
    obtain rfl := Option.some.inj (hjob.symm.trans there)
    obtain rfl := eq_resumed_of_run hresume
    refine ⟨fun answer h => ⟨(Except.ok.inj h).symm, fun idle => ⟨Job.exists_stopped alive idle, ?_,
      job.resumed, rfl, rfl, job.pids_resumed, Job.ne_stopped_of_resumed,
      fun _ => Job.mem_resumed⟩⟩, nofun⟩
    rcases run_resume hresume with ⟨e, failed, -⟩ | ⟨-, rfl⟩
    · cases failed
    · exact List.mem_cons_self

namespace Sample

/-- The events of a stopped job going on in the background. -/
def continuing : List Event := [
  ⟨.signalGroup 7 .cont, .ok ()⟩, ⟨.log (.continued 7), ()⟩, ⟨.say (.changed 7 .running), ()⟩]

theorem run_continuing : ((detached { background := some halved }).resumeBackground 2).Run
    continuing (detached { background := some halved.resumed }, .ok (some 7)) :=
  .ask (.ask (.ask (.done _)))

/-- The first of two stages has stopped, and the second is running. -/
def pausing : List Event := [
  ⟨.wait 7 .collect, .ok (.stopped .stop)⟩, ⟨.wait 8 .collect, .ok .stillAlive⟩]

def mixed : Job := ⟨7, [⟨7, .stopped .stop⟩, ⟨8, .stillAlive⟩], false, some (.stopped .stop)⟩

theorem run_pausing : (Line.execute (shellWith [⟨7, .stillAlive⟩, ⟨8, .stillAlive⟩]) [] 2).Run
    pausing (detached { background := some mixed }, .empty) :=
  .ask (.ask (.done _))

theorem session_pausing : Session (.detached 1) [launching, pausing]
    (detached { background := some mixed }) :=
  .line (.line .fresh run_launching) run_pausing

end Sample

/-- Where one stage is stopped and the other has ended, the first goes on; where the other is
running, both are left alone. -/
theorem stopped_stage_goes_on :
    ((∃ member ∈ Sample.halved.members, member.status.state = .stopped) ∧
      ⟨.signalGroup 7 .cont, .ok ()⟩ ∈ Sample.continuing ∧ ∃ job',
        Sample.detached { background := some Sample.halved.resumed } =
          Sample.detached { background := some job' } ∧
        ∀ member ∈ job'.members, member.status.state ≠ .stopped) ∧
      ((Sample.detached { background := some Sample.mixed }).resumeBackground 2).Run []
        (Sample.detached { background := some Sample.mixed }, .ok (some 7)) := by
  obtain ⟨-, runs⟩ := stopped_members_go_on Sample.session_parting.course rfl
  obtain ⟨succeeds, -⟩ := runs _ _ _ _ Sample.run_continuing
  obtain ⟨-, idle⟩ := succeeds _ rfl
  obtain ⟨stopped, sent, job', same, -, -, going, -⟩ := idle (by decide)
  obtain ⟨beside, -⟩ := stopped_members_go_on Sample.session_pausing.course rfl
  exact ⟨⟨stopped, sent, job', same, going⟩, (beside (by decide) 2).1⟩

/-- **A member that is stopped beside a running one is not let go on, and no signal is sent: the
operation succeeds without doing anything.** -/
theorem stopped_beside_running :
    Session (.detached 1) [Sample.launching, Sample.pausing]
        (Sample.detached { background := some Sample.mixed }) ∧
      ((Sample.detached { background := some Sample.mixed }).resumeBackground 2).Run []
        (Sample.detached { background := some Sample.mixed }, .ok (some 7)) ∧
      ∃ member ∈ Sample.mixed.members, member.status.state = .stopped :=
  ⟨Sample.session_pausing, .done _, _, List.mem_cons_self, rfl⟩

/-! ### A job that cannot be brought to the foreground -/

/-- The background job may be put where it was taken from. -/
theorem Course.put_back (h : Course terminal history shell)
    (hjob : shell.jobs.background = some job) :
    { shell with jobs := { shell.jobs with background := some { job with foreground := false } } } =
      shell := by
  obtain ⟨-, unmarked⟩ := h.background_rests hjob
  obtain ⟨owner, foreground, background, disowned⟩ := shell
  obtain ⟨pgid, members, marked, last⟩ := job
  obtain rfl : marked = false := unmarked
  obtain rfl : background = _ := hjob
  rfl

/-- If its group cannot be let go on, bringing a job to the foreground comes to an end, with the
error and with the shell as it was. -/
theorem endsWith_resumeForeground (reached : Course terminal history shell)
    (hjob : shell.jobs.background = some job) (e : Errno) :
    shell.resumeForeground.EndsWith (Event.Refuses job.pgid .cont e) (shell, .error e) := by
  simp only [Shell.resumeForeground, hjob]
  refine .bind (endsWith_handTo _) (.bind (endsWith_resume job e) (.bind endsWith_reclaim ?_))
  have back := reached.put_back hjob
  have placed : ∀ result : Shell, result = shell →
      Action.EndsWith (Event.Refuses job.pgid .cont e) (shell, .error e)
        (pure (result, .error e) : Action (Shell × Except Errno (Option Outcome))) := by
    rintro _ rfl
    exact .pure _
  exact placed _ back

/-- **If its group cannot be let go on, the job that is brought to the foreground stays in the
background, and nothing at all has changed; no other signal was sent, and a terminal that was lent
to the job has come back.** -/
theorem refused_job_stays (reached : Course terminal history shell)
    (hjob : shell.jobs.background = some job) (e : Errno) :
    shell.resumeForeground.EndsWith (Event.Refuses job.pgid .cont e) (shell, .error e) ∧
    ∀ rounds events shell' result, (shell.resumeForeground rounds).Run events (shell', result) →
      ⟨.signalGroup job.pgid .cont, .error e⟩ ∈ events →
      result = .error e ∧ shell' = shell ∧ shell'.jobs.foreground = none ∧
      (∃ lending back, events = lending ++ ⟨.signalGroup job.pgid .cont, .error e⟩ :: back ∧
        Unsignalled lending ∧ Unsignalled back ∧
        shell.terminal.Lends job.pgid lending ∧ shell.terminal.Reclaims back) ∧
      ∀ own modes, shell.terminal = .owned own modes → AlwaysReclaims own events →
        ∀ owner, ownerAfter owner events = own := by
  refine ⟨endsWith_resumeForeground reached hjob e, ?_⟩
  intro rounds events shell' result run refused
  obtain ⟨-, idle | ⟨lent, -, loan⟩⟩ := loan_of_resumeForeground run
  · rw [idle] at refused
    cases refused
  cases foregrounded_of_run run with
  | noJob none => cases none.symm.trans hjob
  | @refused _ lending resuming back placing errno jobs there hhand hresume hreclaim hplace =>
    obtain rfl := Option.some.inj (hjob.symm.trans there)
    have quiet := unsignalled_handTo hhand
    have quiet' := unsignalled_reclaim hreclaim
    cases takes_of_run hplace with
    | displacing taken _ => cases taken
    | free _ =>
      rcases run_resume hresume with ⟨errno', failed, rfl⟩ | ⟨succeeded, -⟩
      · obtain rfl := Except.error.inj failed
        rw [List.append_nil] at refused
        obtain rfl := Except.error.inj (quiet.answer_eq quiet' refused)
        refine ⟨rfl, reached.put_back hjob, reached.settled.free, ⟨lending, back, ?_, quiet, quiet',
          lends_of_run hhand, reclaims_of_run hreclaim⟩, fun own modes owned reclaims owner => ?_⟩
        · rw [List.append_nil]
          rfl
        · rw [owned] at loan
          exact loan.ownerAfter_eq reclaims
      · cases succeeded
  | waited there hhand hresume hwait =>
    obtain rfl := Option.some.inj (hjob.symm.trans there)
    have quiet := unsignalled_handTo hhand
    have quiet' := unsignalled_waitAndReclaim rfl hwait
    rcases run_resume hresume with ⟨errno, failed, -⟩ | ⟨-, rfl⟩
    · cases failed
    · cases quiet.answer_eq (by simp [quiet']) refused

namespace Sample

/-- The terminal is lent to group 7, which cannot go on. -/
def returning : List Event := [
  ⟨.setTerminalGroup 7, .ok ()⟩, ⟨.signalGroup 7 .cont, .error .eperm⟩,
  ⟨.setTerminalGroup 1, .ok ()⟩, ⟨.setModes .initial, .ok ()⟩]

theorem run_returning : ((onTerminal stopped).resumeForeground 2).Run returning
    (onTerminal stopped, .error .eperm) :=
  .ask (.ask (.ask (.ask (.done _))))

theorem session_suspending : Session (.owned 1 (some .initial)) [suspending] (onTerminal stopped) :=
  .line .fresh run_suspending

end Sample

/-- The shell owns the terminal after a job could not be brought to the foreground. -/
theorem terminal_back_after_error :
    (Sample.onTerminal Sample.stopped).resumeForeground.EndsWith (Event.Refuses 7 .cont .eperm)
        (Sample.onTerminal Sample.stopped, .error .eperm) ∧
      ownerAfter 1 Sample.returning = 1 := by
  obtain ⟨ends, stays⟩ := refused_job_stays Sample.session_suspending.course rfl .eperm
  obtain ⟨-, -, -, -, back⟩ := stays _ _ _ _ Sample.run_returning (by simp [Sample.returning])
  refine ⟨ends, back 1 (some .initial) rfl (fun answer h => ?_) 1⟩
  simpa [Sample.returning] using h

end JobControl
