import JobControl.Proofs.Displacing
import JobControl.Proofs.Resuming
import JobControl.Proofs.Turns

/-!
# Where a job goes from the foreground

A job is waited for in the foreground until none of its members is running, as long as the system
answers with ends and stops alone.  Members that cannot be waited for are dropped.  So the job that
remains is done or stopped; in the first case no other job is touched, and in the second it moves to
the background, where another may lose its place.

## Main definitions

* `Action.Finishes A a` — as long as the answers satisfy `A`, the action ends.
* `Event.Uninterrupted e` — the event is not an interrupted wait.
* `lost events` — the processes that could not be waited for.
* `Job.Remains job events after` — what remains of a job that was waited for.
* `JobTable.GivesWay t events disowned` — how the background is left to another job.

## Main results

* `finishes_waitForeground` — a wait in the foreground ends, unless signals interrupt its waits
  again and again.
* `Inquiry.Surveyed.lost_eq`, `Job.remains_record` — which members remain after an inquiry.
* `JobTable.Takes.givesWay` — a job that is disowned is hung up if it is recorded as stopped, and
  only then.
* `foreground_left` — **where the job in the foreground goes, and what becomes of the others.**
-/

namespace JobControl

open JobTable

/-! ### Coming to an end -/

/-- As long as the answers satisfy `A`, the action ends, if there is at least one round. -/
def Action.Finishes (A : Event → Prop) {α : Type} (a : Action α) : Prop :=
  ∀ rounds, Dialogue.EndsIn A (fun _ => True) (a (rounds + 1))

namespace Action

variable {A : Event → Prop} {α β : Type}

theorem Finishes.pure (a : α) : Finishes A (Pure.pure a : Action α) := fun _ => .done trivial

theorem Finishes.bind {x : Action α} {f : α → Action β} (hx : Finishes A x)
    (hf : ∀ a, Finishes A (f a)) : Finishes A (x >>= f) :=
  fun rounds => (hx rounds).bind fun a _ => hf a rounds

theorem Finishes.ask (c : Call) : Finishes A (ask c) := fun _ => .ask fun _ _ => .done trivial

end Action

/-- The event is not a wait that a signal interrupts. -/
def Event.Uninterrupted (e : Event) : Prop :=
  ∀ pid flags, e ≠ ⟨.wait pid flags, .error .eintr⟩

section Finishing

variable {A : Event → Prop}

theorem finishes_waitFor (pid : Pid) (flags : WaitFlags) :
    (Inquiry.waitFor pid flags).Finishes Event.Uninterrupted := by
  refine fun rounds => .ask fun answer uninterrupted => ?_
  cases answer with
  | ok status => exact .done trivial
  | error e =>
    have other : e ≠ .eintr := by
      rintro rfl
      exact uninterrupted pid flags rfl
    show Dialogue.EndsIn _ _
      ((if e = .eintr then Inquiry.waitRounds pid flags rounds else pure (.error e)) (rounds + 1))
    rw [if_neg other]
    exact .done trivial

/-- An inquiry ends, as there are only so many members. -/
theorem finishes_survey (q : Inquiry) :
    ∀ members, (q.survey members).Finishes Event.Uninterrupted
  | [] => .pure _
  | member :: rest => by
    unfold Inquiry.survey
    split
    · refine .bind (finishes_waitFor _ _) fun answer => ?_
      cases answer with
      | ok status =>
        refine .bind (finishes_survey q rest) fun found => ?_
        split <;> exact .pure _
      | error e =>
        exact .bind (.ask _) fun _ => .bind (finishes_survey q rest) fun _ => .pure _
    · exact .bind (finishes_survey q rest) fun _ => .pure _

theorem finishes_wait (job : Job) : job.wait.Finishes Event.Uninterrupted := by
  refine .bind (finishes_survey _ _) fun found => ?_
  dsimp only
  split <;> exact .pure _

theorem finishes_resume (job : Job) : job.resume.Finishes A := by
  refine .bind (.ask _) fun answer => ?_
  cases answer with
  | ok _ => exact .bind (.ask _) fun _ => .pure _
  | error e => exact .pure _

theorem finishes_displace (job : Job) : (JobTable.displace job).Finishes A := by
  refine .bind (.ask _) fun _ => ?_
  split
  · refine .bind (.bind (.ask _) fun told => ?_) fun result => ?_
    · cases told with
      | ok _ => exact finishes_resume job
      | error e => exact .pure _
    · cases result with
      | ok job => exact .pure _
      | error e => exact .bind (.ask _) fun _ => .pure _
  · exact .pure _

theorem finishes_setBackground (t : JobTable) (job : Job) : (t.setBackground job).Finishes A := by
  simp only [JobTable.setBackground]
  split
  · exact .pure _
  · exact .bind (finishes_displace _) fun _ => .pure _

theorem finishes_leaveForeground (t : JobTable) : t.leaveForeground.Finishes A := by
  unfold JobTable.leaveForeground
  split
  · exact .pure _
  · dsimp only
    split
    · exact .bind (.ask _) fun _ => .pure _
    · exact .bind (.ask _) fun _ => finishes_setBackground _ _

/-- **A wait in the foreground ends, unless a signal interrupts it.** -/
theorem finishes_waitForeground (t : JobTable) (job : Job) :
    (t.waitForeground job).Finishes Event.Uninterrupted := by
  refine .bind (.bind (finishes_wait _) fun waited => ?_) fun t' =>
    .bind (finishes_leaveForeground _) fun _ => .pure _
  obtain ⟨after, result⟩ := waited
  cases result with
  | ok _ => exact .pure _
  | error failure => exact .bind (.ask _) fun _ => .pure _

end Finishing

/-! ### Members that remain -/

/-- The process that an event shows cannot be waited for. -/
def Event.lostPid? : Event → Option Pid
  | ⟨.wait pid _, .error errno⟩ => if errno = .eintr then none else some pid
  | _ => none

/-- The processes that could not be waited for, in order. -/
def lost (events : List Event) : List Pid := events.filterMap Event.lostPid?

variable {t t' : JobTable} {job job' after : Job} {rounds : Nat} {events more : List Event}

theorem lost_append : lost (events ++ more) = lost events ++ lost more := List.filterMap_append

/-- **The failures of an inquiry are the processes that could not be waited for.** -/
theorem Inquiry.Surveyed.lost_eq {q : Inquiry} {members : List Member} {found : Findings}
    (h : q.Surveyed members events found) : lost events = found.failures.map (·.pid) := by
  induction h with
  | nil => rfl
  | passed _ _ ih | interrupted _ _ ih | recorded _ _ _ ih | unchanged _ _ _ ih => exact ih
  | failed _ uninterrupted _ ih =>
    simp only [lost, List.filterMap_cons, Event.lostPid?, if_neg uninterrupted] at ih ⊢
    rw [ih, List.map_cons]

theorem Complains.lost_eq (h : Complains events) : lost events = [] := by
  refine List.filterMap_eq_nil_iff.mpr fun e he => ?_
  obtain ⟨failure, hsay⟩ := h e he
  obtain ⟨call, answer⟩ := e
  obtain rfl : call = .say (.waitFailed failure) := hsay
  rfl

theorem JobTable.Takes.lost_eq (h : t.Takes job rounds events t') : lost events = [] := by
  cases h with
  | free _ => rfl
  | displacing _ hdisplace => cases displaces_of_run hdisplace <;> rfl

/-- What remains of a job that was waited for: the members that could be waited for or did not have
to be, each as it was or as the answer to a wait reports it. -/
structure Job.Remains (job : Job) (events : List Event) (after : Job) : Prop where
  pgid_eq : after.pgid = job.pgid
  pids_eq : after.pids = job.pids.filter fun pid => pid ∉ lost events
  mem_or_answered : ∀ member ∈ after.members, member ∈ job.members ∨
    ⟨.wait member.pid .untilStopped, .ok member.status⟩ ∈ events

/-- **What is recorded of a job is what remains of it.** -/
theorem Job.remains_record {found : Findings}
    (h : Inquiry.blocking.Surveyed job.members events found) :
    job.Remains events (job.record found) where
  pgid_eq := rfl
  pids_eq := by
    rw [h.lost_eq]
    show found.kept.map (·.pid) = (job.members.map (·.pid)).filter _
    rw [← h.pids_eq, List.filter_map, Findings.kept]
    refine congrArg (List.map _) (List.filter_congr fun member _ => ?_)
    rw [← List.elem_eq_contains, List.elem_eq_mem, ← decide_not]
    rfl
  mem_or_answered member hmember := h.mem_or_answered member (List.mem_filter.mp hmember).1

theorem Job.Remains.append (h : job.Remains events after) (none : lost more = []) :
    job.Remains (events ++ more) after where
  pgid_eq := h.pgid_eq
  pids_eq := by rw [lost_append, none, List.append_nil, h.pids_eq]
  mem_or_answered member hmember :=
    (h.mem_or_answered member hmember).imp_right (List.mem_append_left more)

/-! ### Jobs that give way -/

/-- The job that is in the background gives way to another, if there is one: it is disowned, and
hung up if it is stopped.  No other signal is sent. -/
inductive JobTable.GivesWay (t : JobTable) (events : List Event) (disowned : List Job) : Prop
  | free : t.background = none → Unsignalled events → disowned = t.disowned →
      GivesWay t events disowned
  | unstopped {previous : Job} : t.background = some previous → previous.state ≠ .stopped →
      Unsignalled events → disowned = t.disowned ++ [previous] → GivesWay t events disowned
  | stopped {previous displaced : Job} {before displacing : List Event} :
      t.background = some previous → previous.state = .stopped →
      events = before ++ displacing → Unsignalled before →
      previous.Displaces displacing displaced → HungUp previous.pgid events →
      disowned = t.disowned ++ [displaced] → GivesWay t events disowned

/-- **A job that takes the place of another hangs it up if and only if that one is stopped.** -/
theorem JobTable.Takes.givesWay (h : t.Takes job rounds more t') (quiet : Unsignalled events) :
    t.GivesWay (events ++ more) t'.disowned := by
  cases h with
  | free none => exact .free none (by simpa using quiet) rfl
  | @displacing previous displaced _ there hdisplace =>
    have displaces := displaces_of_run hdisplace
    by_cases stopped : previous.state = .stopped
    · have hungUp := (displaces.hungUp_of_stopped stopped).behind events
      exact .stopped there stopped rfl quiet displaces hungUp rfl
    · cases displaces with
      | unstopped _ => exact .unstopped there stopped (by simp [quiet]) rfl
      | untold before | unmoved before | moved before => exact absurd before stopped

/-- **The job that is waited for in the foreground leaves it, done or stopped; a wait that is never
interrupted comes to that end.  If it is done, the other jobs are as they were and no signal is
sent.  If it is stopped, it takes the place in the background.** -/
theorem foreground_left :
    (∀ t job, (JobTable.waitForeground t job).Finishes Event.Uninterrupted) ∧
    ∀ t job rounds events t' outcome,
      (JobTable.waitForeground t job rounds).Run events (t', outcome) →
      t.foreground = none → Patient events →
      ∃ after, job.Remains events after ∧ outcome = after.outcome ∧
        (∀ member ∈ after.members, member.status.state ≠ .running) ∧ t'.foreground = none ∧
        ((outcome.state = .done ∧ t'.background = t.background ∧ t'.disowned = t.disowned ∧
            Unsignalled events) ∨
          (outcome.state = .stopped ∧ t'.background = some { after with foreground := false } ∧
            t.GivesWay events t'.disowned)) := by
  refine ⟨finishes_waitForeground, fun t job rounds events t' outcome run free patient => ?_⟩
  have unmoved : { t with foreground := none } = t := by rw [← free]
  cases waited_of_waitForeground run with
  | @ended asked spoken found surveyed complains hdone =>
    have silent : lost (spoken ++ [⟨.log (.finished job.pgid), ()⟩]) = [] := by
      rw [lost_append, complains.lost_eq]
      rfl
    have remains := (Job.remains_record surveyed).append silent
    refine ⟨_, remains, rfl, fun member hmember => ?_, rfl, .inl ⟨hdone, rfl, rfl, ?_⟩⟩
    · rw [Job.state_eq_done_iff.mp hdone member hmember]
      nofun
    · simp [surveyed.unsignalled, complains.unsignalled]
  | @moved asked spoken placing found _ surveyed complains halive takes =>
    rw [unmoved] at takes
    have silent : lost (spoken ++ ⟨.log (.movedToBackground job.pgid), ()⟩ :: placing) = [] := by
      rw [lost_append, complains.lost_eq]
      exact takes.lost_eq
    have remains := (Job.remains_record surveyed).append silent
    have stopped := surveyed.stopped_of_alive patient.of_append.1 halive
    have quiet : Unsignalled (asked ++ (spoken ++ [⟨.log (.movedToBackground job.pgid), ()⟩])) := by
      simp [surveyed.unsignalled, complains.unsignalled]
    refine ⟨_, remains, rfl, fun member hmember running => ?_, ?_,
      .inr ⟨stopped, takes.background_eq, ?_⟩⟩
    · cases stopped.symm.trans (Job.state_eq_running_iff.mpr ⟨member, hmember, running⟩)
    · cases takes <;> exact free
    · have gives := takes.givesWay quiet
      simp only [List.append_assoc, List.singleton_append] at gives
      exact gives

namespace Sample

/-- Of three processes in the foreground, one cannot be waited for, one stops, and one has ended; a
job that is stopped in the background makes room. -/
def crowding : List Event := [
  ⟨.wait 7 .untilStopped, .error .echild⟩, ⟨.log (.waitFailed ⟨7, .echild⟩), ()⟩,
  ⟨.wait 8 .untilStopped, .error .eintr⟩, ⟨.wait 8 .untilStopped, .ok (.stopped .tstp)⟩,
  ⟨.say (.waitFailed ⟨7, .echild⟩), ()⟩, ⟨.log (.movedToBackground 7), ()⟩,
  ⟨.log (.displaced 5), ()⟩, ⟨.signalGroup 5 .hup, .ok ()⟩, ⟨.signalGroup 5 .cont, .ok ()⟩,
  ⟨.log (.continued 5), ()⟩]

def waiting : Job := ⟨5, [⟨5, .stopped .tstp⟩], false, some (.stopped .tstp)⟩

def earlier : Job := ⟨3, [⟨3, .stillAlive⟩], false, none⟩

def joined : Job := ⟨7, [⟨7, .stillAlive⟩, ⟨8, .stillAlive⟩, ⟨9, .exited 0⟩], true, none⟩

def parted : Job := ⟨7, [⟨8, .stopped .tstp⟩, ⟨9, .exited 0⟩], false, some (.stopped .tstp)⟩

theorem run_crowding : (JobTable.waitForeground ⟨none, some waiting, [earlier]⟩ joined 2).Run
    crowding (⟨none, some parted, [earlier, waiting.resumed]⟩, parted.outcome) :=
  .ask (.ask (.ask (.ask (.ask (.ask (.ask (.ask (.ask (.ask (.done _))))))))))

end Sample

/-- What remains of the job takes the place of another, which is hung up. -/
theorem stopped_job_gives_way : Patient Sample.crowding ∧
    (∃ after, Sample.joined.Remains Sample.crowding after ∧
      (∀ member ∈ after.members, member.status.state ≠ .running) ∧
      some Sample.parted = some { after with foreground := false }) ∧
    HungUp 5 Sample.crowding := by
  have patient : Patient Sample.crowding := by
    intro pid flags status answered
    simp [Sample.crowding] at answered
    obtain ⟨-, -, rfl⟩ := answered
    nofun
  obtain ⟨after, remains, -, resting, -, ended | ⟨-, placed, gives⟩⟩ :=
    foreground_left.2 _ _ _ _ _ _ Sample.run_crowding rfl patient
  · cases ended.1
  refine ⟨patient, ⟨after, remains, resting, placed⟩, ?_⟩
  cases gives with
  | free none => cases none
  | unstopped there running =>
    obtain rfl := Option.some.inj there
    exact absurd rfl running
  | stopped there _ _ _ _ hungUp =>
    obtain rfl := Option.some.inj there
    exact hungUp

end JobControl
