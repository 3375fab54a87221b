import JobControl.Proofs.Responses

/-!
# What polling the jobs brings

Before each line the shell polls the jobs that are not in the foreground: first the disowned ones,
then the one in the background.  Each member that has not ended is asked about once, and none is
waited for.  A job that is done after that leaves the table, and the others keep their order.

## Main definitions

* `Job.polling job response` — the events of polling a job, one member after the other.
* `Job.polled job response` — the job after it was polled.
* `JobTable.Reaped t responses response events after change` — what polling makes of a table.
* `Uneventful events` — every wait is answered with nothing to report.

## Main results

* `Polled.responds` — some jobs are polled with some responses for each of them.
* `Polled.idle` — jobs of which there is nothing to report stay as they are.
* `reaped_as_answered` — **what collecting asks, records, keeps and tells; and that it changes
  nothing when there is nothing to report.**
-/

namespace JobControl

open Inquiry (Response)
open JobControl.Action (run_bind_iff run_bind_pure_iff)

variable {job after : Job} {t t' : JobTable} {response : Pid → Response}
  {responses : List (Pid → Response)} {events : List Event} {rounds : Nat} {jobs kept : List Job}

/-! ### One job -/

namespace Job

/-- The members that have not ended, in order. -/
def pending (job : Job) : List Member :=
  job.members.filter fun member => member.status.state ≠ .done

/-- The events of polling a job: each member that has not ended is asked about once, in order,
without waiting; an interrupted wait is made again, and a failure is noted. -/
def polling (job : Job) (response : Pid → Response) : List Event :=
  job.pending.flatMap fun member =>
    (response member.pid).waits member.pid .collect ++
      ((response member.pid).failure? member.pid).toList.map fun failure =>
        ⟨.log (.forgotten failure), ()⟩

/-- The job after it was polled.  A member that has not ended keeps its status if there is nothing
to report, is dropped if it cannot be waited for, and has the status that was answered otherwise. -/
def polled (job : Job) (response : Pid → Response) : Job :=
  { job with
    members := job.members.filterMap fun member =>
      if member.status.state = .done then some member
      else (response member.pid).status?.map fun status =>
        if status = .stillAlive then member else { member with status }
    lastStatus := (job.pending.filterMap fun member =>
      (response member.pid).status?.filter (· ≠ .stillAlive)).getLast? <|> job.lastStatus }

theorem answered_polling : job.answered .polling response = job.polled response := by
  have members_eq : ∀ member ∈ job.members, Inquiry.polling.survivor? response member =
      if member.status.state = .done then some member
      else (response member.pid).status?.map fun status =>
        if status = .stillAlive then member else { member with status } := by
    intro member _
    simp only [Inquiry.survivor?, Inquiry.left?, Inquiry.polling, decide_eq_true_eq, ite_not]
  rw [answered, polled, List.filterMap_congr members_eq]
  rfl

theorem responds_of_poll (h : (job.poll rounds).Run events after) (distinct : job.pids.Nodup) :
    ∃ response, events = job.polling response ∧ after = job.polled response := by
  obtain ⟨found, hsurvey, rfl⟩ := run_poll h
  obtain ⟨response, rfl, rfl⟩ := hsurvey.responds distinct
  exact ⟨response, rfl, (record_findings distinct).trans answered_polling⟩

theorem run_polled (distinct : job.pids.Nodup)
    (fast : ∀ pid, (response pid).interruptions < rounds) :
    (job.poll rounds).Run (job.polling response) (job.polled response) := by
  have run : (Inquiry.polling.survey job.members rounds).Run
      (Inquiry.polling.transcript response job.members)
      (Inquiry.polling.findings response job.members) :=
    Inquiry.run_survey fun member _ => fast member.pid
  refine run_bind_pure_iff.mpr ⟨_, run, ?_⟩
  rw [record_findings distinct, answered_polling]

end Job

/-! ### Some jobs -/

/-- **Some jobs are polled with some responses for each of them.** -/
theorem Polled.responds (h : Polled rounds jobs events kept)
    (distinct : ∀ job ∈ jobs, job.pids.Nodup) :
    ∃ responses : List (Pid → Response), responses.length = jobs.length ∧
      events = (List.zipWith Job.polling jobs responses).flatten ∧
      kept = (List.zipWith Job.polled jobs responses).filter (·.state ≠ .done) := by
  induction h with
  | nil => exact ⟨[], rfl, rfl, rfl⟩
  | ended run hdone _ ih =>
    obtain ⟨first, others⟩ := List.forall_mem_cons.mp distinct
    obtain ⟨response, rfl, rfl⟩ := Job.responds_of_poll run first
    obtain ⟨responses, length_eq, rfl, rfl⟩ := ih others
    refine ⟨response :: responses, congrArg (· + 1) length_eq, rfl, ?_⟩
    rw [List.zipWith_cons_cons, List.filter_cons_of_neg (by simpa using hdone)]
  | going run halive _ ih =>
    obtain ⟨first, others⟩ := List.forall_mem_cons.mp distinct
    obtain ⟨response, rfl, rfl⟩ := Job.responds_of_poll run first
    obtain ⟨responses, length_eq, rfl, rfl⟩ := ih others
    refine ⟨response :: responses, congrArg (· + 1) length_eq, rfl, ?_⟩
    rw [List.zipWith_cons_cons, List.filter_cons_of_pos (by simpa using halive)]

theorem run_pollAll_responses (length_eq : responses.length = jobs.length)
    (distinct : ∀ job ∈ jobs, job.pids.Nodup)
    (fast : ∀ response ∈ responses, ∀ pid, (response pid).interruptions < rounds) :
    (JobTable.pollAll jobs rounds).Run (List.zipWith Job.polling jobs responses).flatten
      ((List.zipWith Job.polled jobs responses).filter (·.state ≠ .done)) := by
  induction jobs generalizing responses with
  | nil => exact .done _
  | cons job jobs ih =>
    cases responses with
    | nil => cases length_eq
    | cons response responses =>
      obtain ⟨first, others⟩ := List.forall_mem_cons.mp distinct
      obtain ⟨hresponse, fast⟩ := List.forall_mem_cons.mp fast
      have run := ih (Nat.succ.inj length_eq) others fast
      refine run_bind_iff.mpr ⟨_, _, _, List.flatten_cons, Job.run_polled first hresponse, ?_⟩
      refine run_bind_pure_iff.mpr ⟨_, run, ?_⟩
      rw [List.zipWith_cons_cons, List.filter_cons]
      by_cases hdone : (job.polled response).state = .done <;> simp [hdone]

/-- No job that is kept is done. -/
theorem Polled.alive (h : Polled rounds jobs events kept) : ∀ job ∈ kept, job.state ≠ .done := by
  induction h with
  | nil => exact List.forall_mem_nil _
  | ended _ _ _ ih => exact ih
  | going _ halive _ ih => exact List.forall_mem_cons.mpr ⟨halive, ih⟩

/-! ### Nothing to report -/

/-- Every wait is answered with nothing to report, unless it is interrupted. -/
def Uneventful (events : List Event) : Prop :=
  ∀ pid flags answer, ⟨.wait pid flags, answer⟩ ∈ events →
    answer = .ok .stillAlive ∨ answer = .error .eintr

theorem Uneventful.of_append {more : List Event} (h : Uneventful (events ++ more)) :
    Uneventful events ∧ Uneventful more :=
  ⟨fun pid flags answer he => h pid flags answer (List.mem_append_left _ he),
    fun pid flags answer he => h pid flags answer (List.mem_append_right _ he)⟩

theorem Uneventful.of_cons {e : Event} (h : Uneventful (e :: events)) : Uneventful events :=
  fun pid flags answer he => h pid flags answer (List.mem_cons_of_mem _ he)

/-- An inquiry that is told nothing new finds the members as they were. -/
theorem Inquiry.Surveyed.uneventful {members : List Member} {found : Findings}
    (h : Inquiry.polling.Surveyed members events found) (uneventful : Uneventful events) :
    found = { members } := by
  induction h with
  | nil => rfl
  | passed _ _ ih => rw [ih uneventful]
  | interrupted _ _ ih => exact ih uneventful.of_cons
  | unchanged _ _ _ ih => rw [ih uneventful.of_cons]
  | recorded _ counts _ _ =>
    rcases uneventful _ _ _ List.mem_cons_self with answered | answered
    · cases answered
      cases counts
    · cases answered
  | failed _ uninterrupted _ _ =>
    rcases uneventful _ _ _ List.mem_cons_self with answered | answered
    · cases answered
    · exact absurd (Except.error.inj answered) uninterrupted

/-- A job of which there is nothing to report stays as it is. -/
theorem Job.eq_of_uneventful (h : (job.poll rounds).Run events after)
    (uneventful : Uneventful events) : after = job := by
  obtain ⟨found, hsurvey, rfl⟩ := run_poll h
  rw [hsurvey.uneventful uneventful]
  have kept : Findings.kept { members := job.members } = job.members :=
    List.filter_eq_self.mpr fun _ _ => rfl
  rw [record, kept]
  rfl

/-- **Jobs of which there is nothing to report stay as they are.** -/
theorem Polled.idle (h : Polled rounds jobs events kept) (uneventful : Uneventful events)
    (alive : ∀ job ∈ jobs, job.state ≠ .done) : kept = jobs := by
  induction h with
  | nil => rfl
  | ended run hdone _ _ =>
    obtain rfl := Job.eq_of_uneventful run uneventful.of_append.1
    exact absurd hdone (alive _ List.mem_cons_self)
  | going run _ _ ih =>
    obtain rfl := Job.eq_of_uneventful run uneventful.of_append.1
    rw [ih uneventful.of_append.2 (List.forall_mem_cons.mp alive).2]

/-! ### The table -/

/-- What polling makes of a table, given what the system answers about the members of each disowned
job and of the job in the background. -/
structure JobTable.Reaped (t : JobTable) (responses : List (Pid → Response))
    (response : Pid → Response) (events : List Event) (after : JobTable)
    (change : Option (Pid × State)) : Prop where
  length_eq : responses.length = t.disowned.length
  /-- The disowned jobs are polled in order, and then the job in the background; that it is done is
  logged.  There is no other request. -/
  events_eq : events = (List.zipWith Job.polling t.disowned responses).flatten ++
    t.background.elim [] fun job => job.polling response ++
      if (job.polled response).state = .done then [⟨.log (.finished job.pgid), ()⟩] else []
  /-- The disowned jobs that are not done are kept. -/
  disowned_eq : after.disowned =
    (List.zipWith Job.polled t.disowned responses).filter (·.state ≠ .done)
  /-- So is the job in the background. -/
  background_eq : after.background =
    (t.background.map (·.polled response)).filter (·.state ≠ .done)
  foreground_eq : after.foreground = t.foreground
  /-- Its state is told if it has changed. -/
  change_eq : change = t.background.bind fun job =>
    if job.state = (job.polled response).state then none
    else some (job.pgid, (job.polled response).state)

/-- **What collecting what is to be reported comes to.** -/
theorem JobTable.Collected.reaped {change : Option (Pid × State)}
    (h : t.Collected rounds events t' change) (distinct : ∀ job ∈ t.rear, job.pids.Nodup) :
    ∃ responses response, t.Reaped responses response events t' change := by
  obtain ⟨hdisowned, hbackground⟩ := List.forall_mem_append.mp distinct
  cases h with
  | idle none polled =>
    obtain ⟨responses, length_eq, rfl, rfl⟩ := polled.responds hdisowned
    refine ⟨responses, fun _ => ⟨0, .ok .stillAlive, nofun⟩, length_eq, ?_, rfl, none.trans ?_, rfl,
      ?_⟩
    · rw [none, Option.elim_none, List.append_nil]
    · rw [none]
      rfl
    · rw [none]
      rfl
  | ended there polled hpoll hdone =>
    obtain ⟨responses, length_eq, rfl, rfl⟩ := polled.responds hdisowned
    obtain ⟨response, rfl, rfl⟩ := Job.responds_of_poll hpoll (hbackground _ (by simp [there]))
    refine ⟨responses, response, length_eq, ?_, rfl, ?_, rfl, ?_⟩
    · rw [there, Option.elim_some, if_pos hdone]
      rfl
    · rw [there, Option.map_some, Option.filter_some_neg (by simpa using hdone)]
    · rw [there]
      rfl
  | going there polled hpoll halive =>
    obtain ⟨responses, length_eq, rfl, rfl⟩ := polled.responds hdisowned
    obtain ⟨response, rfl, rfl⟩ := Job.responds_of_poll hpoll (hbackground _ (by simp [there]))
    refine ⟨responses, response, length_eq, ?_, rfl, ?_, rfl, ?_⟩
    · rw [there, Option.elim_some, if_neg halive, List.append_nil]
    · rw [there, Option.map_some, Option.filter_some_pos (by simpa using halive)]
    · rw [there]
      rfl

/-- For all responses it is collected what they report. -/
theorem JobTable.exists_reaped (length_eq : responses.length = t.disowned.length)
    (distinct : ∀ job ∈ t.rear, job.pids.Nodup)
    (fast : ∀ r ∈ response :: responses, ∀ pid, (r pid).interruptions < rounds) :
    ∃ events after change, (t.reapBackground rounds).Run events (after, change) ∧
      t.Reaped responses response events after change := by
  obtain ⟨hresponse, hresponses⟩ := List.forall_mem_cons.mp fast
  obtain ⟨hdisowned, hbackground⟩ := List.forall_mem_append.mp distinct
  have polls := run_pollAll_responses length_eq hdisowned hresponses
  obtain ⟨foreground, background, disowned⟩ := t
  cases background with
  | none =>
    refine ⟨_, _, _, run_bind_iff.mpr ⟨_, [], _, rfl, polls, .done _⟩, ?_⟩
    exact ⟨length_eq, rfl, rfl, rfl, rfl, rfl⟩
  | some job =>
    have poll := Job.run_polled (hbackground job (by simp)) hresponse
    by_cases hdone : (job.polled response).state = .done
    · have run : (JobTable.reapBackground ⟨foreground, some job, disowned⟩ rounds).Run
          ((List.zipWith Job.polling disowned responses).flatten ++
            (job.polling response ++ [⟨.log (.finished job.pgid), ()⟩])) _ :=
        run_bind_iff.mpr ⟨_, _, _, rfl, polls, run_bind_iff.mpr ⟨_, _, _, rfl, poll, by
          rw [if_pos hdone]
          exact .ask (.done _)⟩⟩
      refine ⟨_, _, _, run, length_eq, ?_, rfl, ?_, rfl, rfl⟩
      · rw [Option.elim_some, if_pos hdone]
      · rw [Option.map_some, Option.filter_some_neg (by simpa using hdone)]
    · have run : (JobTable.reapBackground ⟨foreground, some job, disowned⟩ rounds).Run
          ((List.zipWith Job.polling disowned responses).flatten ++
            (job.polling response ++ [])) _ :=
        run_bind_iff.mpr ⟨_, _, _, rfl, polls, run_bind_iff.mpr ⟨_, _, _, rfl, poll, by
          rw [if_neg hdone]
          exact .done _⟩⟩
      refine ⟨_, _, _, run, length_eq, ?_, rfl, ?_, rfl, rfl⟩
      · rw [Option.elim_some, if_neg hdone]
      · rw [Option.map_some, Option.filter_some_pos (by simpa using hdone)]

/-- No job that is kept is done. -/
theorem JobTable.Collected.alive {change : Option (Pid × State)}
    (h : t.Collected rounds events t' change) : ∀ job ∈ t'.rear, job.state ≠ .done := by
  obtain ⟨-, polling, logging, -, -, polled⟩ := h.polled
  exact polled.alive

/-- **When there is nothing to report, nothing changes and nothing is told.** -/
theorem JobTable.Collected.idle_of_uneventful {change : Option (Pid × State)}
    (h : t.Collected rounds events t' change) (uneventful : Uneventful events)
    (alive : ∀ job ∈ t.rear, job.state ≠ .done) : t' = t ∧ change = none := by
  obtain ⟨hdisowned, hbackground⟩ := List.forall_mem_append.mp alive
  cases h with
  | idle none polled => exact ⟨by rw [polled.idle uneventful hdisowned], rfl⟩
  | @ended _ _ _ job after there polled hpoll hdone =>
    obtain rfl := Job.eq_of_uneventful hpoll uneventful.of_append.2.of_append.1
    exact absurd hdone (hbackground _ (by simp [there]))
  | @going _ _ _ job after there polled hpoll _ =>
    obtain rfl := Job.eq_of_uneventful hpoll uneventful.of_append.2
    refine ⟨?_, if_pos rfl⟩
    rw [polled.idle uneventful.of_append.1 hdisowned, ← there]

/-- **Collecting what is to be reported, whatever the system answers; and a second time, when there
is nothing to report.** -/
theorem reaped_as_answered :
    (∀ (t after : JobTable) rounds events change, (∀ job ∈ t.rear, job.pids.Nodup) →
      (t.reapBackground rounds).Run events (after, change) →
      ∃ responses response, t.Reaped responses response events after change) ∧
    (∀ (t : JobTable) responses response rounds, (∀ job ∈ t.rear, job.pids.Nodup) →
      responses.length = t.disowned.length →
      (∀ r ∈ response :: responses, ∀ pid, (r pid).interruptions < rounds) →
      ∃ events after change, (t.reapBackground rounds).Run events (after, change) ∧
        t.Reaped responses response events after change) ∧
    ∀ (t after again : JobTable) rounds rounds' events events' change change',
      (t.reapBackground rounds).Run events (after, change) →
      (after.reapBackground rounds').Run events' (again, change') → Uneventful events' →
      again = after ∧ change' = none := by
  refine ⟨fun t after rounds events change distinct run => ?_,
    fun t responses response rounds distinct length_eq fast => ?_,
    fun t after again rounds rounds' events events' change change' run run' uneventful => ?_⟩
  · exact (collected_of_reapTable run).reaped distinct
  · exact JobTable.exists_reaped length_eq distinct fast
  · have alive := (collected_of_reapTable run).alive
    exact (collected_of_reapTable run').idle_of_uneventful uneventful alive

namespace Sample

/-- Two disowned jobs, one of which has a process that stopped, and a job in the background. -/
def crowd : JobTable where
  background := some ⟨9, [⟨9, .stopped .tstp⟩, ⟨10, .stillAlive⟩], false, none⟩
  disowned := [⟨5, [⟨5, .stillAlive⟩, ⟨6, .exited 0⟩], false, none⟩,
    ⟨3, [⟨3, .stopped .stop⟩], false, none⟩]

/-- The first of the disowned jobs ends; of the job in the background, one process cannot be waited
for and the other one ends. -/
def thinning : List Event := [
  ⟨.wait 5 .collect, .ok (.exited 0)⟩, ⟨.wait 3 .collect, .ok .stillAlive⟩,
  ⟨.wait 9 .collect, .error .echild⟩, ⟨.log (.forgotten ⟨9, .echild⟩), ()⟩,
  ⟨.wait 10 .collect, .error .eintr⟩, ⟨.wait 10 .collect, .ok (.exited 4)⟩,
  ⟨.log (.finished 9), ()⟩]

def thinned : JobTable where
  disowned := [⟨3, [⟨3, .stopped .stop⟩], false, none⟩]

theorem run_thinning : (crowd.reapBackground 2).Run thinning (thinned, some (9, .done)) :=
  .ask (.ask (.ask (.ask (.ask (.ask (.ask (.done _)))))))

theorem run_resting : (thinned.reapBackground 1).Run [⟨.wait 3 .collect, .ok .stillAlive⟩]
    (thinned, none) := .ask (.done _)

/-- Each process has ended. -/
def ended (_ : Pid) : Inquiry.Response := ⟨0, .ok (.exited 0), nofun⟩

end Sample

/-- A job that has ended leaves the table, and a stopped one is not taken for a running one. -/
theorem thinned_as_answered :
    (∃ responses response, Sample.crowd.Reaped responses response Sample.thinning Sample.thinned
      (some (9, .done))) ∧
    (∃ events after, (Sample.crowd.reapBackground 1).Run events (after, some (9, .done)) ∧
      after.disowned = [] ∧ after.background = none) ∧
    ∃ again change, (Sample.thinned.reapBackground 1).Run
      [⟨.wait 3 .collect, .ok .stillAlive⟩] (again, change) ∧
      again = Sample.thinned ∧ change = none := by
  refine ⟨reaped_as_answered.1 _ _ _ _ _ (by decide) Sample.run_thinning, ?_, ?_⟩
  · obtain ⟨events, after, change, run, reaped⟩ :=
      reaped_as_answered.2.1 Sample.crowd [Sample.ended, Sample.ended] Sample.ended 1 (by decide)
        rfl (by simp [Sample.ended])
    obtain rfl : change = some (9, .done) := reaped.change_eq
    exact ⟨events, after, run, reaped.disowned_eq, reaped.background_eq⟩
  · have uneventful : Uneventful [⟨.wait 3 .collect, .ok .stillAlive⟩] := by
      intro pid flags answer answered
      cases List.mem_singleton.mp answered
      exact .inl rfl
    exact ⟨_, _, Sample.run_resting, reaped_as_answered.2.2 _ _ _ _ _ _ _ _ _
      Sample.run_thinning Sample.run_resting uneventful⟩

end JobControl
