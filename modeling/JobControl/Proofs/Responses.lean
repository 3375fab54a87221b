import Mathlib.Logic.Function.Basic
import JobControl.Proofs.Session

/-!
# What an inquiry makes of the answers

The processes of a job are different from each other.  So what the system answers to an inquiry is a
response for each of them: it may interrupt some waits, and then it gives an answer.  Whichever the
responses are, each member that is due is asked about once; one that cannot be waited for is
dropped, the others take what they are answered, and nothing depends on which of them ended first.

## Main definitions

* `Inquiry.Response` — what the system answers to the waits for a process.
* `Inquiry.transcript q response members` — the events of an inquiry, one member after the other.
* `Inquiry.survivor? q response member` — what an inquiry leaves of a member.
* `Job.answered job q response` — what an inquiry leaves of a job.
* `Job.Awaited job response events after result` — how a job is waited for without a limit.

## Main results

* `Inquiry.Surveyed.responds` — every inquiry about different processes is one with some responses.
* `Inquiry.run_survey` — for all responses there is an inquiry.
* `waited_as_answered` — **what waiting for a job asks, records and drops, and how it ends.**
-/

namespace JobControl

open JobControl.Action (run_pair_iff run_bind_iff run_bind_pure_iff run_ask_bind_iff)

namespace Inquiry

/-- What the system answers to the waits for a process: it interrupts some of them, and answers the
next one. -/
structure Response where
  interruptions : Nat
  answer : Except Errno WaitStatus
  settled : answer ≠ .error .eintr

namespace Response

/-- The status that is answered, if the process can be waited for. -/
def status? (r : Response) : Option WaitStatus := r.answer.toOption

/-- The failure, if the process cannot be waited for. -/
def failure? (r : Response) (pid : Pid) : Option WaitFailure :=
  match r.answer with
  | .ok _ => none
  | .error errno => some ⟨pid, errno⟩

/-- The waits for a process, up to the one that is answered. -/
def waits (r : Response) (pid : Pid) (flags : WaitFlags) : List Event :=
  List.replicate r.interruptions ⟨.wait pid flags, .error .eintr⟩ ++ [⟨.wait pid flags, r.answer⟩]

theorem pid_of_failure? {r : Response} {pid : Pid} {failure : WaitFailure}
    (h : r.failure? pid = some failure) : failure.pid = pid := by
  unfold failure? at h
  split at h
  · cases h
  · cases h
    rfl

/-- A process that cannot be waited for has no status. -/
theorem isSome_failure?_iff {r : Response} {pid : Pid} :
    (r.failure? pid).isSome ↔ r.status? = none := by
  unfold status? failure?
  cases r.answer <;> simp [Except.toOption]

end Response

section Findings

variable (q : Inquiry)

/-- The members that are asked about. -/
def due (members : List Member) : List Member :=
  members.filter fun member => q.isDue member.status.state

/-- The events of asking about a process.  That it cannot be waited for is logged. -/
def exchange (r : Response) (pid : Pid) : List Event :=
  r.waits pid q.flags ++ (r.failure? pid).toList.map fun failure => ⟨.log (q.entry failure), ()⟩

/-- What a response leaves of a member. -/
def left? (r : Response) (member : Member) : Option Member :=
  r.status?.map fun status => if q.counts status then { member with status } else member

/-- What is found with a response about one more member. -/
def noted (r : Response) (member : Member) (found : Findings) : Findings where
  members := (q.left? r member).getD member :: found.members
  reports := (r.status?.filter (q.counts ·)).toList ++ found.reports
  failures := (r.failure? member.pid).toList ++ found.failures

variable (response : Pid → Response)

/-- The events of an inquiry: each member that is due is asked about once, in order. -/
def transcript (members : List Member) : List Event :=
  (q.due members).flatMap fun member => q.exchange (response member.pid) member.pid

/-- What an inquiry leaves of a member: nothing, if it cannot be waited for. -/
def survivor? (member : Member) : Option Member :=
  if q.isDue member.status.state then q.left? (response member.pid) member else some member

/-- What an inquiry brings. -/
def findings (members : List Member) : Findings where
  members := members.map fun member => (q.survivor? response member).getD member
  reports := (q.due members).filterMap fun member =>
    (response member.pid).status?.filter (q.counts ·)
  failures := (q.due members).filterMap fun member => (response member.pid).failure? member.pid

end Findings

variable {q : Inquiry} {response response' : Pid → Response} {r : Response} {member : Member}
  {members rest : List Member} {events : List Event} {found : Findings} {rounds : Nat}

/-! ### One member after the other -/

theorem noted_recorded {status : WaitStatus} (hr : r.answer = .ok status)
    (counts : q.counts status = true) :
    q.noted r member found = { found with
      members := { member with status } :: found.members
      reports := status :: found.reports } := by
  simp [noted, left?, Response.status?, Response.failure?, hr, Except.toOption, Option.filter,
    counts]

theorem noted_unchanged {status : WaitStatus} (hr : r.answer = .ok status)
    (ignored : q.counts status = false) :
    q.noted r member found = { found with members := member :: found.members } := by
  simp [noted, left?, Response.status?, Response.failure?, hr, Except.toOption, Option.filter,
    ignored]

theorem noted_failed {errno : Errno} (hr : r.answer = .error errno) :
    q.noted r member found = { found with
      members := member :: found.members
      failures := ⟨member.pid, errno⟩ :: found.failures } := by
  simp [noted, left?, Response.status?, Response.failure?, hr, Except.toOption]

theorem due_cons_of_due (h : q.isDue member.status.state = true) :
    q.due (member :: rest) = member :: q.due rest := List.filter_cons_of_pos h

theorem due_cons_of_passed (h : q.isDue member.status.state = false) :
    q.due (member :: rest) = q.due rest := List.filter_cons_of_neg (Bool.not_eq_true _ ▸ h)

theorem transcript_cons_of_due (h : q.isDue member.status.state = true) :
    q.transcript response (member :: rest) =
      q.exchange (response member.pid) member.pid ++ q.transcript response rest := by
  rw [transcript, due_cons_of_due h, List.flatMap_cons]
  rfl

theorem transcript_cons_of_passed (h : q.isDue member.status.state = false) :
    q.transcript response (member :: rest) = q.transcript response rest := by
  rw [transcript, due_cons_of_passed h]
  rfl

theorem findings_cons_of_due (h : q.isDue member.status.state = true) :
    q.findings response (member :: rest) =
      q.noted (response member.pid) member (q.findings response rest) := by
  have first : ∀ {α : Type} (f : Member → Option α),
      (q.due (member :: rest)).filterMap f = (f member).toList ++ (q.due rest).filterMap f := by
    intro α f
    rw [due_cons_of_due h, List.filterMap_cons]
    cases f member <;> rfl
  simp only [findings, noted, survivor?, first, List.map_cons, h, if_true]

theorem findings_cons_of_passed (h : q.isDue member.status.state = false) :
    q.findings response (member :: rest) =
      { q.findings response rest with
        members := member :: (q.findings response rest).members } := by
  simp only [findings, survivor?, due_cons_of_passed h, List.map_cons, h, Bool.false_eq_true,
    if_false, Option.getD_some]

/-- Only the responses of the members matter. -/
theorem transcript_congr
    (same : ∀ member ∈ members, response' member.pid = response member.pid) :
    q.transcript response' members = q.transcript response members := by
  refine List.flatMap_congr fun member hmember => ?_
  rw [same member (List.mem_filter.mp hmember).1]

theorem findings_congr
    (same : ∀ member ∈ members, response' member.pid = response member.pid) :
    q.findings response' members = q.findings response members := by
  have each : ∀ member ∈ q.due members, response' member.pid = response member.pid :=
    fun member hmember => same member (List.mem_filter.mp hmember).1
  simp only [findings, Findings.mk.injEq]
  refine ⟨List.map_congr_left fun member hmember => ?_,
    List.filterMap_congr fun member hmember => ?_,
    List.filterMap_congr fun member hmember => ?_⟩
  · rw [survivor?, survivor?, same member hmember]
  · rw [each member hmember]
  · rw [each member hmember]

/-- A response for one more process. -/
theorem responds_cons (response : Pid → Response) (r : Response)
    (due : q.isDue member.status.state = true) (new : member.pid ∉ rest.map (·.pid)) :
    ∃ response', q.transcript response' (member :: rest) =
        q.exchange r member.pid ++ q.transcript response rest ∧
      q.findings response' (member :: rest) = q.noted r member (q.findings response rest) := by
  have others : ∀ other ∈ rest,
      Function.update response member.pid r other.pid = response other.pid := by
    intro other hother
    refine Function.update_of_ne (fun same => new ?_) _ _
    exact same ▸ List.mem_map_of_mem hother
  refine ⟨Function.update response member.pid r, ?_, ?_⟩
  · rw [transcript_cons_of_due due, transcript_congr others, Function.update_self]
  · rw [findings_cons_of_due due, findings_congr others, Function.update_self]

/-- **Every inquiry about different processes is one with some responses.** -/
theorem Surveyed.responds (h : q.Surveyed members events found)
    (distinct : (members.map (·.pid)).Nodup) :
    ∃ response, q.transcript response members = events ∧ q.findings response members = found := by
  induction h with
  | nil => exact ⟨fun _ => ⟨0, .ok .stillAlive, nofun⟩, rfl, rfl⟩
  | passed passed _ ih =>
    obtain ⟨-, distinct⟩ := List.nodup_cons.mp distinct
    obtain ⟨response, rfl, rfl⟩ := ih distinct
    exact ⟨response, transcript_cons_of_passed passed, findings_cons_of_passed passed⟩
  | @interrupted member rest _ _ due _ ih =>
    obtain ⟨new, -⟩ := List.nodup_cons.mp distinct
    obtain ⟨response, rfl, rfl⟩ := ih distinct
    -- the same response after one more interruption
    rcases hr : response member.pid with ⟨interruptions, answer, settled⟩
    obtain ⟨response', events_eq, findings_eq⟩ :=
      responds_cons response ⟨interruptions + 1, answer, settled⟩ due new
    refine ⟨response', ?_, ?_⟩
    · rw [events_eq, transcript_cons_of_due due, hr]
      rfl
    · rw [findings_eq, findings_cons_of_due due, hr]
      rfl
  | @recorded member rest _ _ status due counts _ ih =>
    obtain ⟨new, distinct⟩ := List.nodup_cons.mp distinct
    obtain ⟨response, rfl, rfl⟩ := ih distinct
    obtain ⟨response', events_eq, findings_eq⟩ :=
      responds_cons response ⟨0, .ok status, nofun⟩ due new
    exact ⟨response', events_eq, findings_eq.trans (noted_recorded rfl counts)⟩
  | @unchanged member rest _ _ status due ignored _ ih =>
    obtain ⟨new, distinct⟩ := List.nodup_cons.mp distinct
    obtain ⟨response, rfl, rfl⟩ := ih distinct
    obtain ⟨response', events_eq, findings_eq⟩ :=
      responds_cons response ⟨0, .ok status, nofun⟩ due new
    exact ⟨response', events_eq, findings_eq.trans (noted_unchanged rfl ignored)⟩
  | @failed member rest _ _ errno due uninterrupted _ ih =>
    obtain ⟨new, distinct⟩ := List.nodup_cons.mp distinct
    obtain ⟨response, rfl, rfl⟩ := ih distinct
    have settled : (.error errno : Except Errno WaitStatus) ≠ .error .eintr :=
      fun same => uninterrupted (Except.error.inj same)
    obtain ⟨response', events_eq, findings_eq⟩ :=
      responds_cons response ⟨0, .error errno, settled⟩ due new
    exact ⟨response', events_eq, findings_eq.trans (noted_failed rfl)⟩

/-! ### All responses -/

theorem run_waitFor_waits {pid : Pid} {flags : WaitFlags} (fast : r.interruptions < rounds) :
    (waitFor pid flags rounds).Run (r.waits pid flags) r.answer := by
  have run : ∀ k n, k < n → (waitRounds pid flags n rounds).Run
      (List.replicate k ⟨.wait pid flags, .error .eintr⟩ ++ [⟨.wait pid flags, r.answer⟩])
      r.answer := by
    intro k n hn
    induction k generalizing n with
    | zero =>
      obtain ⟨n, rfl⟩ := Nat.exists_eq_succ_of_ne_zero (Nat.ne_of_gt hn)
      refine run_ask_bind_iff.mpr ⟨r.answer, [], rfl, ?_⟩
      have settled := r.settled
      cases hanswer : r.answer with
      | ok status => exact .done _
      | error e =>
        dsimp only
        rw [if_neg fun same => settled (by rw [hanswer, same])]
        exact .done _
    | succ k ih =>
      obtain ⟨n, rfl⟩ := Nat.exists_eq_succ_of_ne_zero (Nat.ne_of_gt (Nat.zero_lt_of_lt hn))
      exact .ask (ih n (Nat.lt_of_succ_lt_succ hn))
  exact run r.interruptions rounds fast

/-- **For all responses there is an inquiry.** -/
theorem run_survey (fast : ∀ member ∈ q.due members, (response member.pid).interruptions < rounds) :
    (q.survey members rounds).Run (q.transcript response members)
      (q.findings response members) := by
  induction members with
  | nil => exact .done _
  | cons member rest ih =>
    rw [survey]
    cases due : q.isDue member.status.state with
    | false =>
      rw [due_cons_of_passed due] at fast
      rw [transcript_cons_of_passed due, findings_cons_of_passed due]
      exact run_bind_pure_iff.mpr ⟨_, ih fast, rfl⟩
    | true =>
      rw [due_cons_of_due due] at fast
      obtain ⟨first, others⟩ := List.forall_mem_cons.mp fast
      have rest_run := ih others
      rw [transcript_cons_of_due due, findings_cons_of_due due, if_pos rfl]
      generalize q.transcript response rest = later at rest_run
      generalize q.findings response rest = found at rest_run
      generalize response member.pid = r at first ⊢
      have asked : (waitFor member.pid q.flags rounds).Run (r.waits member.pid q.flags) r.answer :=
        run_waitFor_waits first
      obtain ⟨interruptions, answer, settled⟩ := r
      rw [exchange, List.append_assoc]
      refine run_bind_iff.mpr ⟨_, _, _, rfl, asked, ?_⟩
      cases answer with
      | ok status =>
        refine run_bind_iff.mpr ⟨later, [], found, (List.append_nil _).symm, rest_run, ?_⟩
        by_cases counts : q.counts status = true
        · rw [noted_recorded rfl counts, if_pos counts]
          exact .done _
        · rw [noted_unchanged rfl (Bool.not_eq_true _ ▸ counts), if_neg counts]
          exact .done _
      | error errno =>
        rw [noted_failed rfl]
        refine run_ask_bind_iff.mpr ⟨(), later, rfl, ?_⟩
        exact run_bind_pure_iff.mpr ⟨found, rest_run, rfl⟩

/-! ### What is left of a job -/

theorem pid_left? {left : Member} (h : q.left? r member = some left) : left.pid = member.pid := by
  obtain ⟨status, -, rfl⟩ := Option.map_eq_some_iff.mp h
  split <;> rfl

theorem pid_survivor? {left : Member} (h : q.survivor? response member = some left) :
    left.pid = member.pid := by
  rw [survivor?] at h
  split at h
  · exact pid_left? h
  · rw [Option.some.inj h]

/-- Of different processes, those that cannot be waited for are the ones that are noted. -/
theorem mem_failures_iff (distinct : (members.map (·.pid)).Nodup) (hmember : member ∈ members) :
    member.pid ∈ (q.findings response members).failures.map (·.pid) ↔
      q.survivor? response member = none := by
  have one : ∀ other ∈ members, other.pid = member.pid → other = member :=
    fun other hother same => List.inj_on_of_nodup_map distinct hother hmember same
  simp only [findings, due, List.mem_map, List.mem_filterMap, List.mem_filter, survivor?, left?]
  constructor
  · rintro ⟨failure, ⟨other, ⟨hother, hdue⟩, hfailure⟩, hpid⟩
    obtain rfl := one other hother ((Response.pid_of_failure? hfailure).symm.trans hpid)
    rw [if_pos hdue, Option.map_eq_none_iff, ← Response.isSome_failure?_iff, hfailure]
    rfl
  · intro gone
    split at gone
    · next hdue =>
      have failed : ((response member.pid).failure? member.pid).isSome = true :=
        Response.isSome_failure?_iff.mpr (Option.map_eq_none_iff.mp gone)
      obtain ⟨failure, hfailure⟩ := Option.isSome_iff_exists.mp failed
      exact ⟨failure, ⟨member, ⟨hmember, hdue⟩, hfailure⟩, Response.pid_of_failure? hfailure⟩
    · cases gone

/-- **The members that are left are those that could be waited for, or were not due.** -/
theorem kept_findings (distinct : (members.map (·.pid)).Nodup) :
    (q.findings response members).kept = members.filterMap (q.survivor? response) := by
  have each : ∀ member ∈ members,
      Option.guard
        (fun left => !((q.findings response members).failures.map (·.pid)).contains left.pid)
        ((q.survivor? response member).getD member) = q.survivor? response member := by
    intro member hmember
    have gone : member.pid ∈ (q.findings response members).failures.map (·.pid) ↔
        q.survivor? response member = none := mem_failures_iff distinct hmember
    cases hleft : q.survivor? response member with
    | none =>
      have lost := List.contains_iff_mem.mpr (gone.mpr hleft)
      rw [Option.getD_none, Option.guard, lost]
      rfl
    | some left =>
      have alive : member.pid ∉ (q.findings response members).failures.map (·.pid) := by
        rw [gone, hleft]
        nofun
      rw [Option.getD_some, Option.guard, pid_survivor? hleft]
      simp [alive]
  rw [Findings.kept, ← List.filterMap_eq_filter]
  show (members.map _).filterMap _ = _
  rw [List.filterMap_map]
  exact List.filterMap_congr each

end Inquiry

namespace Job

open Inquiry (Response)

variable {q : Inquiry} {job after : Job} {response : Pid → Response} {events : List Event}
  {rounds : Nat}

/-- What an inquiry leaves of a job. -/
def answered (job : Job) (q : Inquiry) (response : Pid → Response) : Job :=
  { job with
    members := job.members.filterMap (q.survivor? response)
    lastStatus := (q.findings response job.members).reports.getLast? <|> job.lastStatus }

theorem record_findings (distinct : job.pids.Nodup) :
    job.record (q.findings response job.members) = job.answered q response := by
  rw [record, Inquiry.kept_findings distinct, answered]

/-- The members that are running, in order. -/
def running (job : Job) : List Member :=
  job.members.filter fun member => member.status.state = .running

/-- How a job is waited for without a limit, given what the system answers about each member. -/
structure Awaited (job : Job) (response : Pid → Response) (events : List Event) (after : Job)
    (result : Except WaitFailure State) : Prop where
  /-- Each running member is asked about once, in order, and no other one; an interrupted wait is
  made again, and a failure is noted before the next member is asked about. -/
  events_eq : events = job.running.flatMap fun member =>
    (response member.pid).waits member.pid .untilStopped ++
      ((response member.pid).failure? member.pid).toList.map fun failure =>
        ⟨.log (.waitFailed failure), ()⟩
  /-- A running member has the status that was answered, or is dropped; any other is as it was. -/
  members_eq : after.members = job.members.filterMap fun member =>
    if member.status.state = .running then
      (response member.pid).status?.map fun status => { member with status }
    else some member
  lastStatus_eq : after.lastStatus =
    ((job.running.filterMap fun member => (response member.pid).status?).getLast? <|>
      job.lastStatus)
  place_eq : after.pgid = job.pgid ∧ after.foreground = job.foreground
  /-- The first failure counts. -/
  result_eq : result =
    match job.running.findSome? fun member => (response member.pid).failure? member.pid with
    | some failure => .error failure
    | none => .ok after.state

/-- What comes of a wait with some findings. -/
def conclusion (job : Job) (found : Findings) : Except WaitFailure State :=
  match found.failures with
  | [] => .ok (job.record found).state
  | failure :: _ => .error failure

theorem run_wait_iff {result : Except WaitFailure State} :
    (job.wait rounds).Run events (after, result) ↔
      ∃ found, (Inquiry.blocking.survey job.members rounds).Run events found ∧
        after = job.record found ∧ result = job.conclusion found := by
  have last : ∀ found : Findings, ∀ rest,
      ((match found.failures with
          | [] => return (job.record found, .ok (job.record found).state)
          | failure :: _ => return (job.record found, .error failure) :
            Action (Job × Except WaitFailure State)) rounds).Run rest (after, result) ↔
        rest = [] ∧ after = job.record found ∧ result = job.conclusion found := by
    intro found rest
    rw [conclusion]
    cases found.failures <;> exact run_pair_iff
  constructor
  · intro h
    obtain ⟨asked, rest, found, rfl, hsurvey, hlast⟩ := run_bind_iff.mp h
    obtain ⟨rfl, hafter, hresult⟩ := (last found rest).mp hlast
    exact ⟨found, by rwa [List.append_nil], hafter, hresult⟩
  · rintro ⟨found, hsurvey, hafter, hresult⟩
    refine run_bind_iff.mpr ⟨events, [], found, (List.append_nil _).symm, hsurvey, ?_⟩
    exact (last found []).mpr ⟨rfl, hafter, hresult⟩

/-- **What remains of a job that is waited for, and how the wait ends.** -/
theorem awaited_of_responses (distinct : job.pids.Nodup) :
    job.Awaited response (Inquiry.blocking.transcript response job.members)
      (job.record (Inquiry.blocking.findings response job.members))
      (job.conclusion (Inquiry.blocking.findings response job.members)) where
  events_eq := rfl
  members_eq := by
    rw [record_findings distinct]
    refine List.filterMap_congr fun member _ => ?_
    simp only [Inquiry.survivor?, Inquiry.left?, Inquiry.blocking, decide_eq_true_eq, if_true]
  lastStatus_eq := by
    have all : (Inquiry.blocking.findings response job.members).reports =
        job.running.filterMap fun member => (response member.pid).status? := by
      refine List.filterMap_congr fun member _ => ?_
      cases (response member.pid).status? <;> rfl
    rw [← all]
    rfl
  place_eq := ⟨rfl, rfl⟩
  result_eq := by
    have first : (Inquiry.blocking.findings response job.members).failures.head? =
        job.running.findSome? fun member => (response member.pid).failure? member.pid :=
      List.head?_filterMap
    rw [← first, conclusion]
    cases (Inquiry.blocking.findings response job.members).failures <;> rfl

/-- A job just launched is running in all its members. -/
theorem running_eq_of_ofPids? {pids : List Pid} {foreground : Bool}
    (launched : Job.ofPids? pids foreground = some job) :
    pids ≠ [] ∧ job.lastStatus = none ∧ job.running = pids.map fun pid => ⟨pid, .stillAlive⟩ := by
  cases pids with
  | nil => cases launched
  | cons pid pids =>
    obtain rfl := Option.some.inj launched
    refine ⟨List.cons_ne_nil _ _, rfl, List.filter_eq_self.mpr ?_⟩
    exact List.forall_mem_map.mpr fun _ _ => rfl

/-- **A job just launched has the status of its last stage, whichever stage ended first.** -/
theorem Awaited.status_of_last {pids : List Pid} {foreground : Bool} {state : State}
    (h : job.Awaited response events after (.ok state))
    (launched : Job.ofPids? pids foreground = some job) :
    ∃ last status, pids.getLast? = some last ∧ (response last).answer = .ok status ∧
      after.outcome.status = some status := by
  obtain ⟨nonempty, -, running_eq⟩ := running_eq_of_ofPids? launched
  obtain ⟨before, last, rfl⟩ := (List.eq_nil_or_concat' pids).resolve_left nonempty
  -- no failure is found, so none is found at the last stage
  have unfailing : (response last).failure? last = none := by
    have hresult := h.result_eq
    split at hresult
    · cases hresult
    · next none =>
      refine List.findSome?_eq_none_iff.mp none ⟨last, .stillAlive⟩ ?_
      rw [running_eq]
      simp
  obtain ⟨status, hstatus⟩ : ∃ status, (response last).answer = .ok status := by
    cases hanswer : (response last).answer with
    | ok status => exact ⟨status, rfl⟩
    | error errno =>
      rw [Response.failure?, hanswer] at unfailing
      cases unfailing
  have answered : [(⟨last, .stillAlive⟩ : Member)].filterMap
      (fun member => (response member.pid).status?) = [status] := by
    refine List.filterMap_cons_some ?_
    rw [Response.status?, hstatus]
    rfl
  refine ⟨last, status, List.getLast?_concat, hstatus, ?_⟩
  show after.lastStatus = some status
  rw [h.lastStatus_eq, running_eq, List.map_append, List.filterMap_append, List.map_singleton,
    answered, List.getLast?_concat]
  rfl

end Job

/-- **Waiting for a job, whatever the system answers: each running member is asked about once, in
order, and no other one; the members that cannot be waited for are dropped, and the first of them is
the failure that is answered; the others have the status that was answered.  So the job that was
just launched has the status of its last stage.** -/
theorem waited_as_answered :
    (∀ (job after : Job) rounds events result, job.pids.Nodup →
      (job.wait rounds).Run events (after, result) →
      ∃ response, job.Awaited response events after result) ∧
    (∀ (job : Job) response rounds, job.pids.Nodup →
      (∀ member ∈ job.running, (response member.pid).interruptions < rounds) →
      ∃ events after result, (job.wait rounds).Run events (after, result) ∧
        job.Awaited response events after result) ∧
    ∀ pids foreground (job after : Job) response events state,
      Job.ofPids? pids foreground = some job → job.Awaited response events after (.ok state) →
      ∃ last status, pids.getLast? = some last ∧ (response last).answer = .ok status ∧
        after.outcome.status = some status := by
  refine ⟨fun job after rounds events result distinct run => ?_,
    fun job response rounds distinct fast => ?_,
    fun pids foreground job after response events state launched awaited => ?_⟩
  · obtain ⟨found, hsurvey, rfl, rfl⟩ := Job.run_wait_iff.mp run
    obtain ⟨response, rfl, rfl⟩ := (Inquiry.surveyed_of_run hsurvey).responds distinct
    exact ⟨response, Job.awaited_of_responses distinct⟩
  · have run := Inquiry.run_survey (q := .blocking) fast
    exact ⟨_, _, _, Job.run_wait_iff.mpr ⟨_, run, rfl, rfl⟩, Job.awaited_of_responses distinct⟩
  · exact awaited.status_of_last launched

namespace Sample

/-- Two of four running processes cannot be waited for; one that stopped and one that ended before
are not asked about. -/
def scattered : Job where
  pgid := 7
  members := [⟨7, .stillAlive⟩, ⟨8, .stopped .tstp⟩, ⟨9, .continued⟩, ⟨10, .exited 1⟩,
    ⟨11, .stillAlive⟩, ⟨12, .stillAlive⟩]
  foreground := true
  lastStatus := some (.exited 1)

def gathering : List Event := [
  ⟨.wait 7 .untilStopped, .error .echild⟩, ⟨.log (.waitFailed ⟨7, .echild⟩), ()⟩,
  ⟨.wait 9 .untilStopped, .error .eintr⟩, ⟨.wait 9 .untilStopped, .ok (.stopped .ttin)⟩,
  ⟨.wait 11 .untilStopped, .ok (.exited 3)⟩,
  ⟨.wait 12 .untilStopped, .error .einval⟩, ⟨.log (.waitFailed ⟨12, .einval⟩), ()⟩]

def gathered : Job where
  pgid := 7
  members := [⟨8, .stopped .tstp⟩, ⟨9, .stopped .ttin⟩, ⟨10, .exited 1⟩, ⟨11, .exited 3⟩]
  foreground := true
  lastStatus := some (.exited 3)

theorem run_gathering : (scattered.wait 2).Run gathering (gathered, .error ⟨7, .echild⟩) :=
  .ask (.ask (.ask (.ask (.ask (.ask (.ask (.done _)))))))

/-- Two processes just started, each of which ends at once. -/
def fresh : Job := ⟨7, [⟨7, .stillAlive⟩, ⟨8, .stillAlive⟩], true, none⟩

def ending (pid : Pid) : Inquiry.Response := ⟨0, .ok (.exited pid), nofun⟩

end Sample

/-- Members before and after those that cannot be waited for are asked about; two processes just
started leave the status of the second. -/
theorem gathered_as_answered :
    (∃ response, Sample.scattered.Awaited response Sample.gathering Sample.gathered
      (.error ⟨7, .echild⟩)) ∧
    ∃ events after, (Sample.fresh.wait 1).Run events (after, .ok .done) ∧
      after.outcome.status = some (.exited 8) := by
  refine ⟨waited_as_answered.1 _ _ _ _ _ (by decide) Sample.run_gathering, ?_⟩
  obtain ⟨events, after, result, run, awaited⟩ :=
    waited_as_answered.2.1 Sample.fresh Sample.ending 1 (by decide) (fun _ _ => Nat.one_pos)
  have hafter : after.members = [⟨7, .exited 7⟩, ⟨8, .exited 8⟩] := awaited.members_eq
  have hresult : result = .ok .done := by
    rw [awaited.result_eq]
    show Except.ok after.state = _
    rw [Job.state, hafter]
    rfl
  subst hresult
  obtain ⟨last, status, hlast, hstatus, houtcome⟩ :=
    waited_as_answered.2.2 [7, 8] true Sample.fresh after _ _ _ rfl awaited
  obtain rfl : 8 = last := Option.some.inj hlast
  obtain rfl : WaitStatus.exited 8 = status := Except.ok.inj hstatus
  exact ⟨events, after, run, houtcome⟩

end JobControl
