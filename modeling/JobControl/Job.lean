import JobControl.Action

/-!
# Jobs

A job is a launched pipeline: a process group with its members in the order of the pipeline and what
was last reported of each.

## Main definitions

* `Member`, `Job`, `Outcome` — a process of a job, a job, and what became of it.
* `Inquiry` — which members are asked about, and how; `Inquiry.blocking`, `Inquiry.polling`.
* `Job.wait` — waits until every member has ended or stopped.
* `Job.poll` — collects what is to be reported, without waiting.
* `Job.resume`, `Job.hangUp` — signals to the whole group.
-/

namespace JobControl

/-- A process of a job, with what was last reported of it. -/
structure Member where
  pid : Pid
  status : WaitStatus
  deriving DecidableEq

/-- What became of a job that was waited for. -/
structure Outcome where
  pgid : Pid
  state : State
  /-- The last report seen, if any. -/
  status : Option WaitStatus
  deriving DecidableEq

namespace Outcome

/-- The numeric status of a job: that of the last report, or zero. -/
def code (o : Outcome) : Int := (o.status.bind WaitStatus.code).getD 0

end Outcome

/-- A process group and its members, in the order of the pipeline. -/
structure Job where
  pgid : Pid
  members : List Member
  foreground : Bool
  /-- The last report seen, if any. -/
  lastStatus : Option WaitStatus
  deriving DecidableEq

/-- A way of asking about the members of a job. -/
structure Inquiry where
  /-- Which members are asked about. -/
  isDue : State → Bool
  flags : WaitFlags
  /-- Which answers are recorded. -/
  counts : WaitStatus → Bool
  /-- What is logged of a member that cannot be waited for. -/
  entry : WaitFailure → LogEntry

/-- What an inquiry brings: the members with their new reports, the reports in order, and the
members that could not be waited for. -/
structure Findings where
  members : List Member := []
  reports : List WaitStatus := []
  failures : List WaitFailure := []

namespace Inquiry

/-- Waits for each running member until it ends or stops. -/
def blocking : Inquiry where
  isDue state := state = .running
  flags := .untilStopped
  counts _ := true
  entry := .waitFailed

/-- Collects what is to be reported of the members that have not ended. -/
def polling : Inquiry where
  isDue state := state ≠ .done
  flags := .collect
  counts status := status ≠ .stillAlive
  entry := .forgotten

/-- Waits for a child, again if a signal interrupts the wait. -/
def waitRounds (pid : Pid) (flags : WaitFlags) : Nat → Action (Except Errno WaitStatus)
  | 0 => Action.unfinished
  | n + 1 => do
    match ← Action.wait pid flags with
    | .ok status => return .ok status
    | .error e => if e = Errno.eintr then waitRounds pid flags n else return .error e

/-- Waits for a child, as often as signals interrupt the wait. -/
def waitFor (pid : Pid) (flags : WaitFlags) : Action (Except Errno WaitStatus) := do
  waitRounds pid flags (← Action.rounds)

/-- Asks about the members that are due, in order. -/
def survey (q : Inquiry) : List Member → Action Findings
  | [] => return {}
  | member :: rest => do
    if q.isDue member.status.state then
      match ← waitFor member.pid q.flags with
      | .ok status =>
        let found ← survey q rest
        if q.counts status then
          return { found with
            members := { member with status } :: found.members
            reports := status :: found.reports }
        else return { found with members := member :: found.members }
      | .error errno =>
        let failure : WaitFailure := { pid := member.pid, errno }
        Action.log (q.entry failure)
        let found ← survey q rest
        return { found with
          members := member :: found.members
          failures := failure :: found.failures }
    else
      let found ← survey q rest
      return { found with members := member :: found.members }

end Inquiry

namespace Findings

/-- The members that could be waited for, or did not have to be. -/
def kept (f : Findings) : List Member :=
  f.members.filter fun member => !(f.failures.map (·.pid)).contains member.pid

end Findings

namespace Job

/-- The job of processes just started, unless there is none; the first leads the group. -/
def ofPids? (pids : List Pid) (foreground : Bool) : Option Job :=
  pids.head?.map fun pgid => {
    pgid
    members := pids.map fun pid => { pid, status := .stillAlive }
    foreground
    lastStatus := none }

/-- The state of a job is that of its least advanced member. -/
def state (j : Job) : State := j.members.foldl (fun s member => s.min member.status.state) .done

theorem foldl_min_eq_done_iff (members : List Member) (s : State) :
    members.foldl (fun s member => s.min member.status.state) s = .done ↔
      s = .done ∧ ∀ member ∈ members, member.status.state = .done := by
  induction members generalizing s with
  | nil => simp
  | cons member rest ih =>
    rw [List.foldl_cons, ih, State.min_eq_done_iff, List.forall_mem_cons, and_assoc]

/-- A job is done when all its members are; so a job without members is done. -/
theorem state_eq_done_iff {j : Job} :
    j.state = .done ↔ ∀ member ∈ j.members, member.status.state = .done := by
  rw [state, foldl_min_eq_done_iff]
  simp

theorem state_ne_done_iff {j : Job} :
    j.state ≠ .done ↔ ∃ member ∈ j.members, member.status.state ≠ .done := by
  rw [ne_eq, state_eq_done_iff]
  simp

theorem foldl_min_eq_running_iff (members : List Member) (s : State) :
    members.foldl (fun s member => s.min member.status.state) s = .running ↔
      s = .running ∨ ∃ member ∈ members, member.status.state = .running := by
  induction members generalizing s with
  | nil => simp
  | cons member rest ih =>
    rw [List.foldl_cons, ih, State.min_eq_running_iff, or_assoc]
    simp

/-- A job is running when one of its members is. -/
theorem state_eq_running_iff {j : Job} :
    j.state = .running ↔ ∃ member ∈ j.members, member.status.state = .running := by
  rw [state, foldl_min_eq_running_iff]
  simp

/-- The processes of a job. -/
def pids (j : Job) : List Pid := j.members.map (·.pid)

/-- What has become of a job. -/
def outcome (j : Job) : Outcome := { pgid := j.pgid, state := j.state, status := j.lastStatus }

/-- The job after an inquiry: members that could not be waited for are dropped. -/
def record (j : Job) (found : Findings) : Job :=
  { j with members := found.kept, lastStatus := found.reports.getLast? <|> j.lastStatus }

/-- Waits for each running member in order until it ends or stops.  The first failure is answered
after all members were waited for. -/
def wait (j : Job) : Action (Job × Except WaitFailure State) := do
  let found ← Inquiry.blocking.survey j.members
  let j := j.record found
  match found.failures with
  | [] => return (j, .ok j.state)
  | failure :: _ => return (j, .error failure)

/-- Collects what is to be reported, without waiting. -/
def poll (j : Job) : Action Job := do
  return j.record (← Inquiry.polling.survey j.members)

/-- The job with its stopped members running again. -/
def resumed (j : Job) : Job :=
  { j with members := j.members.map fun member =>
      if member.status.state = .stopped then { member with status := .stillAlive } else member }

/-- A stopped member that goes on has not ended, so the job is done after that if it was before. -/
theorem state_resumed_eq_done_iff {j : Job} : j.resumed.state = .done ↔ j.state = .done := by
  rw [state_eq_done_iff, state_eq_done_iff, resumed, List.forall_mem_map]
  refine forall₂_congr fun member _ => ?_
  split
  · next h => exact iff_of_false nofun (by rw [h]; nofun)
  · rfl

/-- A job that goes on is running, unless it is done. -/
theorem state_resumed {j : Job} (h : j.state ≠ .done) : j.resumed.state = .running := by
  obtain ⟨member, hmember, alive⟩ := state_ne_done_iff.mp h
  refine state_eq_running_iff.mpr ⟨_, List.mem_map_of_mem hmember, ?_⟩
  cases hstate : member.status.state with
  | running => exact hstate
  | stopped => rfl
  | done => exact absurd hstate alive

/-- Lets the group go on, which makes stopped members run. -/
def resume (j : Job) : Action (Except Errno Job) := do
  match ← Action.signalGroup j.pgid .cont with
  | .error e => return .error e
  | .ok () =>
    Action.log (.continued j.pgid)
    return .ok j.resumed

/-- Tells the group that its terminal is gone, and lets it go on to hear of it. -/
def hangUp (j : Job) : Action (Except Errno Job) := do
  match ← Action.signalGroup j.pgid .hup with
  | .error e => return .error e
  | .ok () => j.resume

end Job
end JobControl
