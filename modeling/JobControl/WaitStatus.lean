import JobControl.Signal

/-!
# Wait statuses

What the system says about a child that is waited for, and what that makes of the child.

## Main definitions

* `WaitStatus` — an answer of the system about a child.
* `State` — running, stopped or done, in this order.
* `WaitStatus.state`, `WaitStatus.code` — the state and the numeric status that an answer reports.
-/

namespace JobControl

/-- How far a process, or a job, has advanced. -/
inductive State
  | running
  | stopped
  | done
  deriving DecidableEq

namespace State

/-- The name of a state. -/
def name : State → String
  | running => "Running"
  | stopped => "Stopped"
  | done => "Done"

/-- The less advanced of two states. -/
def min : State → State → State
  | running, _ | _, running => running
  | stopped, _ | _, stopped => stopped
  | done, done => done

theorem min_eq_done_iff {s t : State} : s.min t = done ↔ s = done ∧ t = done := by
  cases s <;> cases t <;> decide

theorem min_eq_running_iff {s t : State} : s.min t = running ↔ s = running ∨ t = running := by
  cases s <;> cases t <;> decide

end State

/-- What the system reports about a child. -/
inductive WaitStatus
  | exited (code : Int)
  | signaled (signal : Signal) (core : Bool)
  | stopped (signal : Signal)
  | continued
  /-- There is nothing to report. -/
  | stillAlive
  /-- The child stopped for a tracer. -/
  | traced
  deriving DecidableEq

namespace WaitStatus

/-- The state of a child about which the system reports this. -/
def state : WaitStatus → State
  | exited _ | signaled _ _ => .done
  | stillAlive | continued => .running
  | stopped _ | traced => .stopped

/-- The numeric status: the exit code, or 128 and the number of the signal. -/
def code : WaitStatus → Option Int
  | exited code => some code
  | signaled signal _ | stopped signal => some (128 + (signal.number : Int))
  | continued | stillAlive | traced => none

end WaitStatus
end JobControl
