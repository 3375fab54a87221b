import JobControl.Job

/-!
# The table of jobs

The shell follows at most one job in the foreground and one in the background.  A background job
that loses its place to another is kept only to collect its members.

## Main definitions

* `JobTable` — the jobs of a shell.
* `JobTable.setBackground` — puts a job into the background.
* `JobTable.waitForeground` — waits for a job in the foreground; `awaitForeground` is the wait, and
  `leaveForeground` what follows.
* `JobTable.reapBackground` — collects what is to be reported of the other jobs.
-/

namespace JobControl

/-- The jobs of a shell. -/
structure JobTable where
  foreground : Option Job := none
  background : Option Job := none
  /-- Jobs that lost their place in the background. -/
  disowned : List Job := []

namespace JobTable

/-- The group of the background job. -/
def backgroundGroup (t : JobTable) : Option Pid := t.background.map (·.pgid)

/-- The group of the foreground job. -/
def foregroundGroup (t : JobTable) : Option Pid := t.foreground.map (·.pgid)

/-- A job that lost its place, hung up if it was stopped: nobody can let it go on any more. -/
def displace (job : Job) : Action Job := do
  Action.log (.displaced job.pgid)
  if job.state = .stopped then
    match ← job.hangUp with
    | .ok job => return job
    | .error e =>
      Action.log (.hangUpFailed job.pgid e)
      return job
  else return job

/-- Puts a job into the background; the job that was there is disowned. -/
def setBackground (t : JobTable) (job : Job) : Action JobTable := do
  let job := { job with foreground := false }
  match t.background with
  | none => return { t with background := some job }
  | some previous =>
    let previous ← displace previous
    return { t with background := some job, disowned := t.disowned ++ [previous] }

/-- Waits for the job in the foreground and says which member could not be waited for. -/
def awaitForeground (t : JobTable) : Action JobTable := do
  match t.foreground with
  | none => return t
  | some job =>
    match ← job.wait with
    | (job, .ok _) => return { t with foreground := some job }
    | (job, .error failure) =>
      Action.say (.waitFailed failure)
      return { t with foreground := some job }

/-- Takes the job in the foreground from there.  A job that stopped moves to the background. -/
def leaveForeground (t : JobTable) : Action JobTable := do
  match t.foreground with
  | none => return t
  | some job =>
    let t := { t with foreground := none }
    if job.state = .done then
      Action.log (.finished job.pgid)
      return t
    else
      Action.log (.movedToBackground job.pgid)
      t.setBackground job

/-- Waits for a job in the foreground, which it leaves again whatever has become of it. -/
def waitForeground (t : JobTable) (job : Job) : Action (JobTable × Outcome) := do
  let t ← awaitForeground { t with foreground := some { job with foreground := true } }
  return (← t.leaveForeground, (t.foreground.getD job).outcome)

/-- Collects what is to be reported of some jobs, and keeps those that have not ended. -/
def pollAll : List Job → Action (List Job)
  | [] => return []
  | job :: rest => do
    let job ← job.poll
    let rest ← pollAll rest
    return if job.state = .done then rest else job :: rest

/-- Collects what is to be reported of the jobs that are not in the foreground: the group and the
state of the background job, if its state changed.  A job that ended leaves the table. -/
def reapBackground (t : JobTable) : Action (JobTable × Option (Pid × State)) := do
  let t := { t with disowned := ← pollAll t.disowned }
  match t.background with
  | none => return (t, none)
  | some before =>
    let after ← before.poll
    let change := if before.state = after.state then none else some (after.pgid, after.state)
    if after.state = .done then
      Action.log (.finished after.pgid)
      return ({ t with background := none }, change)
    else return ({ t with background := some after }, change)

end JobTable
end JobControl
