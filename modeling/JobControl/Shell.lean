import JobControl.JobTable
import JobControl.Terminal

/-!
# The shell

The state of a shell is its terminal and its jobs.  A job in the foreground has the terminal for as
long as the shell waits for it.

## Main definitions

* `Shell` — terminal and jobs.
* `Shell.runForeground`, `Shell.launchBackground` — what becomes of a job just launched.
* `Shell.resumeForeground`, `Shell.resumeBackground` — what becomes of the background job.
* `Shell.reapBackground` — announces what has become of the background job.
-/

namespace JobControl

/-- A shell: its terminal and its jobs. -/
structure Shell where
  terminal : Terminal
  jobs : JobTable := {}

namespace Shell

/-- Waits for a job and takes the terminal back, whether the job ended or stopped. -/
def waitAndReclaim (shell : Shell) (job : Job) : Action (Shell × Outcome) := do
  let (jobs, outcome) ← shell.jobs.waitForeground job
  shell.terminal.reclaim
  if outcome.state ≠ .done then
    Action.say (.changed outcome.pgid .stopped)
  return ({ shell with jobs }, outcome)

/-- Lends the terminal to a job and waits for it. -/
def runForeground (shell : Shell) (job : Job) : Action (Shell × Outcome) := do
  shell.terminal.handTo job.pgid
  shell.waitAndReclaim job

/-- Announces a job and puts it into the background. -/
def launchBackground (shell : Shell) (job : Job) : Action (Shell × Pid) := do
  Action.say (.launched job.pgid)
  let jobs ← shell.jobs.setBackground job
  return ({ shell with jobs }, job.pgid)

/-- Brings the background job to the foreground, if there is one.  A job that cannot go on stays
where it was. -/
def resumeForeground (shell : Shell) : Action (Shell × Except Errno (Option Outcome)) := do
  match shell.jobs.background with
  | none => return (shell, .ok none)
  | some job =>
    let taken : Shell := { shell with jobs := { shell.jobs with background := none } }
    taken.terminal.handTo job.pgid
    match ← job.resume with
    | .error e =>
      taken.terminal.reclaim
      let jobs ← taken.jobs.setBackground job
      return ({ taken with jobs }, .error e)
    | .ok job =>
      let (shell, outcome) ← taken.waitAndReclaim job
      return (shell, .ok (some outcome))

/-- Lets a stopped background job go on where it is. -/
def resumeBackground (shell : Shell) : Action (Shell × Except Errno (Option Pid)) := do
  match shell.jobs.background with
  | none => return (shell, .ok none)
  | some job =>
    if job.state ≠ .stopped then return (shell, .ok (some job.pgid))
    match ← job.resume with
    | .error e => return (shell, .error e)
    | .ok job =>
      Action.say (.changed job.pgid .running)
      return ({ shell with jobs := { shell.jobs with background := some job } },
        .ok (some job.pgid))

/-- Collects what is to be reported and announces what has become of the background job. -/
def reapBackground (shell : Shell) : Action Shell := do
  let (jobs, change) ← shell.jobs.reapBackground
  if let some (group, state) := change then
    Action.log (.backgroundChanged group state)
    Action.say (.changed group state)
  return { shell with jobs }

end Shell
end JobControl
