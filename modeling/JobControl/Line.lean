import JobControl.Builtin
import JobControl.Spawn

/-!
# Running a line

A line is a builtin if its first word names one, and a pipeline otherwise.  Before anything else the
shell collects what is to be reported of its jobs.  No line is fatal to the shell.

## Main definitions

* `Report`, `Report.status` — what became of a line, and its status.
* `Line.evaluate` — launches the pipeline of a line.
* `Line.execute` — runs a line.
-/

namespace JobControl

/-- What became of a line. -/
inductive Report
  /-- There was nothing to do. -/
  | empty
  | builtin (status : Nat)
  /-- The shell is to leave with this status. -/
  | exit (code : Int)
  /-- Nothing was launched. -/
  | rejected (cause : Rejection)
  | foreground (outcome : Outcome)
  | background (group : Pid)

namespace Report

/-- The status of a line. -/
def status : Report → Int
  | empty | background _ => 0
  | builtin status => status
  | exit code => code
  | rejected cause => cause.status
  | foreground outcome => outcome.code

end Report

namespace Line

/-- Follows the processes launched for a line as one job, in the foreground or the background. -/
def track (shell : Shell) (started : List Pid) (background : Bool) : Action (Shell × Report) := do
  match Job.ofPids? started !background with
  | none => return (shell, .empty)
  | some job =>
    if background then
      let (shell, group) ← shell.launchBackground job
      return (shell, .background group)
    else
      let (shell, outcome) ← shell.runForeground job
      return (shell, .foreground outcome)

/-- Says why nothing of a line was launched. -/
def reject (shell : Shell) (cause : Rejection) : Action (Shell × Report) := do
  Action.say (.rejected cause)
  return (shell, .rejected cause)

/-- Launches the pipeline that the words of a line spell.  If only some stages can be launched,
these are a job like any other. -/
def evaluate (shell : Shell) (tokens : List String) : Action (Shell × Report) := do
  match Pipeline.ofTokens tokens with
  | .error e => reject shell (.malformed e)
  | .ok pipeline =>
    match ← Stage.prepare pipeline with
    | .error cause => reject shell cause
    | .ok stages =>
      match ← Spawn.stages none [] stages with
      | ([], some e) => reject shell (.launch e)
      | (started, failure) =>
        if let some e := failure then
          Action.say (.incomplete e)
        track shell started pipeline.background

/-- Runs a line. -/
def execute (shell : Shell) (tokens : List String) : Action (Shell × Report) := do
  let shell ← shell.reapBackground
  match tokens with
  | [] => return (shell, .empty)
  | name :: arguments =>
    match Builtin.ofName? name with
    | none => evaluate shell tokens
    | some builtin =>
      match ← builtin.run shell arguments with
      | (shell, .status status) => return (shell, .builtin status)
      | (shell, .exit code) => return (shell, .exit code)

end Line
end JobControl
