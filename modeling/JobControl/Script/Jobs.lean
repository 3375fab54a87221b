import JobControl.Script.Occasions

/-!
# The processes of a script

A script starts processes and waits for their ends.  It remembers the end of a process until
somebody has asked for it and the place is needed.

## Main definitions

* `Run.newJob`, `Run.fork` — starts processes.
* `Run.waitFor` — waits for the end of a job.
* `Run.reap` — takes note of the children that have ended.
* `Run.await` — waits as long as no signal arrives for which something is arranged.
* `ScriptJob.description` — a job as a script lists it.
-/

namespace JobControl

namespace WaitStatus

/-- The sentence for a signal. -/
def sentence : Signal → String
  | .hup => "Hangup"
  | .int => "Interrupt"
  | .quit => "Quit"
  | .ill => "Illegal instruction"
  | .trap => "Trace/breakpoint trap"
  | .abrt => "Aborted"
  | .bus => "Bus error"
  | .fpe => "Floating point exception"
  | .kill => "Killed"
  | .usr1 => "User defined signal 1"
  | .segv => "Segmentation fault"
  | .usr2 => "User defined signal 2"
  | .pipe => "Broken pipe"
  | .alrm => "Alarm clock"
  | .term => "Terminated"
  | .stkflt => "Stack fault"
  | .chld => "Child exited"
  | .cont => "Continued"
  | .stop => "Stopped (signal)"
  | .tstp => "Stopped"
  | .ttin => "Stopped (tty input)"
  | .ttou => "Stopped (tty output)"
  | .urg => "Urgent I/O condition"
  | .xcpu => "CPU time limit exceeded"
  | .xfsz => "File size limit exceeded"
  | .vtalrm => "Virtual timer expired"
  | .prof => "Profiling timer expired"
  | .winch => "Window changed"
  | .io => "I/O possible"
  | .pwr => "Power failure"
  | .sys => "Bad system call"
  | .realtime index =>
    let n := (Signal.realtime index).number
    if n < Occasion.least then s!"Unknown signal {n}" else s!"Real-time signal {n - Occasion.least}"

/-- What a script says about the end of a command that it waited for. -/
def complaint : WaitStatus → Option String
  | .signaled .int _ | .signaled .pipe _ => none
  | .signaled signal _ => some (sentence signal)
  | _ => none

/-- How a script describes an end. -/
def description : WaitStatus → String
  | .exited 0 => "Done"
  | .exited code => s!"Done({code})"
  | .signaled signal _ | .stopped signal => sentence signal
  | _ => "Running"

/-- The status of a command that ended so. -/
def scriptStatus (s : WaitStatus) : Nat := (s.code.getD 0).toNat

end WaitStatus

namespace ScriptJob

/-- The status of a job: that of its last process. -/
def status (j : ScriptJob) : Nat :=
  ((j.members.getLast?.bind (·.status)).map WaitStatus.scriptStatus).getD 0

/-- The width of the columns before the text of a command. -/
def width : Nat := 33

/-- A job as a script lists it; `mark` says whether it is the current one. -/
def description (j : ScriptJob) (mark : Char) (withProcesses : Bool) : String :=
  let padded (text : String) : String :=
    text ++ String.ofList (List.replicate (Nat.max 1 (width - text.length)) ' ')
  let state :=
    if j.isDone then ((j.members.getLast?.bind (·.status)).map (·.description)).getD "Done"
    else "Running"
  let number := s!"[{j.number}] "
  match j.members with
  | [] => ""
  | first :: rest =>
    if withProcesses then
      let indent := String.ofList (List.replicate (number.length + 2) ' ')
      padded s!"{number}{mark} {first.pid} {state}" ++
        String.join (rest.map fun member => " |\n" ++ padded s!"{indent}{member.pid} ") ++ "\n"
    else padded s!"{number}{mark} {state}" ++ String.join (rest.map fun _ => " | ") ++ "\n"

end ScriptJob

namespace Run

/-- A job. -/
def job? (number : Nat) : Run (Option ScriptJob) := do
  return (← get).jobs.find? fun j => j.number = number

/-- Changes a job. -/
def updateJob (number : Nat) (change : ScriptJob → ScriptJob) : Run Unit := modify fun i =>
  { i with jobs := i.jobs.map fun j => if j.number = number then change j else j }

/-- Forgets a job. -/
def forgetJob (number : Nat) : Run Unit := modify fun i =>
  { i with jobs := i.jobs.filter fun j => j.number ≠ number }

/-- Makes room for a job: a place that is free, or whose job has ended to the knowledge of whoever
asked for it. -/
def newJob : Run Nat := do
  let i ← get
  let isFree (number : Nat) : Bool :=
    i.jobs.all fun j => j.number ≠ number || (j.isDone && j.isWaited)
  let number := ((List.range (i.jobs.length + 1)).map (· + 1)).find? isFree
  let number := number.getD (i.jobs.length + 1)
  forgetJob number
  modify fun i => { i with jobs := { number } :: i.jobs }
  return number

/-! ### Starting -/

/-- How a process stands to the script that starts it. -/
inductive Footing
  | foreground
  | background
  deriving DecidableEq

/-- Makes a descriptor a copy of another and closes the other. -/
def move (source target : Fd) : Run Unit := do
  unless source = target do
    let _ ← call (.duplicate source target)
    let _ ← call (.close source)

/-- What begins anew where a part of a script has a process to itself. -/
def beginAnew : Run Unit := do
  if let some fd := (← get).source then
    let _ ← call (.close fd)
  modify fun i => { i with skip := .nothing, loops := 0, source := none }
  forgetActions

/-- What a new process of a script does first. -/
def detach (footing : Footing) (isFirst : Bool) : Run Unit := do
  modify fun i => { i with isMain := false, jobs := [] }
  beginAnew
  if footing = .background then
    ignore .int
    ignore .quit
    if isFirst then
      let _ ← call (.close Fd.standardInput)
      let _ ← call (.openFile "/dev/null" .read 0 false)

/-- Starts a process of a job that carries out a part of the script to its end. -/
def fork (evaluate : Evaluator) (job : Option Nat) (footing : Footing) (body : Run Unit) :
    Run Unit := do
  let i ← get
  let isFirst := job.any fun number =>
    (i.jobs.find? fun j => j.number = number).all fun j => j.members.isEmpty
  let whole : Run Nat := do
    let outcome ← attempt do
      detach footing isFirst
      body
    finish evaluate (match outcome with
      | .ok () => none
      | .error abort => some abort)
  let started : Except Errno Pid ← ExceptT.mk fun i => do
    let answer ← Routine.fork do
      let (status, _) ← whole.run i
      return status.toOption.getD 2
    return (.ok answer, i)
  match started with
  | .error _ => fail "Cannot fork"
  | .ok pid =>
    if footing = .background then modify fun i => { i with lastBackground := some pid }
    if let some number := job then
      updateJob number fun j => { j with members := j.members ++ [{ pid }] }

/-! ### Waiting -/

/-- How a wait for a child goes on. -/
inductive Patience
  /-- Only children that have ended count. -/
  | none
  | untilEnd
  /-- Until a child ends or a signal arrives for which something is arranged. -/
  | untilSignal
  deriving DecidableEq

/-- Takes note of the end of a process. -/
def note (pid : Pid) (status : WaitStatus) : Run Unit := modify fun i => { i with
  jobs := i.jobs.map fun j => { j with
    members := j.members.map fun member =>
      if member.pid = pid && member.status.isNone then { member with status := some status }
      else member } }

/-- Says how a command ended that was waited for. -/
def announce (job : Option Nat) (pid : Pid) (status : WaitStatus) : Run Unit := do
  let some number := job | return
  let isMember := (← job? number).any fun j => j.members.any fun member => member.pid = pid
  if let (true, some text) := (isMember, status.complaint) then
    complain ((text ++ "\n"))

/-- Whether a job has not ended. -/
def isRunning (job : Option Nat) : Run Bool := do
  match job with
  | some number => return (← job? number).any fun j => !j.isDone
  | none => return true

/-- Waits for ends of children; whether no signal came in between. -/
def collect (job : Option Nat) (patience : Patience) : Nat → Run Bool
  | 0 => return true
  | n + 1 => do
    let flags : WaitFlags := ⟨patience = .none, false, false⟩
    match ← call (.wait none flags (patience = .untilSignal)) with
    | .ok (_, .stillAlive) => return true
    | .ok (pid, status) =>
      note pid status
      announce job pid status
      collect job (if ← isRunning job then patience else .none) n
    | .error e =>
      if e ≠ .eintr then return true
      notice
      if (← get).noticed.isEmpty then collect job patience n
      else
        let _ ← collect job .none n
        return false

/-- Takes note of the children that have ended, if there is any news of them. -/
def reap : Run Unit := do
  notice
  if (← get).hasNews then
    modify fun i => { i with hasNews := false }
    let _ ← collect none .none Routine.rounds

/-- Waits for the end of a job and forgets it; its status. -/
def waitFor (job : Nat) : Run Nat := do
  if ← isRunning (some job) then
    let _ ← collect (some job) .untilEnd Routine.rounds
  notice
  let status := ((← job? job).map (·.status)).getD 0
  forgetJob job
  return status

/-- Waits for the end of a job, or of any child, as long as no signal arrives for which something is
arranged; whether none did. -/
def await (job : Option Nat) : Run Bool := do
  if ← isRunning job then
    notice
    if (← get).noticed.isEmpty then collect job .untilSignal Routine.rounds else return false
  else return true

end Run
end JobControl
