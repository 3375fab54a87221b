import JobControl.Action
import JobControl.Machine.Schedule

/-!
# The shell on a machine

The shell is a process of the machine whose task is an action.  Its calls are answered by system
calls of that process; while it waits, the other processes go on.

## Main definitions

* `Child.routine` — the routine of a new process.
* `Host`, `Hosted α` — a machine with a shell, and something done on it.
* `Host.request` — a system call of the shell.
* `Host.answer` — the answer to a call of the shell.
* `Host.run` — an action of the shell.
-/

namespace JobControl

open Routine

/-- Carries out one step of a new process. -/
def ChildStep.routine (program : Program) (environment : List (String × String)) :
    ChildStep → Routine Unit
  | .restore signal => do let _ ← call (.setHandling signal .default)
  | .join group => do
    let identity ← call .identity
    let _ ← call (.setGroup identity.pid (group.getD identity.pid))
  | .duplicate source target => do let _ ← call (.duplicate source target)
  | .execute => do
    let argv := program.argv.map Text.octetsOf
    let e ← call (.execute (Text.octetsOf program.path) argv environment)
    complain (Text.toOctets (program.failureText e))

/-- The routine of a new process: its steps, one after the other.  It comes to an end of its own
only if its program cannot be executed. -/
def Child.routine (c : Child) (environment : List (String × String)) : Routine Nat := do
  for step in c.steps do
    step.routine c.program environment
  return Program.failureStatus

/-- A machine with a shell. -/
structure Host where
  machine : Machine
  /-- The process of the shell. -/
  shell : Pid
  /-- Whether the shell, when it stops, gets the terminal and goes on. -/
  isAttended : Bool := false
  /-- The signals that stopped an attended shell. -/
  stops : List Signal := []

/-- Something done on a machine with a shell, unless the shell ends before. -/
abbrev Hosted := OptionT (StateM Host)

namespace Host

/-- What the shell finds when it makes a request. -/
inductive Turn (α : Type)
  | answered (value : α)
  /-- The shell is stopped and somebody attends to it. -/
  | stopped (signal : Signal)
  /-- There is no shell any more. -/
  | ended

/-- Whether the shell is stopped, by which signal, and somebody attends to it. -/
def stop? (isAttended : Bool) (p : Process) : Option Signal :=
  match isAttended, p.condition, p.report with
  | true, .stopped, some (.stopped signal) => some signal
  | _, _, _ => none

/-- Tries to make a request. -/
def tryRequest (host : Host) (r : SystemCall) (m : Machine) : Machine × Option (Turn r.Answer) :=
  match m.process? host.shell with
  | none => (m, some .ended)
  | some p =>
    match p.condition, p.doom with
    | .ended, _ => (m, some .ended)
    | .stopped, _ => (m, (stop? host.isAttended p).map .stopped)
    | .running, some _ => (m, none)
    | .running, none =>
      let waiting (isWaiting : Bool) (m : Machine) : Machine :=
        if p.isWaiting = isWaiting then m else m.update host.shell fun p => { p with isWaiting }
      match m.perform host.shell p r with
      | (m, .answer value) => (waiting false m, some (.answered value))
      | (m, _) => (waiting true m, none)

/-- Gives the terminal to the stopped shell and lets it go on. -/
def wake (host : Host) (signal : Signal) : Host :=
  let m := host.machine
  let group := (m.process? host.shell).elim host.shell (·.group)
  let m := { m with console := { m.console with foreground := group } }
  { host with machine := m.deliver host.shell .cont, stops := host.stops ++ [signal] }

/-- Makes a request; the shell may be stopped some times before. -/
def requestWithin (r : SystemCall) : Nat → Hosted r.Answer
  | 0 => failure
  | n + 1 => do
    let host ← get
    let (machine, turn) := host.machine.runUntil (host.tryRequest r) Machine.maxTurns
    set { host with machine }
    match turn with
    | some (.answered value) => return value
    | some (.stopped signal) =>
      modify fun host => host.wake signal
      requestWithin r n
    | _ => failure

/-- A system call of the shell. -/
def request (r : SystemCall) : Hosted r.Answer := requestWithin r Routine.rounds

/-- The process of the shell. -/
def process : Hosted Process := do
  let host ← get
  match host.machine.process? host.shell with
  | some p => return p
  | none => failure

/-- Starts a child of the shell.  A bound on the descriptors of the shell does not bind the
child. -/
def fork (child : Child) : Hosted (Except Errno Pid) := do
  let p := { ← process with limit := defaultLimit }
  let host ← get
  let (machine, pid) := host.machine.startChild host.shell p (child.routine p.environment).task
  set { host with machine }
  return .ok pid

/-- Writes bytes for the shell, piece by piece. -/
def write (fd : Fd) (bytes : ByteArray) : Nat → Hosted Unit
  | 0 => pure ()
  | n + 1 => do
    unless bytes.isEmpty do
      if let .ok count ← request (.write fd bytes) then
        write fd (bytes.extract count bytes.size) n

/-- The descriptor of a stream. -/
def descriptor : OutputStream → Fd
  | .output => Fd.standardOutput
  | .error => Fd.standardError

/-- How many bytes of standard input the shell reads at once. -/
def inputSize : Nat := 8192

/-- What the shell is told of a child.  It knows no signals but those with names. -/
def told (answer : Except Errno (Pid × WaitStatus)) : Except Errno WaitStatus := do
  match (← answer).2 with
  | .signaled signal core => if signal.isNamed then .ok (.signaled signal core) else .error .einval
  | status => .ok status

/-- The answer to a call of the shell. -/
def answer : (c : Call) → Hosted c.Answer
  | .environment name => do
    return ((← process).environment.lookup (Text.toOctets name)).map Text.bytesOf
  | .metadata path => do
    return (← request (.metadata (Text.octetsOf path) true)).map FileStatus.toMetadata
  | .openInput path => request (.openFile (Text.toOctets path) .read 0 true)
  | .openOutput path =>
    request (.openFile (Text.toOctets path) .overwrite FileTree.fileMode true)
  | .pipe => request (.pipe true)
  | .close fd => do let _ ← request (.close fd)
  | .fork child => fork child
  | .setGroup pid group => request (.setGroup pid group)
  | .wait pid flags => do return told (← request (.wait (some pid) flags false))
  | .signalGroup group signal => request (.signal (.group group) (some signal))
  | .setDisposition signal .default => request (.setHandling signal .default)
  | .setDisposition signal .ignore => request (.setHandling signal .ignore)
  | .isTerminal => request (.isTerminal Fd.standardInput)
  | .ownPid => do return (← request .identity).pid
  | .ownGroup => do return (← request .identity).group
  | .terminalGroup => request (.terminalGroup Fd.standardInput)
  | .setTerminalGroup group => request (.setTerminalGroup Fd.standardInput group)
  | .modes => request (.modes Fd.standardInput)
  | .setModes modes => request (.setModes Fd.standardInput modes)
  | .changeDirectory path => request (.changeDirectory (Text.octetsOf path))
  | .workingDirectory => do return (← request .workingDirectory).map Text.bytesOf
  | .readInput => do
    return (← request (.read Fd.standardInput inputSize)).map ByteArray.toList
  | .say message => do
    let bytes := message.text.toUTF8
    write (descriptor message.stream) bytes (bytes.size + 1)
  | .log entry => modify fun host =>
    { host with machine := { host.machine with logs := host.machine.logs ++ [entry] } }

/-- An action of the shell. -/
def run {α : Type} (action : Action α) : Hosted α := do
  match ← action.run answer Routine.rounds with
  | some value => return value
  | none => failure

/-- Lets the machine go on until something holds of it; whether it came to that. -/
def waitUntil (holds : Machine → Bool) : Hosted Bool := do
  let host ← get
  let (machine, found) :=
    host.machine.runUntil (fun m => (m, if holds m then some () else none)) Machine.maxTurns
  set { host with machine }
  return found.isSome

end Host
end JobControl
