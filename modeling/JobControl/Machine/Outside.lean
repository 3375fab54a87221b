import JobControl.Interactive
import JobControl.Machine.Setup

/-!
# Acting on a shell from outside

What somebody else does while a shell works: waiting for changes of its jobs, signals, typing,
changes of files and of the environment, and taking the place of the shell in collecting a child.

## Main definitions

* `ProcessChange`, `Machine.isPending` — a change of a process that nobody has asked for.
* `Host.collect`, `Host.hasNoChildren` — waiting in place of the shell.
* `Host.withDescriptors` — a bound on what the shell can open.
* `Host.setVariable`, `Host.type`, `Host.writeFile`, `Host.signal`
* `Host.runMain` — the whole life of a shell.
-/

namespace JobControl

/-- A change of a process. -/
inductive ProcessChange
  | exit
  | stop
  | resumption
  deriving DecidableEq

/-- Whether a process has a change that nobody has asked for.  The end of a process stands for any
change, and a process that is gone has ended. -/
def Machine.isPending (m : Machine) (change : ProcessChange) (pid : Pid) : Bool :=
  match m.process? pid with
  | none => true
  | some p =>
    p.condition = .ended || match change, p.report with
      | .stop, some (.stopped _) => true
      | .resumption, some .continued => true
      | _, _ => false

namespace Host

/-- Changes the process of the shell. -/
def change (f : Process → Process) : Hosted Unit :=
  modify fun host => { host with machine := host.machine.update host.shell f }

/-- Waits for the end of a child in place of the shell. -/
def collect (pid : Pid) : Hosted Unit := do
  let _ ← request (.wait (some pid) ⟨false, false, false⟩ false)

/-- Whether the shell has no children. -/
def hasNoChildren : Hosted Bool := do
  match ← request (.wait none ⟨true, false, false⟩ false) with
  | .ok _ => return false
  | .error e => return e = Errno.echild

/-- Does something while the shell can open only some more descriptors than the standard ones. -/
def withDescriptors {α : Type} (count : Nat) (body : Hosted α) : Hosted α := do
  let limit := (← process).limit
  change fun p => { p with limit := Fd.standardError + 1 + count }
  let value ← body
  change fun p => { p with limit }
  return value

/-- Sets a variable of the environment of the shell, or takes it away. -/
def setVariable (name : String) (value : Option String) : Hosted Unit :=
  change fun p => { p with
    environment := p.environment.filter (fun entry => entry.1 ≠ name)
      ++ value.toList.map fun value => (name, Text.toOctets value) }

/-- Types a text on the terminal. -/
def type (text : String) : Hosted Unit :=
  modify fun host => { host with machine := host.machine.type (Text.toBytes text) }

/-- Writes a text into a file. -/
def writeFile (path text : String) : Hosted Unit := do
  let directory := (← process).directory
  modify fun host => { host with machine := { host.machine with
    files := host.machine.files.tryTo fun t => t.write directory (Text.toOctets path) text } }

/-- Sends a signal; whether there was anybody to receive it. -/
def signal (recipient : Recipient) (signal : Signal) : Hosted Bool := do
  return (← request (.signal recipient (some signal))).toOption.isSome

/-- Whether a path leads to something, as the shell sees it. -/
def isPresent (host : Host) (path : String) (m : Machine) : Bool :=
  let directory := (m.process? host.shell).elim FileTree.root (·.directory)
  (m.files.find directory true (Text.toOctets path)).toOption.isSome

/-- Runs the shell with some arguments; what its attendant hears of its end. -/
def runMain (arguments : List String) (host : Host) : Option WaitStatus × Host :=
  let (code, host) := (run (Interactive.main arguments)).run host
  let machine := match code with
    | some code => host.machine.finish host.shell (.exited (code % 256))
    | none => host.machine
  ((machine.process? host.shell).bind (·.report), { host with machine })

end Host
end JobControl
