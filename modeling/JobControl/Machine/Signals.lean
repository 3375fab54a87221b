import JobControl.Machine.State

/-!
# Signals and the end of processes

A signal is ignored, kept for a process that catches it or is stopped, or has its default effect.  A
stop that the terminal asks for has no effect on a group that nobody could let go on again, and a
group that comes into this state with stopped members is hung up.

## Main definitions

* `Machine.deliver` — sends a signal to a process.
* `Machine.finish` — ends a process.
* `Machine.deliverGroup` — sends a signal to all members of a group.
-/

namespace JobControl.Machine

/-- Whether a process takes no notice of a signal. -/
def disregards (p : Process) (signal : Signal) : Bool :=
  signal ≠ .kill && signal ≠ .stop &&
    (p.ignored.contains signal || (!p.caught.contains signal && signal.defaultEffect = .nothing))

/-- The children of a process that ended: those still alive are adopted, the others are gone. -/
def orphan (m : Machine) (pid : Pid) : Machine :=
  { m with processes := m.processes.filterMap fun (child, p) =>
      if p.parent = pid then
        if p.condition = .ended then none else some (child, { p with parent := initPid })
      else some (child, p) }

/-- The parent of a process catches that the process has changed. -/
def notifyParent (m : Machine) (pid : Pid) : Machine :=
  match m.process? pid with
  | none => m
  | some p => m.update p.parent fun parent =>
    if parent.caught.contains .chld && !parent.noticed.contains .chld then
      { parent with noticed := parent.noticed ++ [.chld] }
    else parent

/-- Marks a process as ended.  It has nothing open any more; if nobody will ask for its end, it is
gone. -/
def bury (m : Machine) (pid : Pid) (status : WaitStatus) : Machine :=
  let m := (m.update pid fun p =>
    { p with
      condition := .ended, report := some status, descriptors := [], opening := none
      task := .external }).orphan pid
  match m.process? pid with
  | some p => if (m.process? p.parent).isNone then m.discard pid else m.notifyParent pid
  | none => m

/-- The groups that the end of a process may leave to themselves: its own and those of its
children. -/
def concerned (m : Machine) (pid : Pid) : List Pid :=
  let ofConcern := m.alive.filter fun (child, p) => child = pid || p.parent = pid
  (ofConcern.map fun (_, p) => p.group).eraseDups

mutual

/-- Sends signals to a process, one after the other; `depth` bounds the chain of ends that they may
cause. -/
def deliverAll (m : Machine) (pid : Pid) (signals : List Signal) : Nat → Machine
  | 0 => m
  | depth + 1 => signals.foldl (fun m signal => deliverOne m pid signal depth) m

/-- Ends a process, and hangs up the stopped groups that this leaves to themselves. -/
def finishIn (m : Machine) (pid : Pid) (status : WaitStatus) : Nat → Machine
  | 0 => m.bury pid status
  | depth + 1 =>
    let before := (m.concerned pid).filter fun group => !m.isOrphaned group
    let leaderOf := (m.process? pid).bind fun p =>
      if p.session = pid && m.console.session = some pid then some m.console.foreground else none
    let m := m.bury pid status
    let m := match leaderOf with
      | none => m
      | some group =>
        (m.membersOf group).foldl (fun m member => deliverAll m member [.hup, .cont] depth)
          { m with console := { m.console with session := none } }
    before.foldl (fun m group =>
      if m.isOrphaned group && m.hasStopped group then
        (m.membersOf group).foldl (fun m member => deliverAll m member [.hup, .cont] depth) m
      else m) m

/-- Sends a signal to a process. -/
def deliverOne (m : Machine) (pid : Pid) (signal : Signal) : Nat → Machine
  | 0 => m
  | depth + 1 =>
    match m.process? pid with
    | none => m
    | some p =>
      if p.doom.isSome then m
      else match p.condition with
      | .ended => m
      | .stopped =>
        if signal = .kill then finishIn m pid (.signaled .kill false) depth
        else if signal = .cont then
          let held := p.held.filter fun s => s.defaultEffect ≠ .stop
          let m := m.update pid fun p =>
            { p with condition := .running, report := some .continued, held := [] }
          let m := m.notifyParent pid
          deliverAll m pid (held ++ if p.caught.contains .cont then [.cont] else []) depth
        else if disregards p signal || p.held.contains signal then m
        else m.update pid fun p => { p with held := p.held ++ [signal] }
      | .running =>
        if disregards p signal then m
        else if p.caught.contains signal then
          if p.noticed.contains signal then m
          else m.update pid fun p => { p with noticed := p.noticed ++ [signal] }
        else
          match signal.defaultEffect with
          | .terminate => finishIn m pid (.signaled signal signal.dumpsCore) depth
          | .stop =>
            if signal ≠ .stop && m.isOrphaned p.group then m
            else (m.update pid fun p =>
              { p with condition := .stopped, report := some (.stopped signal) }).notifyParent pid
          | .resume | .nothing => m

end

/-- How long a chain of ends can be. -/
def depth (m : Machine) : Nat := 4 * m.processes.length + 8

/-- Sends a signal to a process. -/
def deliver (m : Machine) (pid : Pid) (signal : Signal) : Machine := m.deliverOne pid signal m.depth

/-- Ends a process. -/
def finish (m : Machine) (pid : Pid) (status : WaitStatus) : Machine :=
  m.finishIn pid status m.depth

/-- Whether a signal ends a process. -/
def isFatal (p : Process) (signal : Signal) : Bool :=
  signal = .kill || (p.condition = .running && !p.ignored.contains signal &&
    !p.caught.contains signal && signal.defaultEffect = .terminate)

/-- How long it takes at most until a process ends that another process has sent a signal. -/
def doomTime : Nat := 5000

/-- Sends a signal from one process of the machine to another.  One that ends because of it does so
when the sender waits for something; before that, the sender is quicker. -/
def deliverFrom (m : Machine) (sender pid : Pid) (signal : Signal) : Machine :=
  match m.process? sender, m.process? pid with
  | some s, some p =>
    let isOutside := match s.task with
      | .external => true
      | _ => false
    if isOutside || sender = pid || p.condition = .ended || p.doom.isSome || !isFatal p signal then
      m.deliver pid signal
    else m.update pid fun p => { p with
      condition := .running, held := [], doom := some { signal, sender, time := m.clock } }
  | _, _ => m

/-- Whether it is time for an end that is in store. -/
def isDue (m : Machine) (d : Doom) : Bool :=
  m.clock ≥ d.time + doomTime || (m.process? d.sender).all fun s =>
    s.condition ≠ .running || s.isWaiting

/-- Sends a signal to all members of a group. -/
def deliverGroup (m : Machine) (group : Pid) (signal : Signal) : Machine :=
  (m.membersOf group).foldl (fun m pid => m.deliver pid signal) m

end JobControl.Machine
