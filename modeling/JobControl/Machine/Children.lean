import JobControl.Machine.Signals

/-!
# Children

Starting processes, waiting for them and putting them into groups.

## Main definitions

* `Machine.startChild` — starts a process.
* `Machine.waitFor` — asks for a change of a child.
* `Machine.placeIn` — puts a process into a group.
* `Machine.send` — sends a signal to a process or a group.
-/

namespace JobControl.Machine

/-- Starts a process that has all its parent has. -/
def startChild (m : Machine) (pid : Pid) (p : Process) (task : Task) : Machine × Pid :=
  let child := m.nextPid
  let process : Process :=
    { p with
      parent := pid, held := [], noticed := [], report := none, opening := none, deadline := none
      isWaiting := false, task }
  ({ m with nextPid := child + 1, processes := m.processes ++ [(child, process)] }, child)

/-- The change of a process that a wait with some flags is told of. -/
def change? (p : Process) (flags : WaitFlags) : Option WaitStatus :=
  match p.report with
  | some (.stopped signal) => if flags.untraced then some (.stopped signal) else none
  | some .continued => if flags.continued then some .continued else none
  | report => report

/-- The children of a process that a wait is about. -/
def candidates (m : Machine) (pid : Pid) (child : Option Pid) : List (Pid × Process) :=
  m.processes.filter fun (other, p) => p.parent = pid && child.all fun child => child = other

/-- Asks for a change of a child.  There is no answer yet while a child may still change. -/
def waitFor (m : Machine) (pid : Pid) (child : Option Pid) (flags : WaitFlags) :
    Machine × Option (Except Errno (Pid × WaitStatus)) :=
  let candidates := m.candidates pid child
  let changes := candidates.filterMap fun (other, p) =>
    (change? p flags).map fun status => (other, status)
  match candidates, changes with
  | [], _ => (m, some (.error .echild))
  | _, (other, status) :: _ =>
    let m :=
      if status.state = .done then m.discard other
      else m.update other fun p => { p with report := none }
    (m, some (.ok (other, status)))
  | (other, _) :: _, [] => (m, if flags.noHang then some (.ok (other, .stillAlive)) else none)

/-- Puts a process, the caller or a child of it, into a group. -/
def placeIn (m : Machine) (caller pid group : Pid) : Machine × Except Errno Unit :=
  match m.process? pid with
  | none => (m, .error .esrch)
  | some p =>
    if pid ≠ caller && p.parent ≠ caller then (m, .error .esrch)
    else if p.session = pid then (m, .error .eperm)
    else if group ≠ pid && !m.processes.any fun (_, other) =>
        other.group = group && other.session = p.session then (m, .error .eperm)
    else (m.update pid fun p => { p with group }, .ok ())

/-- Sends a signal to a process or to all members of a group; without a signal, only says whether
there is anybody to receive one. -/
def send (m : Machine) (sender : Pid) (p : Process) (recipient : Recipient)
    (signal : Option Signal) : Machine × Except Errno Unit :=
  let toGroup (group : Pid) : Machine × Except Errno Unit :=
    if m.processes.any fun (_, member) => member.group = group then
      let toAll (signal : Signal) : Machine :=
        (m.membersOf group).foldl (fun m pid => m.deliverFrom sender pid signal) m
      (signal.elim m toAll, .ok ())
    else (m, .error .esrch)
  match recipient with
  | .process pid =>
    if pid = initPid then (m, .error .eperm)
    else if (m.process? pid).isSome then
      (signal.elim m fun signal => m.deliverFrom sender pid signal, .ok ())
    else (m, .error .esrch)
  | .group group => toGroup group
  | .ownGroup => toGroup p.group

end JobControl.Machine
