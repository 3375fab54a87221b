import JobControl.Action

/-!
# The terminal of the shell

An interactive shell owns its terminal, lends it to the job in the foreground and takes it back,
with its modes, when that job ends or stops.  A detached shell never touches a terminal.

## Main definitions

* `Terminal` — detached, or owned by the shell.
* `Terminal.detach` — leaves every terminal alone.
* `Terminal.init` — takes possession of the terminal of standard input, if it is one.
* `Terminal.handTo`, `Terminal.reclaim` — lends the terminal and takes it back.
-/

namespace JobControl

/-- The terminal of a shell whose process group is `group`. -/
inductive Terminal
  | detached (group : Pid)
  /-- The modes are those to be restored when the terminal comes back. -/
  | owned (group : Pid) (modes : Option Modes)

namespace Terminal

/-- Whether the shell reads its lines from a terminal. -/
def isInteractive : Terminal → Bool
  | detached _ => false
  | owned _ _ => true

/-- The process group of the shell. -/
def shellGroup : Terminal → Pid
  | detached group | owned group _ => group

/-- A terminal that the shell never touches. -/
def detach : Action Terminal := do
  return detached (← Action.ownGroup)

/-- Stops the shell until its group has the terminal. -/
def waitForOwnership : Nat → Action (Except Errno Unit)
  | 0 => Action.unfinished
  | n + 1 => do
    let own ← Action.ownGroup
    match ← Action.terminalGroup with
    | .error e => return .error e
    | .ok owner =>
      if owner = own then return .ok ()
      match ← Action.signalGroup own .ttin with
      | .error e => return .error e
      | .ok () => waitForOwnership n

/-- Ignores some signals. -/
def ignore : List Signal → Action (Except Errno Unit)
  | [] => return .ok ()
  | signal :: rest => do
    match ← Action.setDisposition signal .ignore with
    | .error e => return .error e
    | .ok () => ignore rest

/-- Makes the shell the leader of its own group, which a session leader is already. -/
def leadGroup (pid : Pid) : Action (Except Errno Unit) := do
  match ← Action.setGroup pid pid with
  | .ok () => return .ok ()
  | .error e => return if e = Errno.eperm then .ok () else .error e

/-- Takes possession of the terminal that standard input is, as soon as it is free for the shell. -/
def claim : Action (Except Errno Terminal) := do
  match ← waitForOwnership (← Action.rounds) with
  | .error e => return .error e
  | .ok () =>
  match ← ignore Signal.jobControl with
  | .error e => return .error e
  | .ok () =>
  let pid ← Action.ownPid
  match ← leadGroup pid with
  | .error e => return .error e
  | .ok () =>
  match ← Action.setTerminalGroup pid with
  | .error e => return .error e
  | .ok () => return .ok (owned pid (← Action.modes).toOption)

/-- Takes possession of the terminal of standard input; a shell whose standard input is none stays
detached.  Ended children have to be reported whatever the shell was started with. -/
def init : Action (Except Errno Terminal) := do
  match ← Action.setDisposition .chld .default with
  | .error e => return .error e
  | .ok () =>
    if ← Action.isTerminal then claim else return .ok (← detach)

/-- Lends the terminal to a group. -/
def handTo (t : Terminal) (group : Pid) : Action Unit := do
  if t.isInteractive then
    if let .error e ← Action.setTerminalGroup group then
      Action.log (.handOverFailed group e)

/-- Takes the terminal back and restores its modes. -/
def reclaim (t : Terminal) : Action Unit := do
  t.handTo t.shellGroup
  if let owned _ (some modes) := t then
    if let .error e ← Action.setModes modes then
      Action.log (.modesFailed e)

end Terminal
end JobControl
