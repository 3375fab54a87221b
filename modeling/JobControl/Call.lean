import JobControl.Child
import JobControl.Message
import JobControl.Modes

/-!
# Calls

The requests that the shell makes of the system it runs on, each with the type of its answer.  What
the system answers with, and what is made of it, need not be text: a variable, a path found by one
and the working directory are bytes.

## Main definitions

* `Call` — a request.
* `Call.Answer c` — what the system may answer to `c`.
* `Event` — a call with the answer it got.
-/

namespace JobControl

/-- What a name in the file tree stands for. -/
inductive FileKind
  | regular
  | directory
  | symlink
  | fifo
  | device
  deriving DecidableEq

/-- What the system says of a file. -/
structure Metadata where
  kind : FileKind
  /-- The permission bits. -/
  mode : Nat
  /-- The number of bytes of a regular file. -/
  size : Nat
  deriving DecidableEq

namespace Metadata

/-- Whether the file can be executed by someone: a regular file with an execute bit. -/
def isRunnable (m : Metadata) : Bool := m.kind = .regular && m.mode &&& 0o111 ≠ 0

end Metadata

/-- Which changes of a child a wait asks for, besides its end. -/
structure WaitFlags where
  /-- Answer at once, even when there is nothing to report. -/
  noHang : Bool
  /-- Report that the child stopped. -/
  untraced : Bool
  /-- Report that the child went on. -/
  continued : Bool
  deriving DecidableEq

namespace WaitFlags

/-- Wait until the child ends or stops. -/
def untilStopped : WaitFlags := ⟨false, true, false⟩

/-- Collect any change without waiting. -/
def collect : WaitFlags := ⟨true, true, true⟩

end WaitFlags

/-- How a process treats a signal. -/
inductive Disposition
  | default
  | ignore
  deriving DecidableEq

/-- A request of the shell to the system. -/
inductive Call
  /-- The value of a variable of the environment. -/
  | environment (name : String)
  /-- What a path leads to, through symbolic links. -/
  | metadata (path : List UInt8)
  /-- Open a file for reading. -/
  | openInput (path : String)
  /-- Open a file for writing, empty; create it if there is none. -/
  | openOutput (path : String)
  /-- Make a pipe: its reading and its writing end. -/
  | pipe
  | close (fd : Fd)
  /-- Start a process. -/
  | fork (child : Child)
  /-- Put a process into a group. -/
  | setGroup (pid group : Pid)
  /-- Wait for a child. -/
  | wait (pid : Pid) (flags : WaitFlags)
  /-- Send a signal to every member of a group. -/
  | signalGroup (group : Pid) (signal : Signal)
  | setDisposition (signal : Signal) (disposition : Disposition)
  /-- Whether standard input is a terminal. -/
  | isTerminal
  | ownPid
  | ownGroup
  /-- The group that the terminal of standard input is in the hands of. -/
  | terminalGroup
  | setTerminalGroup (group : Pid)
  | modes
  | setModes (modes : Modes)
  | changeDirectory (path : List UInt8)
  | workingDirectory
  /-- The next bytes of standard input; none at its end. -/
  | readInput
  | say (message : Message)
  | log (entry : LogEntry)

namespace Call

/-- What the system may answer to a request. -/
@[reducible] def Answer : Call → Type
  | environment _ => Option (List UInt8)
  | metadata _ => Except Errno Metadata
  | openInput _ | openOutput _ => Except Errno Fd
  | pipe => Except Errno (Fd × Fd)
  | fork _ => Except Errno Pid
  | wait _ _ => Except Errno WaitStatus
  | setGroup _ _ | signalGroup _ _ | setDisposition _ _ => Except Errno Unit
  | isTerminal => Bool
  | ownPid | ownGroup => Pid
  | terminalGroup => Except Errno Pid
  | setTerminalGroup _ | setModes _ | changeDirectory _ => Except Errno Unit
  | modes => Except Errno Modes
  | workingDirectory | readInput => Except Errno (List UInt8)
  | close _ | say _ | log _ => Unit

end Call

/-- A request with the answer it got. -/
structure Event where
  call : Call
  answer : call.Answer

end JobControl
