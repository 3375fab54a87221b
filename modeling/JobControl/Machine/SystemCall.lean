import JobControl.FileTree

/-!
# System calls

The requests that any process of the machine makes of its system, each with the type of its answer.
All names and arguments are octets.

## Main definitions

* `SystemCall` — a request.
* `SystemCall.Answer c` — what the system may answer to `c`.
* `SystemCall.interrupted? c` — what a process is told when a signal ends the wait for `c`.
-/

namespace JobControl

/-- What a process does with a signal that it receives. -/
inductive Handling
  | default
  | ignore
  /-- The process asks for it when it is ready. -/
  | catch
  deriving DecidableEq

/-- Whom a signal is for. -/
inductive Recipient
  | process (pid : Pid)
  | group (group : Pid)
  | ownGroup
  deriving DecidableEq

/-- How a file is opened. -/
inductive OpenMode
  | read
  /-- For writing, empty; created if there is none. -/
  | overwrite
  /-- For writing, only if there is none yet. -/
  | create
  /-- For writing at its end; created if there is none. -/
  | append
  /-- For reading and writing; created if there is none. -/
  | update
  deriving DecidableEq

/-- How a process is placed among the others. -/
structure Identity where
  pid : Pid
  parent : Pid
  group : Pid
  session : Pid

/-- A request of a process to the system. -/
inductive SystemCall
  | read (fd : Fd) (count : Nat)
  | write (fd : Fd) (bytes : ByteArray)
  /-- Go back by some bytes, so that they are read again. -/
  | seekBack (fd : Fd) (count : Nat)
  /-- Open a file; a new one gets the permissions in `permissions` that are not masked. -/
  | openFile (path : String) (mode : OpenMode) (permissions : Nat) (closeOnExecute : Bool)
  | close (fd : Fd)
  /-- Make `target` a copy of `source`. -/
  | duplicate (source target : Fd)
  /-- A copy at a number from `least` on, closed when a program starts. -/
  | duplicateFrom (source least : Fd)
  | pipe (closeOnExecute : Bool)
  /-- Wait for a child, or for any; a signal may end the wait if `interruptible`. -/
  | wait (child : Option Pid) (flags : WaitFlags) (interruptible : Bool)
  /-- Send a signal, or only ask whether it could be sent. -/
  | signal (recipient : Recipient) (signal : Option Signal)
  | handling (signal : Signal)
  | setHandling (signal : Signal) (handling : Handling)
  /-- The signals caught since this was asked last. -/
  | takeSignals
  | identity
  | setGroup (pid group : Pid)
  | isTerminal (fd : Fd)
  | terminalGroup (fd : Fd)
  | setTerminalGroup (fd : Fd) (group : Pid)
  | modes (fd : Fd)
  | setModes (fd : Fd) (modes : Modes)
  /-- The height and the width of a terminal. -/
  | windowSize (fd : Fd)
  | setWindowSize (fd : Fd) (rows columns : Nat)
  | metadata (path : String) (follow : Bool)
  /-- What an open file is. -/
  | fileMetadata (fd : Fd)
  /-- Whether the process has a permission on a file. -/
  | access (path : String) (permission : Permission)
  /-- The names in a directory. -/
  | entries (path : String)
  | makeDirectory (path : String) (permissions : Nat)
  | makeFifo (path : String) (permissions : Nat)
  | makeSymlink (target path : String)
  /-- What a symbolic link says. -/
  | readSymlink (path : String)
  /-- Give a file another name. -/
  | link (source target : String)
  | remove (path : String)
  | removeDirectory (path : String)
  | rename (source target : String)
  | setMode (path : String) (mode : Nat)
  /-- Set when a file changed last, to the present moment if none is given. -/
  | setModified (path : String) (time : Option Nat)
  | changeDirectory (path : String)
  | workingDirectory
  /-- The permissions that new files do not get; they may be replaced. -/
  | mask (replacement : Option Nat)
  /-- The bound on descriptors; it may be replaced. -/
  | limit (replacement : Option Nat)
  /-- The time in microseconds. -/
  | now
  | sleepUntil (time : Nat)
  /-- Become another program; there is an answer only if that fails. -/
  | execute (path : String) (argv : List String) (environment : List (String × String))

namespace SystemCall

/-- What the system may answer to a request. -/
@[reducible] def Answer : SystemCall → Type
  | read _ _ => Except Errno ByteArray
  | write _ _ => Except Errno Nat
  | openFile _ _ _ _ => Except Errno Fd
  | duplicateFrom _ _ => Except Errno Fd
  | pipe _ => Except Errno (Fd × Fd)
  | wait _ _ _ => Except Errno (Pid × WaitStatus)
  | handling _ => Handling
  | takeSignals => List Signal
  | identity => Identity
  | isTerminal _ => Bool
  | terminalGroup _ => Except Errno Pid
  | modes _ => Except Errno Modes
  | windowSize _ => Except Errno (Nat × Nat)
  | metadata _ _ | fileMetadata _ => Except Errno FileStatus
  | entries _ => Except Errno (List String)
  | workingDirectory | readSymlink _ => Except Errno String
  | now | mask _ | limit _ => Nat
  | sleepUntil _ => Unit
  | execute _ _ _ => Errno
  | seekBack _ _ | close _ | duplicate _ _ | signal _ _ | setHandling _ _ | setGroup _ _
  | setTerminalGroup _ _ | setModes _ _ | setWindowSize _ _ _ | access _ _ | makeDirectory _ _
  | makeFifo _ _ | makeSymlink _ _
  | link _ _ | remove _ | removeDirectory _ | rename _ _ | setMode _ _ | setModified _ _
  | changeDirectory _ => Except Errno Unit

/-- What a process is told when a signal that it catches ends the wait for an answer; nothing if the
wait goes on. -/
def interrupted? : (c : SystemCall) → Option c.Answer
  | read _ _ | write _ _ | openFile _ _ _ _ | wait _ _ true => some (.error .eintr)
  | _ => none

end SystemCall
end JobControl
