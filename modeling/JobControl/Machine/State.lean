import JobControl.Descriptors
import JobControl.FileTree.Changes
import JobControl.Machine.Task

/-!
# The state of the machine

A machine is a file tree, open files, pipes, processes and one terminal.

## Main definitions

* `OpenFile`, `PipeName` — an open file, and a pipe.
* `Process`, `Condition` — a process.
* `Console` — the terminal.
* `Machine` — all of it.
-/

namespace JobControl

/-- A pipe: one of its own, or that of a name in the file tree. -/
inductive PipeName
  | anonymous (number : Nat)
  | named (ino : Ino)
  deriving DecidableEq

/-- What an open file reads from and writes to. -/
inductive Endpoint
  | node (ino : Ino)
  | pipe (pipe : PipeName)
  /-- A text that the system made when the file was opened. -/
  | text (content : ByteArray)
  /-- A directory that the system makes up. -/
  | listing

/-- An open file. -/
structure OpenFile where
  endpoint : Endpoint
  readable : Bool
  writable : Bool
  /-- Whether everything is written at the end. -/
  append : Bool := false
  /-- The place of the next byte. -/
  offset : Nat := 0

/-- Whether a process goes on. -/
inductive Condition
  | running
  | stopped
  | ended
  deriving DecidableEq

/-- The usual bound on descriptors, and the permissions that a new file usually does not get. -/
def defaultLimit : Nat := 1024
def defaultMask : Nat := 0o022

/-- A named pipe that a process waits to open. -/
structure Opening where
  ino : Ino
  /-- Whether it is opened for writing. -/
  writing : Bool
  /-- How often the other end had been opened when the wait began. -/
  met : Nat

/-- The end that another process has in store for one by a signal. -/
structure Doom where
  signal : Signal
  sender : Pid
  /-- When the signal was sent. -/
  time : Nat

/-- A process. -/
structure Process where
  parent : Pid
  group : Pid
  session : Pid
  /-- The working directory. -/
  directory : Ino
  descriptors : Descriptors Nat
  /-- All descriptors are below this number. -/
  limit : Nat := defaultLimit
  /-- The permissions that its new files do not get. -/
  mask : Nat := defaultMask
  ignored : List Signal := []
  caught : List Signal := []
  /-- Signals that wait for a stopped process to go on. -/
  held : List Signal := []
  /-- Signals caught and not yet asked for. -/
  noticed : List Signal := []
  condition : Condition := .running
  /-- Whether it waits for an answer. -/
  isWaiting : Bool := false
  /-- The last change that its parent has not asked for. -/
  report : Option WaitStatus := none
  /-- The end that is in store for it; it does nothing any more. -/
  doom : Option Doom := none
  /-- The named pipe that it waits to open. -/
  opening : Option Opening := none
  /-- The moment at which it stops waiting for input. -/
  deadline : Option Nat := none
  /-- The name of its program, and the file that holds it. -/
  name : String
  image : Option Ino := none
  environment : List (String × String)
  task : Task

/-- The terminal. -/
structure Console where
  modes : Modes := .initial
  /-- Its height and width, if they are known. -/
  rows : Nat := 0
  columns : Nat := 0
  /-- The session that it controls. -/
  session : Option Pid := none
  /-- The process group that it is in the hands of. -/
  foreground : Pid := 0
  /-- The bytes of complete lines; those at which a line ends are marked. -/
  lines : List (UInt8 × Bool) := []
  /-- The bytes typed after them, the last one first. -/
  editing : List UInt8 := []
  /-- Whether the next byte stands for itself. -/
  quoting : Bool := false
  /-- Whether its output is held up. -/
  stopped : Bool := false
  /-- Bytes for which there was no room yet. -/
  arriving : List UInt8 := []

/-- What the programs of the machine do: the routine of the program with a name, for its arguments
and its environment. -/
abbrev Programs := String → Option (List String → List (String × String) → Routine Nat)

/-- A machine. -/
structure Machine where
  files : FileTree
  programs : Programs
  opened : Array OpenFile := #[]
  pipes : List (PipeName × ByteArray) := []
  /-- How often each named pipe was opened for reading and for writing. -/
  meetings : List (Ino × Nat × Nat) := []
  processes : List (Pid × Process) := []
  nextPid : Pid
  nextPipe : Nat := 0
  console : Console := {}
  /-- The time in microseconds. -/
  clock : Nat := 0
  logs : List LogEntry := []

namespace Machine

/-- The process that adopts orphans. -/
def initPid : Pid := 1

/-- A process by its number. -/
def process? (m : Machine) (pid : Pid) : Option Process := m.processes.lookup pid

/-- The machine with a process changed. -/
def update (m : Machine) (pid : Pid) (change : Process → Process) : Machine :=
  { m with processes := m.processes.map fun entry =>
      if entry.1 = pid then (pid, change entry.2) else entry }

/-- The machine without a process. -/
def discard (m : Machine) (pid : Pid) : Machine :=
  { m with processes := m.processes.filter fun entry => entry.1 ≠ pid }

/-- The processes that have not ended. -/
def alive (m : Machine) : List (Pid × Process) :=
  m.processes.filter fun entry => entry.2.condition ≠ .ended

/-- The living members of a group. -/
def membersOf (m : Machine) (group : Pid) : List Pid :=
  (m.alive.filter fun entry => entry.2.group = group).map (·.1)

/-- Whether no living member of a group has its parent in the same session and another group. -/
def isOrphaned (m : Machine) (group : Pid) : Bool :=
  !m.alive.any fun (_, p) => p.group = group &&
    (m.process? p.parent).any fun parent =>
      parent.condition ≠ .ended && parent.session = p.session && parent.group ≠ group

/-- Whether a group has a stopped member. -/
def hasStopped (m : Machine) (group : Pid) : Bool :=
  m.processes.any fun (_, p) => p.group = group && p.condition = .stopped

/-- An open file of a process. -/
def file? (m : Machine) (p : Process) (fd : Fd) : Option (Nat × OpenFile) :=
  (p.descriptors.target? fd).bind fun handle => (m.opened[handle]?).map fun file => (handle, file)

/-- The machine with an open file changed. -/
def setFile (m : Machine) (handle : Nat) (file : OpenFile) : Machine :=
  { m with opened := m.opened.modify handle fun _ => file }

/-- The bytes in a pipe. -/
def pipeContent (m : Machine) (pipe : PipeName) : ByteArray :=
  (m.pipes.lookup pipe).getD ByteArray.empty

/-- The machine with other bytes in a pipe. -/
def setPipe (m : Machine) (pipe : PipeName) (content : ByteArray) : Machine :=
  { m with pipes := (pipe, content) :: m.pipes.filter fun entry => entry.1 ≠ pipe }

/-- Whether some process holds an open file. -/
def holdsFile (m : Machine) (holds : OpenFile → Bool) : Bool :=
  m.processes.any fun (_, p) =>
    p.descriptors.any fun (_, slot) => (m.opened[slot.target]?).any holds

/-- Whether some process holds an end of a pipe or waits to open it. -/
def holdsEnd (m : Machine) (pipe : PipeName) (writing : Bool) : Bool :=
  (m.holdsFile fun file =>
    (if writing then file.writable else file.readable) && match file.endpoint with
      | .pipe name => name = pipe
      | _ => false) ||
  (m.alive.any fun (_, p) => p.opening.any fun opening =>
    .named opening.ino = pipe && opening.writing = writing)

/-- Whether some process can write into a pipe. -/
def hasWriter (m : Machine) (pipe : PipeName) : Bool := m.holdsEnd pipe true

/-- Whether some process can read from a pipe. -/
def hasReader (m : Machine) (pipe : PipeName) : Bool := m.holdsEnd pipe false

/-- Whether some process carries out the program in a file. -/
def isExecuted (m : Machine) (ino : Ino) : Bool := m.alive.any fun (_, p) => p.image = some ino

/-- Whether some process can write to a file. -/
def isWritten (m : Machine) (ino : Ino) : Bool :=
  m.holdsFile fun file => file.writable && match file.endpoint with
    | .node other => other = ino
    | _ => false

/-- Whether the user of the processes has a permission on a file. -/
def allows (m : Machine) (ino : Ino) (permission : Permission) : Bool :=
  m.files.allows ino permission

end Machine
end JobControl
