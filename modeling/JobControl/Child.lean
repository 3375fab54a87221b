import JobControl.Rejection
import JobControl.Signal

/-!
# Children

What the shell starts as a process of its own: a program with the descriptors that replace its
standard input and output and the process group that it joins.  Everything is settled before the
process exists, so a child only carries out a fixed list of steps.

## Main definitions

* `Program` — a program found, with its arguments.
* `Child` — a program with its place in a pipeline.
* `Child.steps` — what the new process does, in order.
-/

namespace JobControl

/-- The number of an open descriptor of a process. -/
abbrev Fd := Nat

namespace Fd

def standardInput : Fd := 0
def standardOutput : Fd := 1
def standardError : Fd := 2

end Fd

/-- A program that was found, ready to be executed. -/
structure Program where
  /-- The name by which the line called it. -/
  name : String
  /-- The file that was found. -/
  path : List UInt8
  /-- The arguments it is executed with; the first is the path. -/
  argv : List (List UInt8)
  deriving DecidableEq

namespace Program

/-- What a child writes on standard error when it cannot execute its program. -/
def failureText (p : Program) (errno : Errno) : String := s!"jobsh: {p.name}: {errno.brief}\n"

/-- The exit status of a child that cannot execute its program. -/
def failureStatus : Nat := 126

end Program

/-- A process to be started for one stage of a pipeline. -/
structure Child where
  program : Program
  /-- The descriptor that becomes standard input. -/
  input : Option Fd
  /-- The descriptor that becomes standard output. -/
  output : Option Fd
  /-- The process group to join; without one the child leads a new group. -/
  group : Option Pid
  deriving DecidableEq

/-- One step of a new process. -/
inductive ChildStep
  /-- Treat a signal in the default way. -/
  | restore (signal : Signal)
  /-- Join a process group, or lead a new one. -/
  | join (group : Option Pid)
  /-- Make `target` a copy of `source`. -/
  | duplicate (source target : Fd)
  /-- Become the program. -/
  | execute
  deriving DecidableEq

namespace Child

/-- The steps of a new process: default signals, the group, the descriptors, the program. -/
def steps (c : Child) : List ChildStep :=
  (Signal.jobControl ++ [Signal.chld]).map .restore
    ++ [.join c.group]
    ++ (c.input.toList.map fun fd => .duplicate fd Fd.standardInput)
    ++ (c.output.toList.map fun fd => .duplicate fd Fd.standardOutput)
    ++ [.execute]

end Child
end JobControl
