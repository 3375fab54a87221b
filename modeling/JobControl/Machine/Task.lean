import JobControl.Machine.SystemCall
import JobControl.Text.Octets

/-!
# Tasks

What a process has still to do: end, make a request of the system and go on, or start another
process.  A routine that yields a value is written as a task with a task to follow.

## Main definitions

* `Task` — what a process has still to do.
* `Routine α` — a part of a task that yields a value of type `α`.
* `Routine.call`, `Routine.fork`, `Routine.exit` — the steps of a routine.
* `Routine.writeAll`, `Routine.readAll` — writing a text and reading to the end.
-/

namespace JobControl

/-- What a process has still to do. -/
inductive Task
  | exit (code : Nat)
  | call (request : SystemCall) (next : request.Answer → Task)
  | fork (child : Task) (next : Except Errno Pid → Task)
  /-- The process is carried on from outside the machine. -/
  | external

/-- A part of a task that yields a value. -/
def Routine (α : Type) : Type := (α → Task) → Task

namespace Routine

instance : Monad Routine where
  pure a := fun next => next a
  bind r f := fun next => r fun a => f a next

/-- Makes a request. -/
def call (request : SystemCall) : Routine request.Answer := fun next => .call request next

/-- Ends the process. -/
def exit {α : Type} (code : Nat) : Routine α := fun _ => .exit code

/-- Starts a process that carries out a routine and ends with its value. -/
def fork (child : Routine Nat) : Routine (Except Errno Pid) :=
  fun next => .fork (child .exit) next

/-- The task of a routine that ends the process with its value. -/
def task (r : Routine Nat) : Task := r .exit

/-- How often a loop of a process goes round at most. -/
def rounds : Nat := 1000000000

/-- Writes bytes, piece by piece if they do not fit. -/
def writeBytes (fd : Fd) (bytes : ByteArray) : Nat → Routine (Except Errno Unit)
  | 0 => pure (.ok ())
  | n + 1 =>
    if bytes.isEmpty then pure (.ok ())
    else do
      match ← call (.write fd bytes) with
      | .error e => return .error e
      | .ok count => writeBytes fd (bytes.extract count bytes.size) n

/-- Writes bytes. -/
def writeAll (fd : Fd) (bytes : ByteArray) : Routine (Except Errno Unit) :=
  writeBytes fd bytes (bytes.size + 1)

/-- Writes octets. -/
def print (fd : Fd) (octets : String) : Routine Unit := do
  let _ ← writeAll fd (Text.octetArray octets)

/-- Writes octets on standard output. -/
def say (octets : String) : Routine Unit := print Fd.standardOutput octets

/-- Writes octets on standard error. -/
def complain (octets : String) : Routine Unit := print Fd.standardError octets

/-- The number of bytes that are read at a time. -/
def chunk : Nat := 65536

/-- Reads to the end, after what has been read. -/
def readRest (fd : Fd) (before : ByteArray) : Nat → Routine (Except Errno ByteArray)
  | 0 => pure (.ok before)
  | n + 1 => do
    match ← call (.read fd chunk) with
    | .error e => return .error e
    | .ok bytes => if bytes.isEmpty then return .ok before else readRest fd (before ++ bytes) n

/-- Reads to the end. -/
def readAll (fd : Fd) : Routine (Except Errno ByteArray) := readRest fd ByteArray.empty rounds

end Routine

end JobControl
