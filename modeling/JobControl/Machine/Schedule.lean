import JobControl.Machine.Perform

/-!
# Running the machine

All running processes take steps in turn.  Time passes with every turn; when every process waits, it
passes at once up to the moment that one of them waits for.

## Main definitions

* `Machine.step` — one step of a process.
* `Machine.turn` — one step of every process.
* `Machine.runUntil` — turns until something can be had.
-/

namespace JobControl.Machine

/-- What a waiting process is told when it has caught a signal that it has not asked for. -/
def interruption? (m : Machine) (pid : Pid) (request : SystemCall) : Option request.Answer :=
  if (m.process? pid).any fun p => p.condition = .running && !p.noticed.isEmpty then
    request.interrupted?
  else none

/-- Whether a process goes on at once after a request: asking for signals takes no time. -/
def isInstant : SystemCall → Bool
  | .takeSignals => true
  | _ => false

/-- How many requests that take no time a step has room for. -/
def maxInstant : Nat := 64

/-- One step of a process with some requests on the way that take no time, and whether it did
anything. -/
def stepFrom (m : Machine) (pid : Pid) : Nat → Machine × Bool
  | 0 => (m, true)
  | n + 1 =>
    match m.process? pid with
    | none => (m, false)
    | some p =>
      if p.condition ≠ .running then (m, false)
      else if let some doom := p.doom then
        if m.isDue doom then (m.finish pid (.signaled doom.signal doom.signal.dumpsCore), true)
        else (m, true)
      else
        match p.task with
        | .external => (m, false)
        | .exit code => (m.finish pid (.exited (code % 256)), true)
        | .fork child next =>
          let (m, pid') := m.startChild pid p child
          (m.update pid fun p => { p with task := next (.ok pid') }, true)
        | .call request next =>
          match m.perform pid p request with
          | (m, .answer answer) =>
            let m := m.update pid fun p => { p with isWaiting := false, task := next answer }
            if isInstant request then m.stepFrom pid n else (m, true)
          | (m, .changed) => (m, true)
          | (m, .later) =>
            match m.interruption? pid request with
            | some answer =>
              (m.update pid fun p =>
                { p with
                  opening := none, deadline := none, isWaiting := false, task := next answer },
                true)
            | none =>
              (if p.isWaiting then m else m.update pid fun p => { p with isWaiting := true }, false)

/-- One step of a process, and whether it did anything. -/
def step (m : Machine) (pid : Pid) : Machine × Bool := m.stepFrom pid maxInstant

/-- How much time a turn takes, in microseconds. -/
def turnTime : Nat := 200

/-- The first moment that a process waits for. -/
def nextWaking (m : Machine) : Option Nat :=
  m.processes.foldl (fun first (_, p) =>
    let earlier (time : Nat) : Option Nat := some (first.elim time (Nat.min time))
    match p.condition, p.task, p.deadline with
    | .running, .call (.sleepUntil time) _, _ => earlier time
    | .running, _, some time => earlier time
    | _, _, _ => first) none

/-- The machine at another moment. -/
def atTime (m : Machine) (clock : Nat) : Machine :=
  { m with clock, files := { m.files with now := clock } }

/-- One step of every process; nothing if all of them wait for one another. -/
def turn (m : Machine) : Option Machine :=
  let (m, moved) := (m.processes.map (·.1)).foldl (fun (m, moved) pid =>
    let (m, did) := m.step pid
    (m, moved || did)) (m, false)
  if moved then some (m.atTime (m.clock + turnTime))
  else m.nextWaking.map fun time => m.atTime (Nat.max time (m.clock + turnTime))

/-- Lets the machine run until something can be had, or nothing moves any more. -/
def runUntil {α : Type} (attempt : Machine → Machine × Option α) (m : Machine) :
    Nat → Machine × Option α
  | 0 => (m, none)
  | turns + 1 =>
    match attempt m with
    | (m, some a) => (m, some a)
    | (m, none) =>
      match m.turn with
      | some m => runUntil attempt m turns
      | none => (m, none)

/-- How many turns are taken at most. -/
def maxTurns : Nat := 100000000

end JobControl.Machine
