/-!
# Signals

The thirty-one signals that have names, with their numbers, the signals after them that have numbers
only, and what a process does by default when it receives one.

## Main definitions

* `Signal` — the signals.
* `Signal.number`, `Signal.ofNumber?` — their numbers.
* `Signal.name`, `Signal.ofName?` — their names.
* `Signal.jobControl` — the signals meant for the foreground job and never for the shell.
* `Signal.defaultEffect` — what happens to a process that has not arranged anything.
-/

namespace JobControl

/-- A signal. -/
inductive Signal
  | hup | int | quit | ill | trap | abrt | bus | fpe | kill | usr1 | segv | usr2 | pipe | alrm
  | term | stkflt | chld | cont | stop | tstp | ttin | ttou | urg | xcpu | xfsz | vtalrm | prof
  | winch | io | pwr | sys
  /-- One of the signals without a meaning of their own, which come after all others. -/
  | realtime (index : Fin 33)
  deriving DecidableEq

namespace Signal

/-- The signals with their names, in the order of their numbers, which start at one. -/
def table : List (Signal × String) :=
  [(hup, "SIGHUP"), (int, "SIGINT"), (quit, "SIGQUIT"), (ill, "SIGILL"), (trap, "SIGTRAP"),
   (abrt, "SIGABRT"), (bus, "SIGBUS"), (fpe, "SIGFPE"), (kill, "SIGKILL"), (usr1, "SIGUSR1"),
   (segv, "SIGSEGV"), (usr2, "SIGUSR2"), (pipe, "SIGPIPE"), (alrm, "SIGALRM"), (term, "SIGTERM"),
   (stkflt, "SIGSTKFLT"), (chld, "SIGCHLD"), (cont, "SIGCONT"), (stop, "SIGSTOP"),
   (tstp, "SIGTSTP"), (ttin, "SIGTTIN"), (ttou, "SIGTTOU"), (urg, "SIGURG"), (xcpu, "SIGXCPU"),
   (xfsz, "SIGXFSZ"), (vtalrm, "SIGVTALRM"), (prof, "SIGPROF"), (winch, "SIGWINCH"),
   (io, "SIGIO"), (pwr, "SIGPWR"), (sys, "SIGSYS")]

/-- The number of the first signal that has no name. -/
def firstRealtime : Nat := 32

/-- The number of a signal. -/
def number : Signal → Nat
  | realtime index => firstRealtime + index
  | s => table.findIdx (fun row => row.1 = s) + 1

/-- The signal with a number. -/
def ofNumber? (n : Nat) : Option Signal :=
  if n = 0 then none
  else if n < firstRealtime then (table[n - 1]?).map (·.1)
  else if h : n - firstRealtime < 33 then some (realtime ⟨n - firstRealtime, h⟩)
  else none

/-- The name of a signal. -/
def name (s : Signal) : String :=
  match table.find? fun row => row.1 = s with
  | some row => row.2
  | none => s!"SIG{s.number}"

/-- The signal with a name. -/
def ofName? (name : String) : Option Signal :=
  (table.find? fun row => row.2 = name).map (·.1)

/-- The signals by which a terminal controls the foreground job. -/
def jobControl : List Signal := [int, quit, tstp, ttin, ttou]

/-- What a signal does to a process. -/
inductive Effect
  | terminate
  | stop
  | resume
  | nothing
  deriving DecidableEq

/-- What a signal does to a process that neither ignores nor catches it. -/
def defaultEffect : Signal → Effect
  | stop | tstp | ttin | ttou => .stop
  | cont => .resume
  | chld | urg | winch => .nothing
  | _ => .terminate

/-- Whether a process killed by the signal leaves a memory image. -/
def dumpsCore : Signal → Bool
  | quit | ill | trap | abrt | bus | fpe | segv | xcpu | xfsz | sys => true
  | _ => false

/-- Whether a signal is one of those that have names. -/
def isNamed : Signal → Bool
  | realtime _ => false
  | _ => true

theorem ofNumber?_number (s : Signal) : ofNumber? s.number = some s := by
  cases s with
  | realtime index =>
    have large : ¬ 32 + index.val < 32 := by omega
    simp [ofNumber?, number, firstRealtime, large]
  | _ => rfl

end Signal
end JobControl
