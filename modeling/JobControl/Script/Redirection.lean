import JobControl.Script.Expansion
import JobControl.Script.Jobs

/-!
# Redirections

A redirection gives a descriptor to another file.  What the descriptor was before is put back when
the command ends.

## Main definitions

* `Redirect.Expanded` — a redirection whose words are expanded.
* `Redirect.expand` — the redirections of a command.
* `Redirect.perform` — carries out redirections.
* `Redirect.during` — carries out something with redirections.
-/

namespace JobControl.Redirect

open Expansion (Substitution)

/-- A redirection whose words are expanded. -/
inductive Expanded
  | file (fd : Fd) (kind : RedirectKind) (path : String)
  /-- A copy of a descriptor, or nothing at all. -/
  | copy (fd : Fd) (source : Option Fd)
  | text (fd : Fd) (word : Word)

/-- The descriptor that is redirected. -/
def Expanded.fd : Expanded → Fd
  | file fd _ _ | copy fd _ | text fd _ => fd

/-- The descriptor that a text names; a dash stands for none. -/
def source (text : String) : Run (Option Fd) :=
  match text.toList with
  | ['-'] => return none
  | [d] => if d.isDigit then return some (d.toNat - '0'.toNat) else Run.fail problem
  | _ => Run.fail problem
where
  /-- What is wrong with any other text. -/
  problem : String := "Syntax error: Bad fd number"

/-- The redirections of a command, their words expanded. -/
def expand (substitution : Substitution) (redirects : List Redirect) : Run (List Expanded) :=
  redirects.mapM fun
    | .file fd kind name => return .file fd kind (← Expansion.text substitution .first name)
    | .copy fd name => return .copy fd (← source (← Expansion.text substitution .first name))
    | .document fd number => return .text fd (((← get).documents.lookup number).elim [] (·.word))

/-- The least descriptor that scripts use for themselves. -/
def leastOwn : Fd := 10

/-! ### Opening -/

/-- Complains that a file cannot be opened or made. -/
def complain {α : Type} (path : String) (creates : Bool) (e : Errno) : Run α :=
  let isMissing := e = .enoent || e = .enotdir
  let verb := if creates then "create" else "open"
  let reason := if !isMissing then e.sentence
    else if creates then "Directory nonexistent" else "No such file"
  Run.fail s!"cannot {verb} {path}: {reason}"

/-- Opens a file, even if signals interrupt it for which nothing is arranged. -/
def openFile (path : String) (mode : OpenMode) : Nat → Run (Except Errno Fd)
  | 0 => return .error .eintr
  | n + 1 => do
    match ← Run.call (.openFile path mode 0o666 false) with
    | .error e =>
      if e = .eintr then
        Run.notice
        if (← get).noticed.isEmpty then openFile path mode n else return .error e
      else return .error e
    | .ok fd => return .ok fd

/-- Opens a file for a redirection. -/
def openFor (path : String) (mode : OpenMode) : Run Fd := do
  match ← openFile path mode Routine.rounds with
  | .ok fd => return fd
  | .error e => complain path (mode ≠ .read) e

/-- Opens a file for writing that must not be there, unless it is no ordinary file. -/
def openUnclobbered (path : String) : Run Fd := do
  match ← Run.call (.metadata path true) with
  | .error _ => openFor path .create
  | .ok status =>
    if status.kind = .regular then complain path true .eexist
    else
      match ← openFile path .append Routine.rounds with
      | .ok fd => return fd
      | .error e => complain path false e

/-- How much of a text a pipe takes at once. -/
def pipeSize : Nat := 4096

/-- A descriptor from which a text is read. -/
def openText (evaluate : Evaluator) (substitution : Substitution) (word : Word) : Run Fd := do
  match ← Run.call (.pipe false) with
  | .error _ => Run.fail "Pipe call failed"
  | .ok (reading, writing) =>
    let content ← Expansion.text substitution .never word
    if content.length ≤ pipeSize then
      let _ ← Run.write writing content
    else
      Run.fork evaluate none .foreground do
        let _ ← Run.call (.close reading)
        for signal in [Signal.int, .quit, .hup, .tstp] do
          let _ ← Run.call (.setHandling signal .ignore)
        let _ ← Run.write writing content
        Run.lift (Routine.exit 0)
    let _ ← Run.call (.close writing)
    return reading

/-! ### Carrying out -/

/-- What a descriptor was before it was redirected. -/
structure Saved where
  fd : Fd
  /-- A copy of it, if it was open. -/
  kept : Option Fd

/-- Keeps a copy of a descriptor out of the way, and closes it. -/
def save (fd : Fd) : Run Saved := do
  match ← Run.call (.duplicateFrom fd leastOwn) with
  | .ok kept =>
    let _ ← Run.call (.close fd)
    return { fd, kept := some kept }
  | .error e =>
    if e = .ebadf then return { fd, kept := none }
    else
      let _ ← Run.call (.close fd)
      Run.fail s!"{fd}: {e.sentence}"

/-- Gives a descriptor to an open file. -/
def install (target opened : Fd) : Run Unit := do
  let answer ← Run.call (.duplicate opened target)
  let _ ← Run.call (.close opened)
  if let .error e := answer then Run.fail s!"{opened}: {e.sentence}"

/-- Carries out redirections after some that are saved; `keeps` if what was there before is kept. -/
def performFrom (evaluate : Evaluator) (substitution : Substitution) (keeps : Bool)
    (saved : List Saved) : List Expanded → Run (List Saved × Option Abort)
  | [] => return (saved, none)
  | r :: rest => do
    let isSaved := !keeps || saved.any fun s => s.fd = r.fd
    let saving : Run (List Saved) := do
      if isSaved then return saved
      return (← save r.fd) :: saved
    let attempt (opened : Run Fd) : Run (List Saved × Option Abort) := do
      match ← Run.attempt opened with
      | .error abort => return (saved, some abort)
      | .ok fd =>
        if fd = r.fd then
          let saved := if isSaved then saved else { fd, kept := none } :: saved
          performFrom evaluate substitution keeps saved rest
        else
          match ← Run.attempt saving with
          | .error abort => return (saved, some abort)
          | .ok saved =>
            match ← Run.attempt (install r.fd fd) with
            | .error abort => return (saved, some abort)
            | .ok () => performFrom evaluate substitution keeps saved rest
    match r with
    | .file _ kind path =>
      match kind with
      | .input => attempt (openFor path .read)
      | .append => attempt (openFor path .append)
      | .update => attempt (openFor path .update)
      | .output clobber =>
        if !clobber && (← get).isOn 'C' then attempt (openUnclobbered path)
        else attempt (openFor path .overwrite)
    | .text _ word => attempt (openText evaluate substitution word)
    | .copy fd source =>
      if source = some fd then performFrom evaluate substitution keeps saved rest
      else
        match ← Run.attempt saving with
        | .error abort => return (saved, some abort)
        | .ok saved =>
          match source with
          | none =>
            let _ ← Run.call (.close fd)
            performFrom evaluate substitution keeps saved rest
          | some source =>
            match ← Run.call (.duplicate source fd) with
            | .ok () => performFrom evaluate substitution keeps saved rest
            | .error e =>
              let complained ← Run.attempt (Run.fail (α := Unit) s!"{source}: {e.sentence}")
              return (saved, match complained with
                | .error abort => some abort
                | .ok () => none)

/-- Carries out redirections for good. -/
def perform (evaluate : Evaluator) (substitution : Substitution) (redirections : List Expanded) :
    Run Unit := do
  let (_, abort) ← performFrom evaluate substitution false [] redirections
  if let some abort := abort then throw abort

/-- Puts descriptors back. -/
def restore (saved : List Saved) : Run Unit := do
  for s in saved do
    match s.kept with
    | some kept => Run.move kept s.fd
    | none => let _ ← Run.call (.close s.fd)

/-- Lets redirections stay: the copies of what was there before are closed. -/
def abandon (saved : List Saved) : Run Unit := do
  for s in saved do
    if let some kept := s.kept then
      let _ ← Run.call (.close kept)

/-- Carries out something with redirections, or what is to be done if one of them fails.  It knows
the descriptor that was the standard error before.  The redirections stay if `stays`. -/
def during {α : Type} (evaluate : Evaluator) (substitution : Substitution)
    (redirections : List Expanded) (stays : Run Bool) (failed : Run α) (body : Fd → Run α) :
    Run α := do
  if redirections.isEmpty then body Fd.standardError
  else
    let (saved, abort) ← performFrom evaluate substitution true [] redirections
    match abort with
    | some .error =>
      restore saved
      failed
    | some abort =>
      restore saved
      throw abort
    | none =>
      let before := (saved.find? fun s => s.fd = Fd.standardError).bind (·.kept)
      let outcome ← Run.attempt (body (before.getD Fd.standardError))
      if ← stays then abandon saved else restore saved
      Run.resume outcome

end JobControl.Redirect
