import JobControl.Machine.Task

/-!
# Conditions on files

What a process can find out about files, as commands that test conditions ask for it.

## Main definitions

* `Condition.unary` — a condition on one file, which a letter names.
* `Condition.binary` — a condition on two files.
-/

namespace JobControl.Condition

open Routine

/-- The letters of the conditions on one file. -/
def letters : List Char :=
  ['b', 'c', 'd', 'e', 'f', 'g', 'G', 'h', 'k', 'L', 'O', 'p', 'r', 's', 'S', 'u', 'w', 'x']

/-- Whether a condition on what a path leads to holds. -/
def holds (letter : Char) (status : FileStatus) : Bool :=
  match letter with
  | 'c' => status.kind = .device
  | 'd' => status.kind = .directory
  | 'e' => true
  | 'f' => status.kind = .regular
  | 'g' => status.mode &&& 0o2000 ≠ 0
  | 'h' | 'L' => status.kind = .symlink
  | 'k' => status.mode &&& 0o1000 ≠ 0
  | 'O' | 'G' => status.isOwn
  | 'p' => status.kind = .fifo
  | 's' => status.kind = .directory || status.size ≠ 0
  | 'u' => status.mode &&& 0o4000 ≠ 0
  | _ => false

/-- Whether a condition on one file holds. -/
def unary (letter : Char) (path : String) : Routine Bool := do
  let allowed (permission : Permission) : Routine Bool := do
    return (← call (.access path permission)).toOption.isSome
  match letter with
  | 'r' => allowed .read
  | 'w' => allowed .write
  | 'x' => allowed .execute
  | _ =>
    match ← call (.metadata path (letter ≠ 'h' && letter ≠ 'L')) with
    | .ok status => return holds letter status
    | .error _ => return false

/-- Whether a condition on two files holds: that one changed after the other, or before it, or that
both are the same. -/
def binary (name first second : String) : Routine Bool := do
  let status (path : String) : Routine (Option FileStatus) := do
    return (← call (.metadata path true)).toOption
  match name, ← status first, ← status second with
  | "-nt", some a, some b => return b.modified < a.modified
  | "-ot", some a, some b => return a.modified < b.modified
  | "-ef", some a, some b => return a.ino = b.ino
  | "-nt", some _, none => return true
  | "-ot", none, some _ => return true
  | _, _, _ => return false

end JobControl.Condition
