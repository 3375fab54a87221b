import JobControl.Child

/-!
# Descriptor tables

A process holds its open files by small numbers.  A descriptor may be marked to be closed when the
process becomes another program.

## Main definitions

* `Slot`, `Descriptors` — an entry of a table, and a table.
* `Descriptors.free` — the number that the next descriptor gets.
* `Descriptors.insert`, `Descriptors.close`, `Descriptors.duplicate` — changes of a table.
* `Descriptors.afterExecute` — what a program finds open when it starts.
-/

namespace JobControl

/-- An open descriptor: what it refers to, and whether it is closed when a program starts. -/
structure Slot (α : Type) where
  target : α
  closeOnExecute : Bool

/-- The open descriptors of a process. -/
abbrev Descriptors (α : Type) := List (Fd × Slot α)

namespace Descriptors

variable {α : Type}

/-- What a descriptor refers to. -/
def target? (d : Descriptors α) (fd : Fd) : Option α := (d.lookup fd).map (·.target)

/-- The least number from `fd` on, within `bound` steps, that is not in use. -/
def freeFrom (d : Descriptors α) (fd : Fd) : Nat → Fd
  | 0 => fd
  | bound + 1 => if (d.lookup fd).isSome then d.freeFrom (fd + 1) bound else fd

/-- The least number from `least` on that is not in use. -/
def free (d : Descriptors α) (least : Fd) : Fd := d.freeFrom least d.length

/-- The table without a descriptor. -/
def close (d : Descriptors α) (fd : Fd) : Descriptors α := d.filter fun entry => entry.1 ≠ fd

/-- The table with a descriptor. -/
def insert (d : Descriptors α) (fd : Fd) (slot : Slot α) : Descriptors α := (fd, slot) :: d.close fd

/-- The table with `target` a copy of `source`, which stays open when a program starts.  A copy of a
descriptor onto itself changes nothing. -/
def duplicate (d : Descriptors α) (source target : Fd) : Option (Descriptors α) :=
  match d.lookup source with
  | none => none
  | some slot => some (if source = target then d else d.insert target ⟨slot.target, false⟩)

/-- What a program finds open when it starts. -/
def afterExecute (d : Descriptors α) : Descriptors α :=
  d.filter fun entry => !entry.2.closeOnExecute

end Descriptors
end JobControl
