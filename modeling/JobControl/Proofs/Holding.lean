import JobControl.Descriptors
import JobControl.Proofs.Launch

/-!
# What is held of files and pipes

The system gives out descriptors: an unused number for each file that is opened, two for each pipe.
What the shell opens is closed when a program starts, so of all that a child inherits only what it
copies onto its standard input and output is left in its image.

## Main definitions

* `End` — what a descriptor refers to.
* `Child.image child d` — what the program of a child finds, if the shell holds `d`.
* `Holding`, `Holding.afterAll` — the descriptors of the shell and of the images, along some events.
* `Holding.Granted h events` — the numbers given out are not in use.
* `Holds own fds d` — `d` is `own` with the descriptors `fds` besides, all closed when a program
  starts.

## Main results

* `Holds.insert`, `Holds.closeAll` — opening one more and closing some.
* `Holds.image` — the image of a child has what the child copied, and what the shell had of its own.
-/

namespace JobControl

/-! ### Tables -/

namespace Descriptors

variable {α : Type} {d : Descriptors α} {fd other : Fd} {slot : Slot α}

theorem target?_congr {d' : Descriptors α} (h : d'.lookup fd = d.lookup fd) :
    d'.target? fd = d.target? fd := by
  rw [target?, h, target?]

theorem lookup_entry : List.lookup other ((fd, slot) :: d) =
    if other = fd then some slot else d.lookup other := by
  rw [List.lookup_cons]
  by_cases h : other = fd
  · rw [beq_iff_eq.mpr h, if_pos h]
  · rw [beq_eq_false_iff_ne.mpr h, if_neg h]

theorem lookup_close : (d.close fd).lookup other = if other = fd then none else d.lookup other := by
  induction d with
  | nil => rw [close, List.filter_nil, List.lookup_nil, ite_self]
  | cons entry d ih =>
    obtain ⟨number, slot⟩ := entry
    rw [close, List.filter_cons, ← close]
    by_cases hnumber : number = fd
    · subst hnumber
      rw [if_neg (by simp), ih, lookup_entry]
      split <;> rfl
    · rw [if_pos (by simpa using hnumber), lookup_entry, ih, lookup_entry]
      split
      · next h => rw [if_neg (h ▸ hnumber)]
      · rfl

theorem close_eq_self (h : d.lookup fd = none) : d.close fd = d := by
  refine List.filter_eq_self.mpr fun entry hentry => ?_
  have other : fd ≠ entry.1 := by simpa using List.lookup_eq_none_iff.mp h entry hentry
  exact decide_eq_true other.symm

theorem lookup_insert : (d.insert fd slot).lookup other =
    if other = fd then some slot else d.lookup other := by
  rw [insert, lookup_entry, lookup_close]
  split <;> rfl

/-- An entry that stays open when a program starts is found by the program. -/
theorem lookup_afterExecute_insert {target : α} :
    (d.insert fd ⟨target, false⟩).afterExecute.lookup other =
      if other = fd then some ⟨target, false⟩ else d.afterExecute.lookup other := by
  have closed : (d.close fd).afterExecute = d.afterExecute.close fd := by
    simp only [close, afterExecute, List.filter_filter, Bool.and_comm]
  rw [insert, afterExecute, List.filter_cons_of_pos rfl, ← afterExecute, closed, lookup_entry,
    lookup_close]
  split <;> rfl

/-- The table with `target` a copy of a descriptor, if one is given. -/
def copied (d : Descriptors α) (source : Option Fd) (target : Fd) : Option (Descriptors α) :=
  source.elim (some d) fun fd => d.duplicate fd target

/-- A program finds a copy that was made for it, and what it would have found without. -/
theorem exists_copied (d : Descriptors α) (source : Option Fd) (target : Fd)
    (h : ∀ fd ∈ source, fd ≠ target ∧ (d.lookup fd).isSome) :
    ∃ d', d.copied source target = some d' ∧
      (∀ other, other ≠ target → d'.lookup other = d.lookup other) ∧
      ∀ other, d'.afterExecute.target? other =
        if other = target then (source.map d.target?).getD (d.afterExecute.target? target)
        else d.afterExecute.target? other := by
  cases source with
  | none =>
    refine ⟨d, rfl, fun _ _ => rfl, fun other => ?_⟩
    split
    · next h => rw [h]; rfl
    · rfl
  | some fd =>
    obtain ⟨hne, hopen⟩ := h fd rfl
    obtain ⟨slot, hslot⟩ := Option.isSome_iff_exists.mp hopen
    refine ⟨d.insert target ⟨slot.target, false⟩, ?_, fun other hother => ?_, fun other => ?_⟩
    · rw [copied, Option.elim_some, duplicate, hslot]
      exact congrArg some (if_neg hne)
    · rw [lookup_insert, if_neg hother]
    · rw [target?, lookup_afterExecute_insert]
      split
      · simp [target?, hslot]
      · rfl

end Descriptors

/-! ### What the system does with descriptors -/

/-- What a descriptor refers to. -/
inductive End
  /-- What the shell has of its own. -/
  | own (number : Nat)
  /-- The file of a redirection; files are numbered as they are opened. -/
  | file (redirection : Redirection) (path : String) (number : Nat)
  /-- The reading end of a pipe; pipes are numbered as they are made. -/
  | reading (pipe : Nat)
  /-- The writing end of a pipe. -/
  | writing (pipe : Nat)
  deriving DecidableEq

/-- What a step of a new process does to its descriptors. -/
def ChildStep.apply {α : Type} (d : Descriptors α) : ChildStep → Option (Descriptors α)
  | .duplicate source target => d.duplicate source target
  | .execute => some d.afterExecute
  | .restore _ | .join _ => some d

/-- What the program of a child finds if the child inherits `d`. -/
def Child.image {α : Type} (c : Child) (d : Descriptors α) : Option (Descriptors α) :=
  c.steps.foldlM ChildStep.apply d

/-- The descriptors of the shell, and those of the images that its children become, in the order in
which the children were started. -/
structure Holding where
  shell : Descriptors End
  images : List (Option (Descriptors End)) := []
  /-- How many files were opened. -/
  files : Nat := 0
  /-- How many pipes were made. -/
  pipes : Nat := 0

namespace Holding

/-- A file was opened for a redirection. -/
def opened (h : Holding) (redirection : Redirection) (path : String) (fd : Fd) : Holding :=
  { h with
    shell := h.shell.insert fd ⟨.file redirection path h.files, true⟩
    files := h.files + 1 }

/-- A pipe was made. -/
def piped (h : Holding) (ends : Fd × Fd) : Holding :=
  { h with
    shell := (h.shell.insert ends.1 ⟨.reading h.pipes, true⟩).insert ends.2
      ⟨.writing h.pipes, true⟩
    pipes := h.pipes + 1 }

/-- What is held after an event.  A child inherits what the shell holds when it is started. -/
def after (h : Holding) : Event → Holding
  | ⟨.openInput path, .ok fd⟩ => h.opened .input path fd
  | ⟨.openOutput path, .ok fd⟩ => h.opened .output path fd
  | ⟨.pipe, .ok ends⟩ => h.piped ends
  | ⟨.close fd, _⟩ => { h with shell := h.shell.close fd }
  | ⟨.fork child, .ok _⟩ => { h with images := h.images ++ [child.image h.shell] }
  | _ => h

/-- A number that is given out is not in use. -/
def Grants (h : Holding) : Event → Prop
  | ⟨.openInput _, .ok fd⟩ => h.shell.lookup fd = none
  | ⟨.openOutput _, .ok fd⟩ => h.shell.lookup fd = none
  | ⟨.pipe, .ok ends⟩ =>
    h.shell.lookup ends.1 = none ∧ h.shell.lookup ends.2 = none ∧ ends.1 ≠ ends.2
  | _ => True

/-- What is held after some events. -/
def afterAll (h : Holding) (events : List Event) : Holding := events.foldl after h

/-- The numbers that are given out in some events are not in use when they are. -/
def Granted (h : Holding) : List Event → Prop
  | [] => True
  | e :: events => h.Grants e ∧ (h.after e).Granted events

variable {h : Holding} {e : Event} {events more : List Event}

@[simp] theorem afterAll_nil : h.afterAll [] = h := rfl

@[simp] theorem afterAll_cons : h.afterAll (e :: events) = (h.after e).afterAll events := rfl

@[simp] theorem afterAll_append : h.afterAll (events ++ more) = (h.afterAll events).afterAll more :=
  List.foldl_append

@[simp] theorem granted_nil : h.Granted [] := trivial

@[simp] theorem granted_cons :
    h.Granted (e :: events) ↔ h.Grants e ∧ (h.after e).Granted events := .rfl

@[simp] theorem granted_append :
    h.Granted (events ++ more) ↔ h.Granted events ∧ (h.afterAll events).Granted more := by
  induction events generalizing h with
  | nil => simp
  | cons e events ih => simp [ih, and_assoc]

@[simp] theorem afterAll_closings (fds : List Fd) :
    h.afterAll (closings fds) = { h with shell := fds.foldl Descriptors.close h.shell } := by
  induction fds generalizing h with
  | nil => rfl
  | cons fd fds ih => exact ih (h := { h with shell := h.shell.close fd })

/-- Asking for facts opens nothing. -/
theorem afterAll_of_lookup (h : Holding) (facts : ∀ e ∈ events, e.call.isLookup = true) :
    h.afterAll events = h := by
  induction events with
  | nil => rfl
  | cons e events ih =>
    obtain ⟨he, others⟩ := List.forall_mem_cons.mp facts
    obtain ⟨call, answer⟩ := e
    cases call with
    | environment _ | metadata _ => exact ih others
    | _ => cases he

/-- A child is started and put into its group, and then some descriptors are closed. -/
theorem afterAll_forked {child : Child} {pid group : Pid} {answer : Except Errno Unit}
    {fds : List Fd} :
    h.afterAll (⟨.fork child, .ok pid⟩ :: ⟨.setGroup pid group, answer⟩ :: (closings fds ++ events))
      = Holding.afterAll { h with
          shell := fds.foldl Descriptors.close h.shell
          images := h.images ++ [child.image h.shell] } events := by
  rw [afterAll_cons, afterAll_cons, afterAll_append, afterAll_closings]
  rfl

theorem granted_forked {child : Child} {pid group : Pid} {answer : Except Errno Unit}
    {fds : List Fd} (granted : h.Granted
      (⟨.fork child, .ok pid⟩ :: ⟨.setGroup pid group, answer⟩ :: (closings fds ++ events))) :
    Holding.Granted { h with
      shell := fds.foldl Descriptors.close h.shell
      images := h.images ++ [child.image h.shell] } events := by
  obtain ⟨-, -, granted⟩ := granted
  have := (granted_append.mp granted).2
  rwa [afterAll_closings] at this

end Holding

/-! ### What the shell has opened -/

/-- A table has the descriptors `fds` besides those of `own`, and all of them are closed when a
program starts. -/
structure Holds (own : Descriptors End) (fds : List Fd) (d : Descriptors End) : Prop where
  nodup : fds.Nodup
  fresh : ∀ fd ∈ fds, own.lookup fd = none
  split : ∃ held : Descriptors End, d = held ++ own ∧
    ∀ entry ∈ held, entry.1 ∈ fds ∧ entry.2.closeOnExecute = true
  isOpen : ∀ fd ∈ fds, (d.lookup fd).isSome

namespace Holds

variable {own d : Descriptors End} {fds gone rest : List Fd} {fd : Fd}

theorem refl (own : Descriptors End) : Holds own [] own :=
  ⟨.nil, nofun, ⟨[], rfl, nofun⟩, nofun⟩

theorem eq_own (h : Holds own [] d) : d = own := by
  obtain ⟨held, rfl, hheld⟩ := h.split
  rw [List.eq_nil_iff_forall_not_mem.mpr fun entry hentry => nomatch (hheld entry hentry).1]
  rfl

theorem perm (h : Holds own fds d) (same : fds.Perm rest) : Holds own rest d where
  nodup := same.nodup_iff.mp h.nodup
  fresh fd hfd := h.fresh fd (same.mem_iff.mpr hfd)
  split := by
    obtain ⟨held, hd, hheld⟩ := h.split
    exact ⟨held, hd, fun entry hentry =>
      ⟨same.mem_iff.mp (hheld entry hentry).1, (hheld entry hentry).2⟩⟩
  isOpen fd hfd := h.isOpen fd (same.mem_iff.mpr hfd)

/-- Opening one more leaves the others as they are. -/
theorem insert (h : Holds own fds d) (unused : d.lookup fd = none) (e : End) :
    Holds own (fd :: fds) (d.insert fd ⟨e, true⟩) ∧
      ∀ other ∈ fds, (d.insert fd ⟨e, true⟩).lookup other = d.lookup other := by
  have new : fd ∉ fds := fun hfd => by simpa [unused] using h.isOpen fd hfd
  have same : ∀ other ∈ fds, (d.insert fd ⟨e, true⟩).lookup other = d.lookup other := by
    intro other hother
    have hne : other ≠ fd := fun heq => new (heq ▸ hother)
    rw [Descriptors.lookup_insert, if_neg hne]
  obtain ⟨held, rfl, hheld⟩ := h.split
  refine ⟨⟨List.nodup_cons.mpr ⟨new, h.nodup⟩, ?_, ⟨(fd, ⟨e, true⟩) :: held, ?_, ?_⟩, ?_⟩, same⟩
  · refine List.forall_mem_cons.mpr ⟨?_, h.fresh⟩
    rw [List.lookup_append, Option.or_eq_none_iff] at unused
    exact unused.2
  · rw [Descriptors.insert, Descriptors.close_eq_self unused]
    rfl
  · exact List.forall_mem_cons.mpr ⟨⟨List.mem_cons_self, rfl⟩, fun entry hentry =>
      ⟨List.mem_cons_of_mem _ (hheld entry hentry).1, (hheld entry hentry).2⟩⟩
  · refine List.forall_mem_cons.mpr ⟨?_, fun other hother => ?_⟩
    · rw [Descriptors.lookup_insert, if_pos rfl]
      rfl
    · exact same other hother ▸ h.isOpen other hother

/-- Closing one of them. -/
theorem close (h : Holds own (fd :: fds) d) : Holds own fds (d.close fd) := by
  obtain ⟨held, rfl, hheld⟩ := h.split
  obtain ⟨gone, nodup⟩ := List.nodup_cons.mp h.nodup
  obtain ⟨fresh, others⟩ := List.forall_mem_cons.mp h.fresh
  have closed : Descriptors.close (held ++ own) fd = held.close fd ++ own := by
    rw [Descriptors.close, List.filter_append]
    exact congrArg _ (Descriptors.close_eq_self fresh)
  refine ⟨nodup, others, ⟨_, closed, fun entry hentry => ?_⟩, fun other hother => ?_⟩
  · obtain ⟨hentry, hne⟩ := List.mem_filter.mp hentry
    obtain ⟨hmem, hclose⟩ := hheld entry hentry
    exact ⟨(List.mem_cons.mp hmem).resolve_left (by simpa using hne), hclose⟩
  · have hne : other ≠ fd := fun heq => gone (heq ▸ hother)
    rw [Descriptors.lookup_close, if_neg hne]
    exact h.isOpen other (List.mem_cons_of_mem _ hother)

/-- Closing some of them leaves the others as they are. -/
theorem closeAll (h : Holds own (gone ++ rest) d) :
    Holds own rest (gone.foldl Descriptors.close d) ∧
      ∀ fd ∈ rest, (gone.foldl Descriptors.close d).lookup fd = d.lookup fd := by
  induction gone generalizing d with
  | nil => exact ⟨h, fun _ _ => rfl⟩
  | cons fd gone ih =>
    obtain ⟨holds, same⟩ := ih h.close
    refine ⟨holds, fun other hother => (same other hother).trans ?_⟩
    have hne : other ≠ fd := by
      rintro rfl
      exact (List.nodup_cons.mp h.nodup).1 (List.mem_append_right _ hother)
    rw [Descriptors.lookup_close, if_neg hne]

/-- A program finds none of them. -/
theorem afterExecute_eq (h : Holds own fds d) : d.afterExecute = own.afterExecute := by
  obtain ⟨held, rfl, hheld⟩ := h.split
  have closed : Descriptors.afterExecute held = [] :=
    List.filter_eq_nil_iff.mpr fun entry hentry => by simp [(hheld entry hentry).2]
  rw [Descriptors.afterExecute, List.filter_append]
  exact congrArg (· ++ own.afterExecute) closed

end Holds

/-- The standard descriptors are in use. -/
def StandardOpen (own : Descriptors End) : Prop := ∀ fd ≤ Fd.standardError, (own.lookup fd).isSome

theorem Child.image_eq {α : Type} (c : Child) (d : Descriptors α) :
    c.image d = (d.copied c.input Fd.standardInput).bind fun d =>
      (d.copied c.output Fd.standardOutput).bind fun d => some d.afterExecute := by
  obtain ⟨program, input, output, group⟩ := c
  cases input <;> cases output <;> rfl

/-- **The program of a child finds what the child copied, and what the shell had of its own.** -/
theorem Holds.image {own d : Descriptors End} {fds : List Fd} (h : Holds own fds d)
    (standard : StandardOpen own) {c : Child} (input : ∀ fd ∈ c.input, fd ∈ fds)
    (output : ∀ fd ∈ c.output, fd ∈ fds) :
    ∃ image, c.image d = some image ∧ ∀ fd, image.target? fd =
      if fd = Fd.standardInput then
        (c.input.map d.target?).getD (own.afterExecute.target? fd)
      else if fd = Fd.standardOutput then
        (c.output.map d.target?).getD (own.afterExecute.target? fd)
      else own.afterExecute.target? fd := by
  -- what the shell has opened is at other numbers than the standard descriptors
  have away : ∀ target ≤ Fd.standardError, ∀ fd ∈ fds, fd ≠ target := by
    rintro target hle fd hfd rfl
    simpa [h.fresh fd hfd] using standard fd hle
  obtain ⟨middle, hmiddle, same, found⟩ :=
    d.exists_copied c.input Fd.standardInput fun fd hfd =>
      ⟨away _ (by decide) fd (input fd hfd), h.isOpen fd (input fd hfd)⟩
  have same : ∀ fd ∈ c.output, middle.lookup fd = d.lookup fd := fun fd hfd =>
    same fd (away _ (by decide) fd (output fd hfd))
  obtain ⟨last, hlast, -, found'⟩ :=
    middle.exists_copied c.output Fd.standardOutput fun fd hfd =>
      ⟨away _ (by decide) fd (output fd hfd), same fd hfd ▸ h.isOpen fd (output fd hfd)⟩
  refine ⟨last.afterExecute, ?_, fun fd => ?_⟩
  · rw [Child.image_eq, hmiddle, Option.bind_some, hlast, Option.bind_some]
  · have outputs : c.output.map middle.target? = c.output.map d.target? :=
      Option.map_congr fun fd hfd => Descriptors.target?_congr (same fd hfd)
    rw [found', found, found, h.afterExecute_eq, outputs]
    split
    · next h => simp [h, Fd.standardInput, Fd.standardOutput]
    · next h =>
      split
      · next h' => rw [h']
      · rfl

end JobControl
