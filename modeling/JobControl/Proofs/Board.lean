import JobControl.WaitStatus
import Mathlib.Data.List.Nodup
import Mathlib.Logic.Function.Basic
import Mathlib.Order.Nat

/-!
# The place in the background, from outside

Jobs are told apart by the line that launched them, not by their group, which the system may give
again.  A *board* has the number and the state of the job in the background and the numbers of the
disowned ones.  Each line first collects what is to be reported and then acts; both may change the
board, and both announce some jobs with their states.  So a job is announced only while it is in the
background, and one that has left it never comes back.

## Main definitions

* `Board` — the job in the background with its state, and the disowned ones.
* `Board.Collects b found b'` — collecting what is to be reported announces `found`.
* `Board.Acts k b acted b'` — the line with number `k` announces `acted`.
* `Board.Kept count boards entries` — a board kept along the first lines.

## Main results

* `Board.Kept.finished_once` — a job that ends in the background is announced as done, once.
* `Board.Kept.never_finished` — a job that a line takes from the background never is.
* `Board.Kept.silent_of_disowned` — a disowned job is not announced any more.
-/

namespace JobControl

/-- The job in the background, by the line that launched it, with its state; and the disowned
ones. -/
structure Board where
  slot : Option (Nat × State) := none
  disowned : List Nat := []

namespace Board

/-- The number of the job in the background. -/
def number (b : Board) : Option Nat := b.slot.map Prod.fst

/-- The numbers of all jobs. -/
def numbers (b : Board) : List Nat := b.number.toList ++ b.disowned

variable {b b' : Board} {k n : Nat} {s : State} {found acted : List (Nat × State)}

/-- It is collected what is to be reported: the job in the background is announced if its state
changed, and leaves its place if it is done; some disowned jobs may have ended. -/
inductive Collects (b : Board) : List (Nat × State) → Board → Prop
  | nothing {left : List Nat} : left.Sublist b.disowned → Collects b [] ⟨b.slot, left⟩
  | changed {n : Nat} {s : State} {left : List Nat} : b.number = some n → s ≠ .done →
      left.Sublist b.disowned → Collects b [(n, s)] ⟨some (n, s), left⟩
  | finished {n : Nat} {left : List Nat} : b.number = some n → left.Sublist b.disowned →
      Collects b [(n, .done)] ⟨none, left⟩

/-- What line `k` does: the job in the background goes on there, or leaves its place, or the job of
the line takes the place. -/
inductive Acts (k : Nat) (b : Board) : List (Nat × State) → Board → Prop
  | nothing : Acts k b [] b
  | taken : Acts k b [] ⟨none, b.disowned⟩
  | changed {n : Nat} {s : State} : b.number = some n → s ≠ .done →
      Acts k b [(n, s)] ⟨some (n, s), b.disowned⟩
  | placed {s : State} : s ≠ .done →
      Acts k b [(k, s)] ⟨some (k, s), b.disowned ++ b.number.toList⟩

/-! ### What is announced -/

theorem Collects.number_eq (h : b.Collects found b') : b'.number = b.number ∨ b'.number = none := by
  cases h with
  | nothing _ => exact .inl rfl
  | changed hnumber _ _ => exact .inl hnumber.symm
  | finished _ _ => exact .inr rfl

theorem Acts.number_eq (h : b.Acts k acted b') :
    b'.number = b.number ∨ b'.number = none ∨ b'.number = some k := by
  cases h with
  | nothing => exact .inl rfl
  | taken => exact .inr (.inl rfl)
  | changed hnumber _ => exact .inl hnumber.symm
  | placed _ => exact .inr (.inr rfl)

/-- Only the job in the background is announced. -/
theorem Collects.number_of_mem (h : b.Collects found b') (hmem : (n, s) ∈ found) :
    b.number = some n := by
  cases h with
  | nothing _ => cases hmem
  | changed hnumber _ _ | finished hnumber _ =>
    cases List.mem_singleton.mp hmem
    exact hnumber

/-- A line announces only the job that is then in the background, and not as done. -/
theorem Acts.number_of_mem (h : b.Acts k acted b') (hmem : (n, s) ∈ acted) :
    b'.number = some n ∧ s ≠ .done := by
  cases h with
  | nothing | taken => cases hmem
  | changed _ halive | placed halive =>
    cases List.mem_singleton.mp hmem
    exact ⟨rfl, halive⟩

theorem Collects.eq_finished (h : b.Collects found b') (there : b.number = some n)
    (gone : b'.number = none) : found = [(n, .done)] := by
  cases h with
  | nothing _ => cases there.symm.trans gone
  | changed _ _ _ => cases gone
  | finished hnumber _ =>
    cases hnumber.symm.trans there
    rfl

/-- A job that is announced as done has left the background. -/
theorem Collects.gone_of_done (h : b.Collects found b') (hmem : (n, .done) ∈ found) :
    b'.number = none := by
  cases h with
  | nothing _ => cases hmem
  | changed _ halive _ =>
    cases List.mem_singleton.mp hmem
    exact absurd rfl halive
  | finished _ _ => rfl

/-! ### A job is in one place -/

/-- Before line `k` there are only jobs of earlier lines, each in one place. -/
structure Ordered (k : Nat) (b : Board) : Prop where
  nodup : b.numbers.Nodup
  earlier : ∀ n ∈ b.numbers, n < k

theorem Ordered.lt_of_number (h : Ordered k b) (hnumber : b.number = some n) : n < k := by
  refine h.earlier n ?_
  rw [numbers, hnumber]
  exact List.mem_cons_self

theorem Ordered.of_sublist (h : Ordered k b) (sub : b'.numbers.Sublist b.numbers) :
    Ordered k b' :=
  ⟨h.nodup.sublist sub, fun n hn => h.earlier n (sub.subset hn)⟩

theorem Ordered.succ (h : Ordered k b) : Ordered (k + 1) b :=
  ⟨h.nodup, fun n hn => Nat.lt_succ_of_lt (h.earlier n hn)⟩

theorem numbers_eq {left : List Nat} (hnumber : b.number = some n) :
    numbers ⟨some (n, s), left⟩ = b.number.toList ++ left := by
  rw [hnumber]
  rfl

theorem Collects.ordered (h : b.Collects found b') (ordered : Ordered k b) : Ordered k b' := by
  refine ordered.of_sublist ?_
  cases h with
  | nothing left => exact left.append_left _
  | changed hnumber _ left =>
    rw [numbers_eq hnumber]
    exact left.append_left _
  | finished _ left => exact left.trans (List.sublist_append_right _ _)

theorem Acts.ordered (h : b.Acts k acted b') (ordered : Ordered k b) : Ordered (k + 1) b' := by
  cases h with
  | nothing => exact ordered.succ
  | taken => exact (ordered.of_sublist (List.sublist_append_right _ _)).succ
  | changed hnumber _ =>
    refine (ordered.of_sublist ?_).succ
    rw [numbers_eq hnumber]
    exact .refl _
  | placed _ =>
    -- the line is later than those of all jobs that are there
    have swapped : (b.disowned ++ b.number.toList).Perm b.numbers := List.perm_append_comm
    refine ⟨List.nodup_cons.mpr ⟨fun hmem => ?_, swapped.nodup_iff.mpr ordered.nodup⟩,
      List.forall_mem_cons.mpr ⟨Nat.lt_succ_self k, fun n hn => ?_⟩⟩
    · exact Nat.lt_irrefl k (ordered.earlier k (swapped.mem_iff.mp hmem))
    · exact Nat.lt_succ_of_lt (ordered.earlier n (swapped.mem_iff.mp hn))

/-! ### Along some lines -/

/-- What one line does to a board, and what it announces. -/
structure Entry where
  /-- What is announced when it is collected what is to be reported. -/
  found : List (Nat × State)
  /-- The board after that. -/
  board : Board
  /-- What is announced later. -/
  acted : List (Nat × State)

/-- A board is kept along the first lines: `boards k` is the one before line `k`. -/
structure Kept (count : Nat) (boards : Nat → Board) (entries : Nat → Entry) : Prop where
  empty : boards 0 = {}
  collects : ∀ k < count, (boards k).Collects (entries k).found (entries k).board
  acts : ∀ k < count, (entries k).board.Acts k (entries k).acted (boards (k + 1))

variable {count : Nat} {boards : Nat → Board} {entries : Nat → Entry} {m : Nat}

/-- A board is kept along one more line. -/
theorem Kept.extend (h : Kept count boards entries) {e : Entry}
    (collects : (boards count).Collects e.found e.board) (acts : e.board.Acts count e.acted b) :
    Kept (count + 1) (Function.update boards (count + 1) b) (Function.update entries count e) := by
  have earlier : ∀ k ≤ count, Function.update boards (count + 1) b k = boards k :=
    fun k hk => Function.update_of_ne (by omega) _ _
  refine ⟨by rw [earlier 0 (Nat.zero_le _), h.empty], fun k hk => ?_, fun k hk => ?_⟩
  · rcases Nat.lt_succ_iff_lt_or_eq.mp hk with hk | rfl
    · rw [earlier k hk.le, Function.update_of_ne hk.ne]
      exact h.collects k hk
    · rw [earlier k le_rfl, Function.update_self]
      exact collects
  · rcases Nat.lt_succ_iff_lt_or_eq.mp hk with hk | rfl
    · rw [earlier (k + 1) hk, Function.update_of_ne hk.ne]
      exact h.acts k hk
    · rw [Function.update_self, Function.update_self]
      exact acts

theorem Kept.ordered (h : Kept count boards entries) : ∀ {k : Nat}, k ≤ count →
    Ordered k (boards k) := by
  intro k
  induction k with
  | zero =>
    intro _
    rw [h.empty]
    exact ⟨List.nodup_nil, nofun⟩
  | succ k ih =>
    intro hk
    exact (h.acts k hk).ordered ((h.collects k hk).ordered (ih (Nat.le_of_succ_le hk)))

/-- A job that is not in the background does not come there by a later line. -/
theorem Kept.number_ne_succ (h : Kept count boards entries) (hk : k < count) (earlier : n < k)
    (gone : (entries k).board.number ≠ some n) : (boards (k + 1)).number ≠ some n := by
  rcases (h.acts k hk).number_eq with same | none | new
  · rwa [same]
  · rw [none]
    nofun
  · rw [new]
    exact fun heq => Nat.lt_irrefl k (Option.some.inj heq ▸ earlier)

/-- **A job that has left the background never comes back.** -/
theorem Kept.number_ne (h : Kept count boards entries) (earlier : n < k)
    (gone : (boards k).number ≠ some n) (hm : k ≤ m) (hcount : m ≤ count) :
    (boards m).number ≠ some n := by
  induction m, hm using Nat.le_induction with
  | base => exact gone
  | succ m hkm ih =>
    refine h.number_ne_succ hcount (Nat.lt_of_lt_of_le earlier hkm) ?_
    rcases (h.collects m hcount).number_eq with same | none
    · rw [same]
      exact ih (Nat.le_of_succ_le hcount)
    · rw [none]
      nofun

/-- A job that was announced as done is not in the background before any later line. -/
theorem Kept.number_ne_of_done (h : Kept count boards entries)
    (done : (n, .done) ∈ (entries k).found) (hm : k < m) (hcount : m ≤ count) :
    (boards m).number ≠ some n := by
  have hk : k < count := Nat.lt_of_lt_of_le hm hcount
  have earlier := (h.ordered hk.le).lt_of_number ((h.collects k hk).number_of_mem done)
  refine h.number_ne (Nat.lt_succ_of_lt earlier) (h.number_ne_succ hk earlier ?_) hm hcount
  rw [(h.collects k hk).gone_of_done done]
  nofun

/-- **A job that ends in the background is announced as done at that moment, and never else.** -/
theorem Kept.finished_once (h : Kept count boards entries) (hk : k < count)
    (there : (boards k).number = some n) (gone : (entries k).board.number = none) :
    (entries k).found = [(n, .done)] ∧ ∀ m < count,
      ((n, .done) ∈ (entries m).found → m = k) ∧ (n, .done) ∉ (entries m).acted := by
  have found := (h.collects k hk).eq_finished there gone
  refine ⟨found, fun m hm => ⟨fun done => ?_, fun done => ?_⟩⟩
  · rcases lt_trichotomy m k with hmk | rfl | hkm
    · exact absurd there (h.number_ne_of_done done hmk hk.le)
    · rfl
    · have done' : (n, .done) ∈ (entries k).found := by rw [found]; exact List.mem_singleton_self _
      exact absurd ((h.collects m hm).number_of_mem done) (h.number_ne_of_done done' hkm hm.le)
  · exact ((h.acts m hm).number_of_mem done).2 rfl

/-- **A job that a line takes from the background, be it to the foreground or to the disowned jobs,
is never announced as done.** -/
theorem Kept.never_finished (h : Kept count boards entries) (hk : k < count)
    (there : (entries k).board.number = some n) (gone : (boards (k + 1)).number ≠ some n) :
    ∀ m < count, (n, .done) ∉ (entries m).found ∧ (n, .done) ∉ (entries m).acted := by
  have before : (boards k).number = some n := by
    rcases (h.collects k hk).number_eq with same | none
    · rw [← same, there]
    · cases there.symm.trans none
  refine fun m hm => ⟨fun done => ?_, fun done => ((h.acts m hm).number_of_mem done).2 rfl⟩
  rcases lt_trichotomy m k with hmk | rfl | hkm
  · exact h.number_ne_of_done done hmk hk.le before
  · cases there.symm.trans ((h.collects m hm).gone_of_done done)
  · have earlier := Nat.lt_succ_of_lt ((h.ordered hk.le).lt_of_number before)
    exact h.number_ne earlier gone hkm hm.le ((h.collects m hm).number_of_mem done)

/-- **A disowned job is not announced any more.** -/
theorem Kept.silent_of_disowned (h : Kept count boards entries) (hk : k ≤ count)
    (hn : n ∈ (boards k).disowned) (hkm : k ≤ m) (hm : m < count) (s : State) :
    (n, s) ∉ (entries m).found ∧ (n, s) ∉ (entries m).acted := by
  have ordered := h.ordered hk
  have earlier : n < k := ordered.earlier n (List.mem_append_right _ hn)
  have elsewhere : (boards k).number ≠ some n := by
    intro hnumber
    have nodup := ordered.nodup
    rw [numbers, hnumber] at nodup
    exact (List.nodup_cons.mp nodup).1 hn
  refine ⟨fun hmem => ?_, fun hmem => ?_⟩
  · exact h.number_ne earlier elsewhere hkm hm.le ((h.collects m hm).number_of_mem hmem)
  · exact h.number_ne earlier elsewhere (Nat.le_succ_of_le hkm) hm
      ((h.acts m hm).number_of_mem hmem).1

end Board
end JobControl
