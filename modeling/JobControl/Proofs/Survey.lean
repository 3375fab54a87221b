import JobControl.Job

/-!
# What an inquiry asks and finds

An inquiry goes through the members of a job in order.  `Surveyed` tells its events one at a time: a
wait that a signal interrupts is made again, an answer is recorded or not, and a member that cannot
be waited for is noted as a failure.

## Main definitions

* `Inquiry.Surveyed q members events found` — asking about `members` brings `found`.

## Main results

* `Inquiry.surveyed_of_run` — every run of an inquiry is of this form.
* `Inquiry.Surveyed.pids_eq` — an inquiry changes no pid.
* `Inquiry.Surveyed.asks` — it waits for members that are due, in the way of the inquiry, and makes
  no request but that and entries in the log.
* `Inquiry.Surveyed.mem_or_answered` — what it records of a member was so before or is an answer.
-/

namespace JobControl.Inquiry

open Dialogue (not_run_unfinished)
open JobControl.Action (run_pure_iff run_bind_iff run_bind_pure_iff run_ask_bind_iff)

/-- Asking about some members, with the answers in some events, brings some findings. -/
inductive Surveyed (q : Inquiry) : List Member → List Event → Findings → Prop
  | nil : Surveyed q [] [] {}
  /-- The member is not asked about. -/
  | passed {member rest events found} :
      q.isDue member.status.state = false → Surveyed q rest events found →
      Surveyed q (member :: rest) events { found with members := member :: found.members }
  /-- A signal interrupts the wait, which is made again. -/
  | interrupted {member rest events found} :
      q.isDue member.status.state = true → Surveyed q (member :: rest) events found →
      Surveyed q (member :: rest) (⟨.wait member.pid q.flags, .error .eintr⟩ :: events) found
  /-- The answer is recorded. -/
  | recorded {member rest events found status} :
      q.isDue member.status.state = true → q.counts status = true →
      Surveyed q rest events found →
      Surveyed q (member :: rest) (⟨.wait member.pid q.flags, .ok status⟩ :: events)
        { found with
          members := { member with status } :: found.members
          reports := status :: found.reports }
  /-- The answer tells nothing new. -/
  | unchanged {member rest events found status} :
      q.isDue member.status.state = true → q.counts status = false →
      Surveyed q rest events found →
      Surveyed q (member :: rest) (⟨.wait member.pid q.flags, .ok status⟩ :: events)
        { found with members := member :: found.members }
  /-- The member cannot be waited for. -/
  | failed {member rest events found errno} :
      q.isDue member.status.state = true → errno ≠ .eintr → Surveyed q rest events found →
      Surveyed q (member :: rest)
        (⟨.wait member.pid q.flags, .error errno⟩
          :: ⟨.log (q.entry ⟨member.pid, errno⟩), ()⟩ :: events)
        { found with
          members := member :: found.members
          failures := ⟨member.pid, errno⟩ :: found.failures }

/-- A wait is made until no signal interrupts it. -/
theorem run_waitRounds {pid : Pid} {flags : WaitFlags} {rounds : Nat} :
    ∀ {n : Nat} {events : List Event} {answer : Except Errno WaitStatus},
      (waitRounds pid flags n rounds).Run events answer →
      answer ≠ .error .eintr ∧ ∃ interrupted, events =
        List.replicate interrupted ⟨.wait pid flags, .error .eintr⟩ ++
          [⟨.wait pid flags, answer⟩] := by
  intro n
  induction n with
  | zero => intro events answer h; exact absurd h not_run_unfinished
  | succ n ih =>
    intro events answer h
    obtain ⟨first, rest, rfl, hrest⟩ := run_ask_bind_iff.mp h
    cases first with
    | ok status =>
      obtain ⟨rfl, rfl⟩ := run_pure_iff.mp hrest
      exact ⟨nofun, 0, rfl⟩
    | error e =>
      dsimp only at hrest
      split at hrest
      · next he =>
        subst he
        obtain ⟨hne, interrupted, rfl⟩ := ih hrest
        exact ⟨hne, interrupted + 1, rfl⟩
      · next he =>
        obtain ⟨rfl, rfl⟩ := run_pure_iff.mp hrest
        exact ⟨fun h => he (by simpa using h), 0, rfl⟩

theorem run_waitFor {pid : Pid} {flags : WaitFlags} {rounds : Nat} {events : List Event}
    {answer : Except Errno WaitStatus} (h : (waitFor pid flags rounds).Run events answer) :
    answer ≠ .error .eintr ∧ ∃ interrupted, events =
      List.replicate interrupted ⟨.wait pid flags, .error .eintr⟩ ++ [⟨.wait pid flags, answer⟩] :=
  run_waitRounds h

/-- Interrupted waits before the events of an inquiry that is to ask its first member. -/
theorem Surveyed.after_interruptions {q : Inquiry} {member : Member} {rest : List Member}
    {events : List Event} {found : Findings} (due : q.isDue member.status.state = true)
    (h : Surveyed q (member :: rest) events found) (n : Nat) :
    Surveyed q (member :: rest)
      (List.replicate n ⟨.wait member.pid q.flags, .error .eintr⟩ ++ events) found := by
  induction n with
  | zero => exact h
  | succ n ih => exact .interrupted due ih

/-- **Every run of an inquiry asks the members that are due, in order.** -/
theorem surveyed_of_run {q : Inquiry} {rounds : Nat} :
    ∀ {members : List Member} {events : List Event} {found : Findings},
      (q.survey members rounds).Run events found → Surveyed q members events found := by
  intro members
  induction members with
  | nil =>
    intro events found h
    obtain ⟨rfl, rfl⟩ := run_pure_iff.mp h
    exact .nil
  | cons member rest ih =>
    intro events found h
    rw [survey] at h
    split at h
    · next due =>
      obtain ⟨asked, others, answer, rfl, hwait, hrest⟩ := run_bind_iff.mp h
      obtain ⟨hne, interrupted, rfl⟩ := run_waitFor hwait
      rw [List.append_assoc]
      -- what is left is the one answer that is not an interruption
      refine .after_interruptions due ?_ interrupted
      cases answer with
      | ok status =>
        obtain ⟨asked, last, others, rfl, hsurvey, hlast⟩ := run_bind_iff.mp hrest
        split at hlast
        · next counts =>
          obtain ⟨rfl, rfl⟩ := run_pure_iff.mp hlast
          rw [List.append_nil]
          exact .recorded due counts (ih hsurvey)
        · next counts =>
          obtain ⟨rfl, rfl⟩ := run_pure_iff.mp hlast
          rw [List.append_nil]
          exact .unchanged due (by simpa using counts) (ih hsurvey)
      | error errno =>
        obtain ⟨-, noted, rfl, hnoted⟩ := run_ask_bind_iff.mp hrest
        obtain ⟨others, hsurvey, rfl⟩ := run_bind_pure_iff.mp hnoted
        exact .failed due (fun he => hne (by rw [he])) (ih hsurvey)
    · next due =>
      obtain ⟨others, hsurvey, rfl⟩ := run_bind_pure_iff.mp h
      exact .passed (by simpa using due) (ih hsurvey)

/-- An inquiry changes no pid. -/
theorem Surveyed.pids_eq {q : Inquiry} {members : List Member} {events : List Event}
    {found : Findings} (h : Surveyed q members events found) :
    found.members.map (·.pid) = members.map (·.pid) := by
  induction h with
  | nil => rfl
  | passed _ _ ih | recorded _ _ _ ih | unchanged _ _ _ ih | failed _ _ _ ih =>
    simp only [List.map_cons, ih]
  | interrupted _ _ ih => exact ih

/-- An inquiry waits for members that are due and makes entries in the log, and nothing else. -/
theorem Surveyed.asks {q : Inquiry} {members : List Member} {events : List Event}
    {found : Findings} (h : Surveyed q members events found) :
    ∀ e ∈ events, (∃ entry, e.call = .log entry) ∨ ∃ member ∈ members,
      q.isDue member.status.state = true ∧ e.call = .wait member.pid q.flags := by
  -- what is said of the members that follow holds for all of them
  have wider : ∀ {first : Member} {rest : List Member} {events : List Event},
      (∀ e ∈ events, (∃ entry, e.call = .log entry) ∨ ∃ member ∈ rest,
        q.isDue member.status.state = true ∧ e.call = .wait member.pid q.flags) →
      ∀ e ∈ events, (∃ entry, e.call = .log entry) ∨ ∃ member ∈ first :: rest,
        q.isDue member.status.state = true ∧ e.call = .wait member.pid q.flags := by
    intro first rest events h e he
    refine (h e he).imp_right ?_
    rintro ⟨other, hother, asked⟩
    exact ⟨other, List.mem_cons_of_mem _ hother, asked⟩
  induction h with
  | nil => simp
  | passed _ _ ih => exact wider ih
  | @interrupted member rest _ _ due _ ih =>
    exact List.forall_mem_cons.mpr ⟨.inr ⟨member, List.mem_cons_self, due, rfl⟩, ih⟩
  | @recorded member rest _ _ _ due _ _ ih =>
    exact List.forall_mem_cons.mpr ⟨.inr ⟨member, List.mem_cons_self, due, rfl⟩, wider ih⟩
  | @unchanged member rest _ _ _ due _ _ ih =>
    exact List.forall_mem_cons.mpr ⟨.inr ⟨member, List.mem_cons_self, due, rfl⟩, wider ih⟩
  | @failed member rest _ _ _ due _ _ ih =>
    refine List.forall_mem_cons.mpr ⟨.inr ⟨member, List.mem_cons_self, due, rfl⟩, ?_⟩
    exact List.forall_mem_cons.mpr ⟨.inl ⟨_, rfl⟩, wider ih⟩

section Found

variable {q : Inquiry} {members : List Member} {events : List Event} {found : Findings}

/-- What is recorded of a member was so before, or answers a wait for it. -/
theorem Surveyed.mem_or_answered (h : q.Surveyed members events found) :
    ∀ member ∈ found.members, member ∈ members ∨
      ⟨.wait member.pid q.flags, .ok member.status⟩ ∈ events := by
  -- what holds of the members that follow holds beside one more member and more events
  have wider : ∀ {first : Member} {rest : List Member} {later : List Event} {member : Member}
      (before : List Event), member ∈ rest ∨ ⟨.wait member.pid q.flags, .ok member.status⟩ ∈ later →
      member ∈ first :: rest ∨
        ⟨.wait member.pid q.flags, .ok member.status⟩ ∈ before ++ later :=
    fun before => Or.imp (List.mem_cons_of_mem _) (List.mem_append_right before)
  induction h with
  | nil => exact List.forall_mem_nil _
  | passed _ _ ih =>
    exact List.forall_mem_cons.mpr ⟨.inl List.mem_cons_self, fun m hm => wider [] (ih m hm)⟩
  | interrupted _ _ ih => exact fun m hm => (ih m hm).imp_right (List.mem_cons_of_mem _)
  | recorded _ _ _ ih =>
    exact List.forall_mem_cons.mpr ⟨.inr List.mem_cons_self, fun m hm => wider [_] (ih m hm)⟩
  | unchanged _ _ _ ih =>
    exact List.forall_mem_cons.mpr ⟨.inl List.mem_cons_self, fun m hm => wider [_] (ih m hm)⟩
  | failed _ _ _ ih =>
    exact List.forall_mem_cons.mpr ⟨.inl List.mem_cons_self, fun m hm => wider [_, _] (ih m hm)⟩

/-- Nothing is asked if no member is due. -/
theorem Surveyed.idle (h : q.Surveyed members events found)
    (none : ∀ member ∈ members, q.isDue member.status.state = false) :
    found.members = members ∧ found.reports = [] := by
  have first : ∀ {member : Member} {rest : List Member}, q.isDue member.status.state = true →
      ¬ ∀ m ∈ member :: rest, q.isDue m.status.state = false := fun due none =>
    Bool.false_ne_true ((none _ List.mem_cons_self).symm.trans due)
  induction h with
  | nil => exact ⟨rfl, rfl⟩
  | passed _ _ ih =>
    obtain ⟨same, silent⟩ := ih (List.forall_mem_cons.mp none).2
    exact ⟨by rw [same], silent⟩
  | interrupted due _ _ | recorded due _ _ _ | unchanged due _ _ _ | failed due _ _ _ =>
    exact absurd none (first due)

end Found

end JobControl.Inquiry
