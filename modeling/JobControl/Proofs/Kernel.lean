import JobControl.Proofs.Conservation

/-!
# No change of a process is lost

What the shell records of a process is what the kernel has reported last, so between two reports a
process may have changed.  Here the kernel is given: for each child it keeps the latest change until
a wait collects it, and processes may stop, go on and end at any time.  A *moment* is such a change
or a call of the shell with its answer, so a list of moments is one interleaving of both.

Every change that is collected is told as it is.  So this kernel leaves out deaths by signals
without a name, of which the shell is told nothing but an error (`Host.told`).

The invariant is that the kernel *owes* the shell whatever the shell has not right: a process is as
recorded, or its latest change is still to be collected.

## Main definitions

* `Kernel.Process`, `Kernel` — the children of the shell.
* `Moment`, `calls moments` — changes and calls, and the calls alone.
* `Kernel.Step`, `Kernel.Runs` — what one moment, and what some moments do to the kernel.
* `Kernel.Owes k group pid recorded` — a process is as recorded, or its change is to be collected.
* `Kernel.Found q k moments member member'` — asking about `member` brought what its process was.

## Main results

* `Kernel.Runs.unique` — the moments determine what becomes of the children.
* `Kernel.Owes.step`, `Kernel.Owes.answered` — what one moment does to what the kernel owes.
* `Kernel.found_of_surveyed` — an inquiry finds each member that it asks about as it is.
* `recorded_as_it_is` — **in every interleaving, polling records each member of the background job
  and of the disowned jobs as what its process is at that moment.**
-/

namespace JobControl

open Roster JobTable

/-- Which changes of a child a wait reports. -/
def WaitFlags.asks (flags : WaitFlags) : WaitStatus → Bool
  | .exited _ | .signaled _ _ => true
  | .stopped _ | .traced => flags.untraced
  | .continued => flags.continued
  | .stillAlive => false

namespace Kernel

/-- A child of the shell. -/
structure Process where
  group : Pid
  /-- Its latest change. -/
  last : WaitStatus
  /-- No wait has reported that change. -/
  isPending : Bool

namespace Process

/-- What the process does. -/
def state (p : Process) : State := p.last.state

/-- The process after a change. -/
def turned (p : Process) (status : WaitStatus) : Process :=
  { p with last := status, isPending := true }

/-- The process after its change was reported: one that has ended is gone. -/
def collected? (p : Process) : Option Process :=
  if p.state = .done then none else some { p with isPending := false }

/-- The process after its group was let go on. -/
def released (p : Process) (group : Pid) : Process :=
  if p.group = group ∧ p.state = .stopped then p.turned .continued else p

end Process
end Kernel

/-- The children of the shell that it has not collected. -/
abbrev Kernel := Pid → Option Kernel.Process

/-- A change of a process, or a call of the shell with its answer. -/
inductive Moment
  | change (pid : Pid) (status : WaitStatus)
  | call (e : Event)

/-- The call of a moment, if it is one. -/
def Moment.event? : Moment → Option Event
  | .change _ _ => none
  | .call e => some e

/-- The calls among some moments. -/
def calls (moments : List Moment) : List Event := moments.filterMap Moment.event?

namespace Kernel

/-- No children. -/
def empty : Kernel := fun _ => none

/-- What a process does; one that was collected has ended. -/
def stateOf (k : Kernel) (pid : Pid) : State := (k pid).elim .done Process.state

/-- What a moment does to the children. -/
inductive Step : Kernel → Moment → Kernel → Prop
  /-- A process stops, goes on, ends or is killed. -/
  | change {k : Kernel} {pid : Pid} {p : Process} {status : WaitStatus} : k pid = some p →
      p.state ≠ .done → status ≠ .stillAlive →
      Step k (.change pid status) (Function.update k pid (some (p.turned status)))
  | quiet {k : Kernel} {e : Event} : e.call.isQuiet = true → Step k (.call e) k
  | handOver {k : Kernel} {group : Pid} {answer : Except Errno Unit} :
      Step k (.call ⟨.setTerminalGroup group, answer⟩) k
  | forkRefused {k : Kernel} {child : Child} {errno : Errno} :
      Step k (.call ⟨.fork child, .error errno⟩) k
  /-- A new process is in its group from the beginning. -/
  | fork {k : Kernel} {child : Child} {pid : Pid} : k pid = none →
      Step k (.call ⟨.fork child, .ok pid⟩)
        (Function.update k pid (some ⟨child.group.getD pid, .stillAlive, false⟩))
  /-- All stopped members of a group go on. -/
  | continued {k : Kernel} {group : Pid} :
      Step k (.call ⟨.signalGroup group .cont, .ok ()⟩) fun pid => (k pid).map (·.released group)
  /-- What other signals do, they do later. -/
  | signal {k : Kernel} {group : Pid} {signal : Signal} {answer : Except Errno Unit} :
      signal ≠ .cont ∨ answer ≠ .ok () → Step k (.call ⟨.signalGroup group signal, answer⟩) k
  /-- A change that is asked for is reported once. -/
  | collect {k : Kernel} {pid : Pid} {p : Process} {flags : WaitFlags} : k pid = some p →
      p.isPending = true → flags.asks p.last = true →
      Step k (.call ⟨.wait pid flags, .ok p.last⟩) (Function.update k pid p.collected?)
  /-- There is nothing to report, and the shell does not wait for anything. -/
  | nothing {k : Kernel} {pid : Pid} {p : Process} {flags : WaitFlags} : k pid = some p →
      flags.noHang = true → (p.isPending = true → flags.asks p.last = false) →
      Step k (.call ⟨.wait pid flags, .ok .stillAlive⟩) k
  | interrupted {k : Kernel} {pid : Pid} {flags : WaitFlags} :
      Step k (.call ⟨.wait pid flags, .error .eintr⟩) k
  | noChild {k : Kernel} {pid : Pid} {flags : WaitFlags} : k pid = none →
      Step k (.call ⟨.wait pid flags, .error .echild⟩) k

/-- What some moments do to the children, in order. -/
inductive Runs : Kernel → List Moment → Kernel → Prop
  | nil {k : Kernel} : Runs k [] k
  | cons {k k' k'' : Kernel} {moment : Moment} {moments : List Moment} : Step k moment k' →
      Runs k' moments k'' → Runs k (moment :: moments) k''

end Kernel

@[simp] theorem calls_append (moments more : List Moment) :
    calls (moments ++ more) = calls moments ++ calls more := List.filterMap_append

namespace Kernel

variable {k k' k'' : Kernel} {moments more : List Moment} {e : Event} {events : List Event}

theorem ne_stillAlive_of_asks {flags : WaitFlags} {status : WaitStatus}
    (h : flags.asks status = true) : status ≠ .stillAlive := by
  rintro rfl
  cases h

/-- A wait that is answered reports a change that is asked for, or tells that there is none. -/
theorem Step.answered {pid : Pid} {flags : WaitFlags} {status : WaitStatus}
    (h : Step k (.call ⟨.wait pid flags, .ok status⟩) k') : ∃ p, k pid = some p ∧
      ((p.isPending = true ∧ flags.asks status = true ∧ status = p.last ∧
          k' = Function.update k pid p.collected?) ∨
        (flags.noHang = true ∧ (p.isPending = true → flags.asks p.last = false) ∧
          status = .stillAlive ∧ k' = k)) := by
  cases h with
  | quiet he => cases he
  | @collect _ p _ hp pending asked => exact ⟨p, hp, .inl ⟨pending, asked, rfl, rfl⟩⟩
  | @nothing _ p _ hp hang silent => exact ⟨p, hp, .inr ⟨hang, silent, rfl, rfl⟩⟩

/-- A moment determines what becomes of the children. -/
theorem Step.unique {moment : Moment} (h : Step k moment k') (h' : Step k moment k'') :
    k' = k'' := by
  cases h with
  | @change _ p _ hp _ _ =>
    cases h' with
    | @change _ p' _ hp' _ _ =>
      obtain rfl : p = p' := Option.some.inj (hp.symm.trans hp')
      rfl
  | quiet he => cases h' <;> first | rfl | cases he
  | handOver | forkRefused | interrupted | noChild _ => cases h' <;> rfl
  | fork _ =>
    cases h' with
    | quiet he => cases he
    | fork _ => rfl
  | continued =>
    cases h' with
    | quiet he => cases he
    | continued => rfl
    | signal hother => rcases hother with hne | hne <;> exact absurd rfl hne
  | signal hother =>
    cases h' with
    | quiet _ | signal _ => rfl
    | continued => rcases hother with hne | hne <;> exact absurd rfl hne
  | @collect _ p _ hp _ asked =>
    obtain ⟨p', hp', ⟨-, -, -, rfl⟩ | ⟨-, -, silent, -⟩⟩ := h'.answered
    · obtain rfl : p = p' := Option.some.inj (hp.symm.trans hp')
      rfl
    · exact absurd silent (ne_stillAlive_of_asks asked)
  | nothing _ _ _ =>
    obtain ⟨p', hp', ⟨-, asked, -, -⟩ | ⟨-, -, -, rfl⟩⟩ := h'.answered
    · cases asked
    · rfl

theorem Runs.unique (h : Runs k moments k') (h' : Runs k moments k'') : k' = k'' := by
  induction h with
  | nil =>
    cases h'
    rfl
  | cons step _ ih =>
    cases h' with
    | cons step' rest =>
      obtain rfl := step.unique step'
      exact ih rest

theorem Runs.append (h : Runs k moments k') (h' : Runs k' more k'') :
    Runs k (moments ++ more) k'' := by
  induction h with
  | nil => exact h'
  | cons step _ ih => exact .cons step (ih h')

theorem Runs.split (h : Runs k (moments ++ more) k'') :
    ∃ k', Runs k moments k' ∧ Runs k' more k'' := by
  induction moments generalizing k with
  | nil => exact ⟨k, .nil, h⟩
  | cons moment moments ih =>
    cases h with
    | cons step rest =>
      obtain ⟨k', before, after⟩ := ih rest
      exact ⟨k', .cons step before, after⟩

end Kernel

/-- Calls can be split wherever there is no call between. -/
theorem split_of_calls {events more : List Event} :
    ∀ {moments : List Moment}, calls moments = events ++ more →
      ∃ before after, moments = before ++ after ∧ calls before = events ∧ calls after = more := by
  induction events with
  | nil => exact fun {moments} h => ⟨[], moments, rfl, rfl, h⟩
  | cons e events ih =>
    intro moments h
    induction moments with
    | nil => cases h
    | cons moment moments ihm =>
      cases moment with
      | change pid status =>
        obtain ⟨before, after, rfl, hbefore, hafter⟩ := ihm h
        exact ⟨.change pid status :: before, after, rfl, hbefore, hafter⟩
      | call e' =>
        obtain ⟨rfl, hrest⟩ := List.cons.inj h
        obtain ⟨before, after, rfl, hbefore, hafter⟩ := ih hrest
        exact ⟨.call e' :: before, after, rfl, congrArg (e' :: ·) hbefore, hafter⟩

namespace Kernel

variable {k k' k'' : Kernel} {moments more : List Moment} {e : Event} {events : List Event}

/-- Before the first call there may be some changes. -/
theorem Runs.first_call (h : Runs k moments k'') (hcalls : calls moments = e :: events) :
    ∃ idle rest k₀ k₁, moments = idle ++ .call e :: rest ∧ calls idle = [] ∧ calls rest = events ∧
      Runs k idle k₀ ∧ Step k₀ (.call e) k₁ ∧ Runs k₁ rest k'' := by
  induction h with
  | nil => cases hcalls
  | @cons k k' _ moment moments step runs ih =>
    cases moment with
    | change pid status =>
      obtain ⟨idle, rest, k₀, k₁, rfl, hidle, hrest, before, call, after⟩ := ih hcalls
      exact ⟨.change pid status :: idle, rest, k₀, k₁, rfl, hidle, hrest, .cons step before, call,
        after⟩
    | call e' =>
      obtain ⟨rfl, hrest⟩ := List.cons.inj hcalls
      exact ⟨[], moments, k, k', rfl, rfl, hrest, .nil, step, runs⟩

/-! ### What the kernel owes -/

/-- A process is in a group, and is as recorded or has changed since. -/
def Owes (k : Kernel) (group pid : Pid) (recorded : State) : Prop :=
  ∃ p, k pid = some p ∧ p.group = group ∧
    (p.state = recorded ∨ p.isPending = true ∧ p.last ≠ .stillAlive)

/-- The event reports something of a process. -/
def Reports (e : Event) (pid : Pid) : Prop := ∃ flags status, e = ⟨.wait pid flags, .ok status⟩

variable {group pid : Pid} {recorded : State}

/-- What another process becomes does not matter. -/
theorem Owes.update_of_ne (h : Owes k group pid recorded) {other : Pid} (hne : pid ≠ other)
    (p : Option Process) : Owes (Function.update k other p) group pid recorded := by
  obtain ⟨p, hp, rest⟩ := h
  exact ⟨p, by rw [Function.update_of_ne hne, hp], rest⟩

/-- What is owed stays owed until it is reported. -/
theorem Owes.step {moment : Moment} (h : Step k moment k') (owes : Owes k group pid recorded)
    (unreported : ∀ e, moment = .call e → ¬ Reports e pid) : Owes k' group pid recorded := by
  cases h with
  | quiet _ | handOver | forkRefused | signal _ | nothing _ _ _ | interrupted | noChild _ =>
    exact owes
  | @change other p' status hp' _ htold =>
    by_cases heq : pid = other
    · obtain rfl := heq
      obtain ⟨p, hp, hgroup, -⟩ := owes
      obtain rfl : p' = p := Option.some.inj (hp'.symm.trans hp)
      exact ⟨_, Function.update_self _ _ _, hgroup, .inr ⟨rfl, htold⟩⟩
    · exact owes.update_of_ne heq _
  | @fork _ new hnone =>
    refine owes.update_of_ne ?_ _
    rintro rfl
    obtain ⟨p, hp, -⟩ := owes
    cases hnone.symm.trans hp
  | @collect other p flags _ _ _ =>
    refine owes.update_of_ne ?_ _
    rintro rfl
    exact unreported _ rfl ⟨flags, _, rfl⟩
  | @continued group' =>
    obtain ⟨p, hp, hgroup, hstate⟩ := owes
    refine ⟨p.released group', congrArg (Option.map _) hp, ?_⟩
    unfold Process.released
    split
    · exact ⟨hgroup, .inr ⟨rfl, nofun⟩⟩
    · exact ⟨hgroup, hstate⟩

/-- What is owed stays owed while it is not reported. -/
theorem Owes.runs (h : Runs k moments k') (owes : Owes k group pid recorded)
    (unreported : ∀ e ∈ calls moments, ¬ Reports e pid) : Owes k' group pid recorded := by
  induction h with
  | nil => exact owes
  | @cons _ _ _ moment moments step _ ih =>
    cases moment with
    | change _ _ => exact ih (owes.step step fun e heq => Moment.noConfusion heq) unreported
    | call e =>
      obtain ⟨he, unreported⟩ := List.forall_mem_cons.mp unreported
      refine ih (owes.step step fun e' heq => ?_) unreported
      cases heq
      exact he

/-- What is owed stays owed while the shell calls nothing. -/
theorem Owes.idle (h : Runs k moments k') (hidle : calls moments = [])
    (owes : Owes k group pid recorded) : Owes k' group pid recorded :=
  owes.runs h (by rw [hidle]; exact List.forall_mem_nil _)

/-! ### What an inquiry finds -/

variable {q : Inquiry} {member member' : Member} {members : List Member} {found : Findings}

/-- Polling asks for every change. -/
theorem asks_collect {status : WaitStatus} (h : status ≠ .stillAlive) :
    WaitFlags.collect.asks status = true := by
  cases status with
  | stillAlive => exact absurd rfl h
  | _ => rfl

/-- A process whose change was reported is still what it was, or gone if it has ended. -/
theorem stateOf_collected (k : Kernel) (pid : Pid) (p : Process) :
    stateOf (Function.update k pid p.collected?) pid = p.state := by
  rw [stateOf, Function.update_self, Process.collected?]
  split
  · next h => exact h.symm
  · rfl

/-- **An answer is recorded as what the process is then, and from then on the kernel owes the
changes that come later.** -/
theorem Owes.answered (hq : q = .blocking ∨ q = .polling) {status : WaitStatus}
    (h : Step k (.call ⟨.wait pid q.flags, .ok status⟩) k') (owes : Owes k group pid recorded) :
    (if q.counts status = true then status.state else recorded) = k'.stateOf pid ∧
      (k'.stateOf pid ≠ .done → Owes k' group pid (k'.stateOf pid)) := by
  obtain ⟨p, hp, hgroup, hstate⟩ := owes
  obtain ⟨p', hp', ⟨-, asked, rfl, rfl⟩ | ⟨hang, silent, rfl, rfl⟩⟩ := h.answered
  all_goals obtain rfl : p' = p := Option.some.inj (hp'.symm.trans hp)
  · have counted : q.counts p'.last = true := by
      rcases hq with rfl | rfl
      · rfl
      · exact decide_eq_true (ne_stillAlive_of_asks asked)
    rw [if_pos counted, stateOf_collected]
    refine ⟨rfl, fun alive => ⟨{ p' with isPending := false }, ?_, hgroup, .inl rfl⟩⟩
    rw [Function.update_self, Process.collected?, if_neg alive]
  · obtain rfl : q = .polling := by
      rcases hq with rfl | rfl
      · cases hang
      · rfl
    -- a change would have been asked for, so there is none
    have as_recorded : p'.state = recorded := by
      rcases hstate with hstate | ⟨pending, told⟩
      · exact hstate
      · rw [Inquiry.polling] at silent
        cases (silent pending).symm.trans (asks_collect told)
    have real : k'.stateOf pid = p'.state := by
      rw [stateOf, hp]
      rfl
    rw [if_neg (by decide), real, as_recorded]
    exact ⟨rfl, fun _ => ⟨p', hp, hgroup, .inl as_recorded⟩⟩

/-- A member was asked about and is recorded as what its process was right after the answer; or it
was not asked about and is recorded as before. -/
def Found (q : Inquiry) (k : Kernel) (moments : List Moment) (member member' : Member) : Prop :=
  member'.pid = member.pid ∧
    if q.isDue member.status.state = true then
      ∃ before after status k',
        moments = before ++ .call ⟨.wait member.pid q.flags, .ok status⟩ :: after ∧
        Runs k (before ++ [.call ⟨.wait member.pid q.flags, .ok status⟩]) k' ∧
        member'.status.state = k'.stateOf member.pid
    else member' = member

/-- What is found does not depend on what was before. -/
theorem Found.after (h : Runs k moments k') (h' : Found q k' more member member') :
    Found q k (moments ++ more) member member' := by
  refine ⟨h'.1, ?_⟩
  have := h'.2
  split
  · next due =>
    rw [if_pos due] at this
    obtain ⟨before, after, status, k'', rfl, runs, hstate⟩ := this
    refine ⟨moments ++ before, after, status, k'', (List.append_assoc ..).symm, ?_, hstate⟩
    rw [List.append_assoc]
    exact h.append runs
  · next undue => rwa [if_neg undue] at this

theorem mem_unended (hmember : member ∈ members) (alive : member.status.state ≠ .done) :
    member.pid ∈ unended members :=
  List.mem_map_of_mem (List.mem_filter.mpr ⟨hmember, decide_eq_true alive⟩)

theorem unended_sublist (member : Member) (members : List Member) :
    (unended members).Sublist (unended (member :: members)) :=
  ((List.sublist_cons_self member members).filter _).map _

/-- An inquiry reports nothing of other processes. -/
theorem unreported_of_surveyed (hq : q = .blocking ∨ q = .polling)
    (h : q.Surveyed members events found) (hpid : pid ∉ unended members) :
    ∀ e ∈ events, ¬ Reports e pid := by
  rintro e he ⟨flags, status, rfl⟩
  rcases h.asks _ he with ⟨entry, hentry⟩ | ⟨member, hmember, due, hwait⟩
  · cases hentry
  · cases hwait
    exact hpid (mem_unended hmember ((Inquiry.sound hq).1 due))

/-- The kernel owes what is recorded of some members. -/
def OwesAll (k : Kernel) (group : Pid) (members : List Member) : Prop :=
  ∀ member ∈ members, member.status.state ≠ .done → Owes k group member.pid member.status.state

theorem owesAll_cons : OwesAll k group (member :: members) ↔
    (member.status.state ≠ .done → Owes k group member.pid member.status.state) ∧
      OwesAll k group members := List.forall_mem_cons

theorem OwesAll.runs (h : Runs k moments k') (owes : OwesAll k group members)
    (unreported : ∀ pid ∈ unended members, ∀ e ∈ calls moments, ¬ Reports e pid) :
    OwesAll k' group members := fun member hmember alive =>
  (owes member hmember alive).runs h (unreported _ (mem_unended hmember alive))

/-- The first member is asked about, and then the others. -/
theorem found_cons (member' : Member) (hq : q = .blocking ∨ q = .polling) {status : WaitStatus}
    (due : q.isDue member.status.state = true) (hpid : member'.pid = member.pid)
    (hstate : member'.status.state =
      if q.counts status = true then status.state else member.status.state)
    (h : Runs k moments k'')
    (hcalls : calls moments = ⟨.wait member.pid q.flags, .ok status⟩ :: events)
    (hsurvey : q.Surveyed members events found) (distinct : (unended (member :: members)).Nodup)
    (owes : OwesAll k group (member :: members))
    (ih : ∀ {k moments}, Runs k moments k'' → calls moments = events → OwesAll k group members →
      found.failures = [] ∧ List.Forall₂ (Found q k moments) members found.members ∧
        OwesAll k'' group found.members) :
    found.failures = [] ∧
      List.Forall₂ (Found q k moments) (member :: members) (member' :: found.members) ∧
      OwesAll k'' group (member' :: found.members) := by
  have alive : member.status.state ≠ .done := (Inquiry.sound hq).1 due
  rw [unended_of_alive alive, List.nodup_cons] at distinct
  obtain ⟨owed, owes⟩ := owesAll_cons.mp owes
  obtain ⟨idle, later, k₀, k₁, rfl, hidle, hlater, before, call, after⟩ := h.first_call hcalls
  have owed := (owed alive).idle before hidle
  obtain ⟨real, owed⟩ := owed.answered hq call
  rw [← hstate] at real
  -- the others are not asked about before their turn
  have first : Runs k (idle ++ [.call ⟨.wait member.pid q.flags, .ok status⟩]) k₁ :=
    before.append (.cons call .nil)
  have owes₁ : OwesAll k₁ group members := by
    refine owes.runs first fun pid hpid => ?_
    rw [calls_append, hidle, List.nil_append]
    refine List.forall_mem_singleton.mpr ?_
    rintro ⟨flags, status, heq⟩
    cases heq
    exact distinct.1 hpid
  obtain ⟨none_failed, others, owed_later⟩ := ih after hlater owes₁
  refine ⟨none_failed, .cons ⟨hpid, ?_⟩ ?_, owesAll_cons.mpr ⟨fun alive' => ?_, owed_later⟩⟩
  · rw [if_pos due]
    exact ⟨idle, later, status, k₁, rfl, first, real⟩
  · rw [List.append_cons]
    exact others.imp fun _ _ h => h.after first
  · rw [real] at alive' ⊢
    rw [hpid]
    refine (owed alive').runs after ?_
    rw [hlater]
    exact unreported_of_surveyed hq hsurvey distinct.1

/-- **An inquiry finds each member that it asks about as it is then, and loses none.** -/
theorem found_of_surveyed (hq : q = .blocking ∨ q = .polling)
    (h : q.Surveyed members events found) : ∀ {k moments k'}, Runs k moments k' →
      calls moments = events → (unended members).Nodup → OwesAll k group members →
      found.failures = [] ∧ List.Forall₂ (Found q k moments) members found.members ∧
        OwesAll k' group found.members := by
  induction h with
  | nil => exact fun _ _ _ _ => ⟨rfl, .nil, List.forall_mem_nil _⟩
  | @passed member rest _ found undue hsurvey ih =>
    intro k moments k' h hcalls distinct owes
    obtain ⟨owed, owes⟩ := owesAll_cons.mp owes
    obtain ⟨none_failed, others, owed_later⟩ :=
      ih h hcalls (distinct.sublist (unended_sublist member rest)) owes
    refine ⟨none_failed, .cons ⟨rfl, ?_⟩ others, owesAll_cons.mpr ⟨fun alive => ?_, owed_later⟩⟩
    · rw [if_neg (by rw [undue]; nofun)]
    · rw [unended_of_alive alive, List.nodup_cons] at distinct
      refine (owed alive).runs h ?_
      rw [hcalls]
      exact unreported_of_surveyed hq hsurvey distinct.1
  | @interrupted member rest _ _ due _ ih =>
    intro k moments k' h hcalls distinct owes
    obtain ⟨idle, later, k₀, k₁, rfl, hidle, hlater, before, call, after⟩ := h.first_call hcalls
    have first : Runs k (idle ++ [.call ⟨.wait member.pid q.flags, .error .eintr⟩]) k₁ :=
      before.append (.cons call .nil)
    have owes₁ : OwesAll k₁ group (member :: rest) := by
      refine owes.runs first fun pid _ => ?_
      rw [calls_append, hidle, List.nil_append]
      refine List.forall_mem_singleton.mpr ?_
      rintro ⟨flags, status, heq⟩
      cases heq
    obtain ⟨none_failed, members, owed_later⟩ := ih after hlater distinct owes₁
    rw [List.append_cons]
    exact ⟨none_failed, members.imp fun _ _ h => h.after first, owed_later⟩
  | @recorded member rest _ found status due counts hsurvey ih =>
    intro k moments k' h hcalls distinct owes
    exact found_cons { member with status } hq due rfl (if_pos counts).symm h hcalls hsurvey
      distinct owes fun h hcalls owes =>
        ih h hcalls (distinct.sublist (unended_sublist member rest)) owes
  | @unchanged member rest _ found status due counts hsurvey ih =>
    intro k moments k' h hcalls distinct owes
    refine found_cons member hq due rfl ?_ h hcalls hsurvey distinct owes fun h hcalls owes =>
      ih h hcalls (distinct.sublist (unended_sublist member rest)) owes
    rw [if_neg (by rw [counts]; nofun)]
  | @failed member rest _ _ errno due hne _ ih =>
    intro k moments k' h hcalls distinct owes
    obtain ⟨owed, -⟩ := owesAll_cons.mp owes
    obtain ⟨idle, later, k₀, k₁, rfl, hidle, -, before, call, -⟩ := h.first_call hcalls
    obtain ⟨p, hp, -⟩ := (owed ((Inquiry.sound hq).1 due)).idle before hidle
    -- only a process that is not there cannot be waited for
    cases call with
    | quiet he => cases he
    | interrupted => exact absurd rfl hne
    | noChild hnone => cases hnone.symm.trans hp

/-! ### What the kernel owes of all jobs -/

/-- The kernel owes what is recorded of the members of some jobs. -/
def Tracks (k : Kernel) (jobs : Multiset Job) : Prop :=
  ∀ job ∈ jobs, OwesAll k job.pgid job.members

variable {own : Pid} {jobs jobs' : Multiset Job} {job : Job}

theorem tracks_cons : Tracks k (job ::ₘ jobs) ↔
    OwesAll k job.pgid job.members ∧ Tracks k jobs := Multiset.forall_mem_cons

theorem Tracks.runs (h : Runs k moments k') (tracks : Tracks k jobs)
    (unreported : ∀ pid ∈ live jobs, ∀ e ∈ calls moments, ¬ Reports e pid) : Tracks k' jobs :=
  fun job hjob => (tracks job hjob).runs h fun pid hpid =>
    unreported pid (Multiset.mem_bind.mpr ⟨job, hjob, hpid⟩)

/-- Events that report nothing keep what is owed. -/
theorem Tracks.unreported (h : Runs k moments k') (tracks : Tracks k jobs)
    (unreported : ∀ e ∈ calls moments, ∀ pid, ¬ Reports e pid) : Tracks k' jobs :=
  tracks.runs h fun pid _ e he => unreported e he pid

theorem Tracks.idle (h : Runs k moments k') (hidle : calls moments = []) (tracks : Tracks k jobs) :
    Tracks k' jobs := fun job hjob member hmember alive =>
  (tracks job hjob member hmember alive).idle h hidle

theorem not_reports_of_quiet (he : e.call.isQuiet = true) (pid : Pid) : ¬ Reports e pid := by
  rintro ⟨flags, status, rfl⟩
  cases he

/-- A group that goes on makes each member recorded as stopped run, or it has changed already. -/
theorem OwesAll.resumed (h : Step k (.call ⟨.signalGroup job.pgid .cont, .ok ()⟩) k')
    (owes : OwesAll k job.pgid job.members) : OwesAll k' job.pgid job.resumed.members := by
  intro member' hmember' alive'
  obtain ⟨member, hmember, rfl⟩ := List.mem_map.mp hmember'
  by_cases stopped : member.status.state = .stopped
  · rw [if_pos stopped]
    obtain ⟨p, hp, hgroup, hstate⟩ := owes member hmember (by rw [stopped]; nofun)
    cases h with
    | quiet he => cases he
    | signal hother => rcases hother with hne | hne <;> exact absurd rfl hne
    | continued =>
      refine ⟨p.released job.pgid, congrArg (Option.map _) hp, ?_⟩
      by_cases waits : p.group = job.pgid ∧ p.state = .stopped
      · rw [Process.released, if_pos waits]
        exact ⟨hgroup, .inl rfl⟩
      · rw [Process.released, if_neg waits]
        exact ⟨hgroup, .inr (hstate.resolve_left fun h => waits ⟨hgroup, h.trans stopped⟩)⟩
  · rw [if_neg stopped] at alive' ⊢
    refine (owes member hmember alive').step h ?_
    rintro e heq ⟨flags, status, rfl⟩
    cases heq

/-- **What happens to the jobs followed keeps what the kernel owes of them.** -/
theorem Tracks.step (hq : q = .blocking ∨ q = .polling) (h : Roster.Step own q jobs events jobs')
    (runs : Runs k moments k') (hcalls : calls moments = events) (distinct : (live jobs).Nodup)
    (tracks : Tracks k jobs) : Tracks k' jobs' := by
  cases h with
  | quiet he =>
    refine tracks.unreported runs ?_
    rw [hcalls]
    exact List.forall_mem_singleton.mpr (not_reports_of_quiet he)
  | signal _ _ | handOver _ | takeBack =>
    refine tracks.unreported runs ?_
    rw [hcalls]
    refine List.forall_mem_singleton.mpr ?_
    rintro pid ⟨flags, status, heq⟩
    cases heq
  | place _ =>
    obtain ⟨owes, others⟩ := tracks_cons.mp (tracks.idle runs hcalls)
    exact tracks_cons.mpr ⟨owes, others⟩
  | release _ =>
    exact (tracks_cons.mp (tracks.idle runs hcalls)).2
  | @inquire job _ _ found hsurvey =>
    obtain ⟨owes, others⟩ := tracks_cons.mp tracks
    rw [live_cons] at distinct
    obtain ⟨distinct, -, disjoint⟩ := Multiset.nodup_add.mp distinct
    obtain ⟨-, -, owes'⟩ :=
      found_of_surveyed hq hsurvey runs hcalls (Multiset.coe_nodup.mp distinct) owes
    refine tracks_cons.mpr ⟨fun member hmember => owes' member (List.mem_of_mem_filter hmember), ?_⟩
    refine others.runs runs fun pid hpid => ?_
    rw [hcalls]
    exact unreported_of_surveyed hq hsurvey fun hmem => Multiset.disjoint_left.mp disjoint hmem hpid
  | @resume job _ _ =>
    obtain ⟨idle, later, k₀, k₁, rfl, hidle, hlater, before, call, after⟩ := runs.first_call hcalls
    obtain ⟨owes, others⟩ := tracks_cons.mp (tracks.idle before hidle)
    have others := others.unreported (.cons call .nil) (List.forall_mem_singleton.mpr (by
      rintro pid ⟨flags, status, heq⟩
      cases heq))
    have tracks : Tracks k₁ (job.resumed ::ₘ _) := tracks_cons.mpr ⟨owes.resumed call, others⟩
    exact tracks.idle after hlater

/-! ### New processes -/

/-- Processes just started run in the group of the first. -/
theorem owes_of_started {started started' : List Pid} {leader : Pid}
    (h : Spawn.Started started events started') : ∀ {k moments}, Runs k moments k' →
      calls moments = events → started'.head? = some leader →
      (∀ pid ∈ started, Owes k leader pid .running) →
      ∀ pid ∈ started', Owes k' leader pid .running := by
  induction h with
  | nil =>
    intro k moments h hcalls _ owes pid hpid
    exact (owes pid hpid).idle h hcalls
  | quiet he _ ih =>
    intro k moments h hcalls hleader owes
    obtain ⟨idle, later, k₀, k₁, rfl, hidle, hlater, before, call, after⟩ := h.first_call hcalls
    refine ih after hlater hleader fun pid hpid => ?_
    have owed := (owes pid hpid).idle before hidle
    refine owed.step call fun e heq => ?_
    cases heq
    exact not_reports_of_quiet he pid
  | refused _ ih =>
    intro k moments h hcalls hleader owes
    obtain ⟨idle, later, k₀, k₁, rfl, hidle, hlater, before, call, after⟩ := h.first_call hcalls
    refine ih after hlater hleader fun pid hpid => ?_
    have owed := (owes pid hpid).idle before hidle
    refine owed.step call ?_
    rintro e heq ⟨flags, status, rfl⟩
    cases heq
  | @forked started started' _ child new hgroup hrest ih =>
    intro k moments h hcalls hleader owes
    obtain ⟨idle, later, k₀, k₁, rfl, hidle, hlater, before, call, after⟩ := h.first_call hcalls
    have joined : child.group.getD new = leader := by
      rw [hrest.forks_eq] at hleader
      rw [hgroup, Spawn.group]
      cases started with
      | nil => exact Option.some.inj hleader
      | cons first _ => exact Option.some.inj hleader
    refine ih after hlater hleader fun pid hpid => ?_
    rcases List.mem_append.mp hpid with hpid | hpid
    · have owed := (owes pid hpid).idle before hidle
      refine owed.step call ?_
      rintro e heq ⟨flags, status, rfl⟩
      cases heq
    · obtain rfl := List.mem_singleton.mp hpid
      cases call with
      | quiet he => cases he
      | fork _ => exact ⟨_, Function.update_self _ _ _, joined, .inl rfl⟩

/-- Starting processes reports nothing. -/
theorem unreported_of_started {started started' : List Pid}
    (h : Spawn.Started started events started') : ∀ e ∈ events, ∀ pid, ¬ Reports e pid := by
  induction h with
  | nil => exact List.forall_mem_nil _
  | quiet he _ ih => exact List.forall_mem_cons.mpr ⟨not_reports_of_quiet he, ih⟩
  | refused _ ih | forked _ _ ih =>
    refine List.forall_mem_cons.mpr ⟨?_, ih⟩
    rintro pid ⟨flags, status, heq⟩
    cases heq

/-- **The members of a job just launched run in its group.** -/
theorem Tracks.launch {started : List Pid} (foreground : Bool)
    (h : Spawn.Started [] events started) (runs : Runs k moments k')
    (hcalls : calls moments = events) (tracks : Tracks k jobs) :
    Tracks k' ((Job.ofPids? started foreground).toList + jobs) := by
  intro job hjob
  rcases Multiset.mem_add.mp hjob with hjob | hjob
  · cases started with
    | nil => cases hjob
    | cons leader rest =>
      rw [ofPids?_cons] at hjob
      obtain rfl := List.mem_singleton.mp hjob
      intro member hmember _
      obtain ⟨pid, hpid, rfl⟩ := List.mem_map.mp hmember
      exact owes_of_started h runs hcalls rfl (List.forall_mem_nil _) pid hpid
  · refine tracks.unreported runs ?_ job hjob
    rw [hcalls]
    exact unreported_of_started h

/-! ### The processes that there are -/

/-- A call starts processes where there were none, and takes away those that it settles. -/
theorem exists_of_step (h : Step k (.call e) k') :
    (∀ pid, e.newPid? = some pid → k pid = none) ∧
      ∀ pid, k' pid ≠ none ↔ e.newPid? = some pid ∨ (k pid ≠ none ∧ e.settledPid? ≠ some pid) := by
  have unchanged : e.newPid? = none → e.settledPid? = none →
      (∀ pid, e.newPid? = some pid → k pid = none) ∧
        ∀ pid, k pid ≠ none ↔ e.newPid? = some pid ∨ (k pid ≠ none ∧ e.settledPid? ≠ some pid) := by
    intro hnew hsettled
    rw [hnew, hsettled]
    simp
  cases h with
  | quiet he => exact unchanged (Event.newPid?_of_quiet he) (Event.settledPid?_of_quiet he)
  | handOver | forkRefused | signal _ => exact unchanged rfl rfl
  | interrupted => exact unchanged rfl (by rw [Event.settledPid?_error, if_pos rfl])
  | nothing _ _ _ => exact unchanged rfl (by rw [Event.settledPid?_ok, if_neg nofun])
  | continued =>
    obtain ⟨hnew, hexists⟩ := unchanged rfl rfl
    refine ⟨hnew, fun pid => ?_⟩
    rw [← hexists, ne_eq, Option.map_eq_none_iff]
  | @fork child new hnone =>
    refine ⟨fun pid hpid => Option.some.inj hpid ▸ hnone, fun pid => ?_⟩
    by_cases heq : pid = new
    · rw [heq, Function.update_self]
      exact iff_of_true nofun (.inl rfl)
    · rw [Function.update_of_ne heq]
      exact ⟨fun h => .inr ⟨h, nofun⟩, fun h => h.elim
        (fun hnew => absurd (Option.some.inj hnew).symm heq) And.left⟩
  | @collect other p flags hp pending asked =>
    refine ⟨nofun, fun pid => ?_⟩
    rw [Event.settledPid?_ok]
    by_cases heq : pid = other
    · rw [heq, Function.update_self, Process.collected?, hp, Process.state]
      by_cases hdone : p.last.state = .done
      · rw [if_pos hdone, if_pos hdone]
        exact iff_of_false (fun h => h rfl) (fun h => h.elim nofun fun h => h.2 rfl)
      · rw [if_neg hdone, if_neg hdone]
        exact iff_of_true nofun (.inr ⟨nofun, nofun⟩)
    · rw [Function.update_of_ne heq]
      refine ⟨fun h => .inr ⟨h, ?_⟩, fun h => h.elim nofun And.left⟩
      split
      · exact fun h => heq (Option.some.inj h).symm
      · nofun
  | @noChild other flags hnone =>
    refine ⟨nofun, fun pid => ?_⟩
    rw [Event.settledPid?_error, if_neg (by decide)]
    refine ⟨fun h => .inr ⟨h, fun heq => h ?_⟩, fun h => h.elim nofun And.left⟩
    exact Option.some.inj heq ▸ hnone

/-- **The kernel has the processes that are unsettled, and starts no other in their place.** -/
theorem fresh_of_runs (h : Runs empty moments k) :
    FreshForks (calls moments) ∧ ∀ pid, k pid ≠ none ↔ Unsettled (calls moments) pid := by
  induction moments using List.reverseRecOn generalizing k with
  | nil =>
    cases h
    refine ⟨.of_nodup List.nodup_nil, fun pid => iff_of_false (fun h => h rfl) ?_⟩
    rintro ⟨before, e, after, heq, -⟩
    exact List.append_ne_nil_of_right_ne_nil _ (List.cons_ne_nil _ _) heq.symm
  | append_singleton moments moment ih =>
    obtain ⟨k₀, before, last⟩ := h.split
    obtain ⟨fresh, exists_iff⟩ := ih before
    rw [calls_append]
    cases last with
    | cons step rest =>
      cases rest
      cases moment with
      | change pid status =>
        have uncalled : calls [.change pid status] = [] := rfl
        rw [uncalled, List.append_nil]
        refine ⟨fresh, fun other => ?_⟩
        rw [← exists_iff]
        cases step with
        | @change _ p _ hp _ _ =>
          by_cases heq : other = pid
          · rw [heq, Function.update_self, hp]
            exact iff_of_true nofun nofun
          · rw [Function.update_of_ne heq]
      | call e =>
        obtain ⟨hnew, hexists⟩ := exists_of_step step
        refine ⟨fresh.concat fun pid hpid => ?_, fun pid => ?_⟩
        · rw [← exists_iff]
          exact fun h => h (hnew pid hpid)
        · rw [hexists, exists_iff]
          exact unsettled_concat.symm

end Kernel

/-! ### Courses in a kernel -/

/-- After a history, the kernel owes what is recorded of some jobs, whatever changes there were. -/
structure Tracked (history : List Event) (jobs : Multiset Job) : Prop where
  conserved : FreshForks history → Conserved history jobs
  tracks : ∀ {moments k}, Kernel.Runs .empty moments k → calls moments = history →
    Kernel.Tracks k jobs

variable {own : Pid} {q : Inquiry} {history events : List Event} {first last : Multiset Job}

theorem Tracked.step (hq : q = .blocking ∨ q = .polling) (h : Roster.Step own q first events last)
    (inv : Tracked history first) : Tracked (history ++ events) last := by
  refine ⟨fun fresh => (inv.conserved fresh.left).step hq h, fun {moments k} runs hcalls => ?_⟩
  obtain ⟨before, during, rfl, rfl, hduring⟩ := split_of_calls hcalls
  obtain ⟨k₀, runs, runs'⟩ := runs.split
  have fresh := (Kernel.fresh_of_runs runs).1
  have distinct := (outstanding_spec fresh).1
  rw [← (inv.conserved fresh).live_eq] at distinct
  exact (inv.tracks runs rfl).step hq h runs' hduring distinct

theorem Tracked.launch {started : List Pid} (foreground : Bool)
    (h : Spawn.Started [] events started) (inv : Tracked history first) :
    Tracked (history ++ events) ((Job.ofPids? started foreground).toList + first) := by
  refine ⟨fun fresh => (inv.conserved fresh.left).launch foreground fresh h,
    fun {moments k} runs hcalls => ?_⟩
  obtain ⟨before, during, rfl, rfl, hduring⟩ := split_of_calls hcalls
  obtain ⟨k₀, runs, runs'⟩ := runs.split
  exact (inv.tracks runs rfl).launch foreground h runs' hduring

variable {terminal : Terminal} {shell shell' : Shell}

theorem Course.tracked (h : Course terminal history shell) : Tracked history shell.jobs.roster := by
  refine h.preserves Tracked ⟨fun _ => ⟨rfl, ?_⟩, fun _ _ => ?_⟩ Tracked.step Tracked.launch
  · exact fun job hjob => absurd hjob (Multiset.notMem_zero job)
  · exact fun job hjob => absurd hjob (Multiset.notMem_zero job)

/-- **However changes of the processes and operations of the shell are interleaved: when the shell
collects what is to be reported, each job that is not in the foreground is polled, and each member
that has not ended is recorded as what its process is right after the answer to its wait.** -/
theorem recorded_as_it_is {moments reaping : List Moment} {k k' : Kernel} {rounds : Nat}
    (h : Course terminal (calls moments) shell) (runs : Kernel.Runs .empty moments k)
    (hreap : (shell.reapBackground rounds).Run (calls reaping) shell')
    (runs' : Kernel.Runs k reaping k') :
    ∀ job ∈ shell.jobs.background.toList ++ shell.jobs.disowned,
      ∃ before during after middle job', reaping = before ++ (during ++ after) ∧
        Kernel.Runs k before middle ∧ (job.poll rounds).Run (calls during) job' ∧
        (job'.state = .done ∨ job' ∈ shell'.jobs.background.toList ++ shell'.jobs.disowned) ∧
        List.Forall₂ (Kernel.Found .polling middle during) job.members job'.members := by
  intro job hjob
  obtain ⟨-, -, polling, announcing, hcalls, -, polled⟩ := run_reapBackground hreap
  have hrear : job ∈ shell.jobs.rear := List.perm_append_comm.mem_iff.mp hjob
  obtain ⟨asked, answers, rest, job', others, rfl, hpoll, kept, steps⟩ :=
    polled.split terminal.shellGroup hrear 0
  rw [List.append_assoc, List.append_assoc] at hcalls
  obtain ⟨before, later, rfl, hbefore, hlater⟩ := split_of_calls hcalls
  obtain ⟨during, after, rfl, hduring, -⟩ := split_of_calls hlater
  obtain ⟨middle, runs_before, runs_later⟩ := runs'.split
  obtain ⟨ending, runs_during, -⟩ := runs_later.split
  refine ⟨before, during, after, middle, job', rfl, runs_before, hduring ▸ hpoll, ?_, ?_⟩
  · exact kept.imp_right List.perm_append_comm.mem_iff.mp
  -- until its turn comes, the kernel owes what is recorded of the job
  have tracked := h.tracked
  rw [roster_eq_rear h.settled.free, ← Multiset.add_zero (shell.jobs.rear : Multiset Job)]
    at tracked
  have tracked := steps.preserves Tracked (Tracked.step (.inr rfl)) _ tracked
  have all := runs.append runs_before
  have history : calls (moments ++ before) = calls moments ++ asked := by
    rw [calls_append, hbefore]
  obtain ⟨owes, -⟩ := Kernel.tracks_cons.mp (tracked.tracks all history)
  have fresh := (Kernel.fresh_of_runs all).1
  have distinct := (outstanding_spec fresh).1
  rw [history] at fresh distinct
  rw [← (tracked.conserved fresh).live_eq, live_cons, Multiset.nodup_add] at distinct
  obtain ⟨found, hsurvey, rfl⟩ := run_poll hpoll
  obtain ⟨none_failed, recorded, -⟩ := Kernel.found_of_surveyed (.inr rfl) hsurvey runs_during
    hduring (Multiset.coe_nodup.mp distinct.1) owes
  have all_kept : found.kept = found.members := by
    rw [Findings.kept, none_failed]
    exact List.filter_eq_self.mpr fun _ _ => rfl
  rw [Job.record, all_kept]
  exact recorded

/-! ### Two processes in a kernel -/

namespace Sample

/-- Two processes are started, and the second stops. -/
def stopping : List Moment := launching.map .call ++ [.change 8 (.stopped .tstp)]

/-- The children of the shell then. -/
def children : Kernel :=
  Function.update
    (Function.update (Function.update Kernel.empty 7 (some ⟨7, .stillAlive, false⟩)) 8
      (some ⟨7, .stillAlive, false⟩)) 8 (some ⟨7, .stopped .tstp, true⟩)

/-- The first process ends when it was just polled. -/
def polling : List Moment := [
  .call ⟨.wait 7 .collect, .ok .stillAlive⟩, .change 7 (.exited 3),
  .call ⟨.wait 8 .collect, .ok (.stopped .tstp)⟩]

theorem runs_stopping : Kernel.Runs .empty stopping children :=
  .cons (.quiet rfl) (.cons (.quiet rfl) (.cons (.quiet rfl) (.cons (.quiet rfl) (.cons (.quiet rfl)
    (.cons (.fork rfl) (.cons (.quiet rfl) (.cons (.quiet rfl) (.cons (.fork rfl)
      (.cons (.quiet rfl) (.cons (.quiet rfl) (.cons (.quiet rfl)
        (.cons (.change (p := ⟨7, .stillAlive, false⟩) rfl nofun nofun) .nil))))))))))))

theorem runs_polling : ∃ k, Kernel.Runs children polling k :=
  ⟨_, .cons (.nothing (p := ⟨7, .stillAlive, false⟩) rfl rfl nofun)
    (.cons (.change (p := ⟨7, .stillAlive, false⟩) rfl nofun nofun)
      (.cons (.collect (p := ⟨7, .stopped .tstp, true⟩) rfl rfl rfl) .nil))⟩

theorem run_polling : ((shellWith [⟨7, .stillAlive⟩, ⟨8, .stillAlive⟩]).reapBackground 2).Run
    (calls polling) { shellWith [⟨7, .stillAlive⟩, ⟨8, .stopped .tstp⟩] with
      jobs.background := some ⟨7, [⟨7, .stillAlive⟩, ⟨8, .stopped .tstp⟩], false,
        some (.stopped .tstp)⟩ } :=
  .ask (.ask (.done _))

end Sample

/-- The first process is recorded as running although it has ended meanwhile; the second, which has
stopped, as stopped. -/
theorem recorded_while_ending : ∃ before during after middle job',
    Sample.polling = before ++ (during ++ after) ∧ Kernel.Runs Sample.children before middle ∧
      List.Forall₂ (Kernel.Found .polling middle during) [⟨7, .stillAlive⟩, ⟨8, .stillAlive⟩]
        (Job.members job') := by
  obtain ⟨k', runs'⟩ := Sample.runs_polling
  have course : Course (.detached 1) (calls Sample.stopping) _ :=
    (Session.line .fresh Sample.run_launching).course
  obtain ⟨before, during, after, middle, job', hsplit, runs_before, -, -, found⟩ :=
    recorded_as_it_is course Sample.runs_stopping Sample.run_polling runs' _
      (List.mem_singleton_self _)
  exact ⟨before, during, after, middle, job', hsplit, runs_before, found⟩

end JobControl
