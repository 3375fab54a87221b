import Mathlib.Data.Multiset.ZeroCons
import JobControl.Proofs.Session

/-!
# The books of a shell

A pid can be given to a new process as soon as the old one was collected, so a shell must not wait
for, signal or lend the terminal to a process that it has seen the end of.  The *books* tell which
processes these are.  They are kept along the events alone: a fork opens an entry, an answer to a
wait is noted in one entry, and an entry is closed when its process has ended or cannot be waited
for.  An entry stays at its place for ever, so the place tells apart two processes with one pid.

`Books.Step` allows a wait only for an open entry, and a signal or the terminal only for a group
that has one.  Every course of a shell can be read into books by these rules, and its jobs are what
the books say of them.

## Main definitions

* `Entry`, `Launch`, `Books` — a process, the processes of one job, and all jobs ever launched.
* `Books.Step own books e books'` — an event is allowed, and noted.
* `Books.Reads own books events books'` — so are some events, in order.
* `Books.Ties jobs books` — the books have the members of some jobs as they are recorded there.
* `Books.Accounts terminal lines shell shells states` — a session taken down in books.
* `Roster.Attends own first events last` — waits without end are for the job in the foreground.

## Main results

* `Books.closed_unchanged` — a closed entry is never changed.
* `Books.reads_of_surveyed`, `Books.Ties.step` — inquiries and steps can be read.
* `Session.accounts` — every session can be taken down in books.
* `waits_and_signals_spare_the_dead` — **waits and signals spare the processes that have ended or
  are lost, and only running members of the job in the foreground are waited for without end.**
-/

namespace JobControl

open Roster JobTable

/-- A process that was started for a job. -/
structure Entry where
  pid : Pid
  /-- What was last recorded of it. -/
  status : WaitStatus
  /-- It could not be waited for. -/
  lost : Bool
  deriving DecidableEq

namespace Entry

/-- The process may still be waited for. -/
def IsOpen (e : Entry) : Prop := e.status.state ≠ .done ∧ e.lost = false

/-- A process just started. -/
def opened (pid : Pid) : Entry := ⟨pid, .stillAlive, false⟩

/-- A member of a job as the books have it. -/
def ofMember (m : Member) : Entry := ⟨m.pid, m.status, false⟩

/-- The answer to a wait is noted.  One that was made without waiting may tell nothing new. -/
def answered (e : Entry) (flags : WaitFlags) : Except Errno WaitStatus → Entry
  | .ok status =>
    if flags.noHang = true ∧ status = .stillAlive then e else { e with status }
  | .error errno => if errno = .eintr then e else { e with lost := true }

/-- An entry is closed when its process has ended. -/
theorem closed_of_done {e : Entry} {flags : WaitFlags} {status : WaitStatus}
    (h : status.state = .done) : ¬ (e.answered flags (.ok status)).IsOpen := by
  have told : ¬ (flags.noHang = true ∧ status = .stillAlive) := by
    rintro ⟨-, rfl⟩
    cases h
  rw [answered, if_neg told]
  exact fun hopen => hopen.1 h

/-- An entry is closed when its process cannot be waited for. -/
theorem closed_of_failure {e : Entry} {flags : WaitFlags} {errno : Errno} (h : errno ≠ .eintr) :
    ¬ (e.answered flags (.error errno)).IsOpen := by
  rw [answered, if_neg h]
  exact fun hopen => Bool.noConfusion hopen.2

/-- The group was let go on. -/
def continued (e : Entry) : Entry :=
  if e.lost = false ∧ e.status.state = .stopped then { e with status := .stillAlive } else e

@[simp] theorem pid_answered (e : Entry) (flags : WaitFlags) (answer : Except Errno WaitStatus) :
    (e.answered flags answer).pid = e.pid := by
  unfold answered
  repeat' split
  all_goals rfl

@[simp] theorem pid_continued (e : Entry) : e.continued.pid = e.pid := by
  unfold continued
  split <;> rfl

/-- An entry that is closed stays as it is when the group goes on. -/
theorem continued_of_closed {e : Entry} (h : ¬ e.IsOpen) : e.continued = e := by
  refine if_neg fun ⟨hlost, hstopped⟩ => h ⟨?_, hlost⟩
  rw [hstopped]
  nofun

end Entry

/-- The processes started for one job, the leader of its group first. -/
abbrev Launch := List Entry

namespace Launch

/-- The group of a job. -/
def group? (launch : Launch) : Option Pid := (launch.map (·.pid)).head?

/-- Some process of the job may still be waited for. -/
def IsOpen (launch : Launch) : Prop := ∃ e ∈ launch, e.IsOpen

end Launch

/-- All jobs ever launched, in order. -/
abbrev Books := List Launch

namespace Books

/-- The entry at a place. -/
def entryAt (books : Books) (i k : Nat) : Option Entry := books[i]?.bind (·[k]?)

/-- An event is allowed by the books, and noted there. -/
inductive Step (own : Pid) : Books → Event → Books → Prop
  | quiet {books : Books} {e : Event} : e.call.isQuiet = true → Step own books e books
  | forkRefused {books : Books} {child : Child} {errno : Errno} :
      Step own books ⟨.fork child, .error errno⟩ books
  /-- The first process of a job leads a new group. -/
  | leader {books : Books} {child : Child} {pid : Pid} : child.group = none →
      Step own books ⟨.fork child, .ok pid⟩ (books ++ [[.opened pid]])
  /-- A later process of the last job joins its group. -/
  | stage {books : Books} {launch : Launch} {child : Child} {pid : Pid} : launch ≠ [] →
      child.group = launch.group? →
      Step own (books ++ [launch]) ⟨.fork child, .ok pid⟩ (books ++ [launch ++ [.opened pid]])
  /-- Only an open entry is waited for, and without end only if it is recorded as running. -/
  | wait {before after : Books} {left right : Launch} {e : Entry} {flags : WaitFlags}
      {answer : Except Errno WaitStatus} : e.IsOpen →
      (flags.noHang = false → e.status.state = .running) →
      Step own (before ++ (left ++ e :: right) :: after) ⟨.wait e.pid flags, answer⟩
        (before ++ (left ++ e.answered flags answer :: right) :: after)
  /-- Only a group with an open entry is let go on. -/
  | continued {before after : Books} {launch : Launch} {group : Pid} :
      launch.group? = some group → launch.IsOpen →
      Step own (before ++ launch :: after) ⟨.signalGroup group .cont, .ok ()⟩
        (before ++ launch.map Entry.continued :: after)
  /-- Only a group with an open entry gets any signal. -/
  | signal {books : Books} {launch : Launch} {group : Pid} {signal : Signal}
      {answer : Except Errno Unit} : launch ∈ books → launch.group? = some group →
      launch.IsOpen → signal ≠ .cont ∨ answer ≠ .ok () →
      Step own books ⟨.signalGroup group signal, answer⟩ books
  /-- Only a group with an open entry gets the terminal. -/
  | handOver {books : Books} {launch : Launch} {group : Pid} {answer : Except Errno Unit} :
      launch ∈ books → launch.group? = some group → launch.IsOpen →
      Step own books ⟨.setTerminalGroup group, answer⟩ books
  /-- The shell takes the terminal back. -/
  | takeBack {books : Books} {answer : Except Errno Unit} :
      Step own books ⟨.setTerminalGroup own, answer⟩ books

/-- Some events are allowed, and noted in order. -/
inductive Reads (own : Pid) : Books → List Event → Books → Prop
  | nil {books : Books} : Reads own books [] books
  | cons {first middle last : Books} {e : Event} {events : List Event} :
      Step own first e middle → Reads own middle events last → Reads own first (e :: events) last

variable {own : Pid} {books first middle last : Books} {events more : List Event}

theorem Step.reads {e : Event} (h : Step own first e last) : Reads own first [e] last :=
  .cons h .nil

theorem Reads.append (h : Reads own first events middle) (h' : Reads own middle more last) :
    Reads own first (events ++ more) last := by
  induction h with
  | nil => exact h'
  | cons step _ ih => exact .cons step (ih h')

theorem Reads.quiet (h : Quiet events) : Reads own books events books := by
  induction events with
  | nil => exact .nil
  | cons e events ih =>
    obtain ⟨he, h⟩ := quiet_cons.mp h
    exact .cons (.quiet he) (ih h)

/-- Each of some events takes the books from one state to the next. -/
def Follows (own : Pid) (events : List Event) (states : Nat → Books) : Prop :=
  ∀ n e, events[n]? = some e → Step own (states n) e (states (n + 1))

/-- What stands at a place of a list with one more entry. -/
theorem getElem?_concat {α : Type} {xs : List α} {x y : α} {n : Nat}
    (h : (xs ++ [x])[n]? = some y) :
    (n < xs.length ∧ xs[n]? = some y) ∨ (n = xs.length ∧ y = x) := by
  by_cases hn : n < xs.length
  · rw [List.getElem?_append_left hn] at h
    exact .inl ⟨hn, h⟩
  · obtain ⟨hlt, -⟩ := List.getElem?_eq_some_iff.mp h
    have hlast : n = xs.length := by
      rw [List.length_append, List.length_singleton] at hlt
      omega
    subst hlast
    rw [List.getElem?_append_right le_rfl, Nat.sub_self] at h
    exact .inr ⟨rfl, (Option.some.inj h).symm⟩

theorem Follows.concat {states : Nat → Books} {e : Event} {next : Books}
    (h : Follows own events states) (step : Step own (states events.length) e next) :
    Follows own (events ++ [e]) (Function.update states (events.length + 1) next) := by
  intro n e' he
  rcases getElem?_concat he with ⟨hn, he⟩ | ⟨rfl, rfl⟩
  · rw [Function.update_of_ne (by omega), Function.update_of_ne (by omega)]
    exact h n e' he
  · rw [Function.update_of_ne (by omega), Function.update_self]
    exact step

/-- What is read after some events leaves the books in a state after each event. -/
theorem Reads.follows (h : Reads own first more last) :
    ∀ {events : List Event} {states : Nat → Books}, Follows own events states →
      states events.length = first →
      ∃ states' : Nat → Books, (∀ n ≤ events.length, states' n = states n) ∧
        states' (events ++ more).length = last ∧ Follows own (events ++ more) states' := by
  induction h with
  | nil =>
    intro events states follows hfirst
    rw [List.append_nil]
    exact ⟨states, fun _ _ => rfl, hfirst, follows⟩
  | @cons _ middle _ e more step _ ih =>
    intro events states follows hfirst
    rw [← hfirst] at step
    have hmiddle : Function.update states (events.length + 1) middle (events ++ [e]).length =
        middle := by
      rw [List.length_append, List.length_singleton, Function.update_self]
    obtain ⟨states', same, hlast, follows'⟩ := ih (follows.concat step) hmiddle
    rw [← List.append_cons] at hlast follows'
    refine ⟨states', fun n hn => ?_, hlast, follows'⟩
    rw [same n (by rw [List.length_append]; omega), Function.update_of_ne (by omega)]

/-! ### Closed entries -/

theorem getElem?_at {α : Type} (before after : List α) (x : α) :
    (before ++ x :: after)[before.length]? = some x := by
  rw [List.getElem?_append_right le_rfl, Nat.sub_self]
  rfl

/-- What stands beside a place does not depend on what stands there. -/
theorem getElem?_beside {α : Type} {before after : List α} {x y : α} {i : Nat}
    (h : (before ++ x :: after)[i]? = some y) :
    (i = before.length ∧ y = x) ∨ ∀ x', (before ++ x' :: after)[i]? = some y := by
  rcases Nat.lt_or_ge i before.length with hlt | hge
  · rw [List.getElem?_append_left hlt] at h
    exact .inr fun x' => by rw [List.getElem?_append_left hlt, h]
  · obtain ⟨n, rfl⟩ := Nat.exists_eq_add_of_le hge
    rw [List.getElem?_append_right hge, Nat.add_sub_cancel_left] at h
    cases n with
    | zero => exact .inl ⟨rfl, (Option.some.inj h).symm⟩
    | succ n =>
      refine .inr fun x' => ?_
      rw [List.getElem?_append_right hge, Nat.add_sub_cancel_left]
      exact h

theorem entryAt_eq_some_iff {i k : Nat} {entry : Entry} : books.entryAt i k = some entry ↔
    ∃ launch, books[i]? = some launch ∧ launch[k]? = some entry := Option.bind_eq_some_iff

/-- An event does not change a closed entry. -/
theorem Step.closed_unchanged {e : Event} (h : Step own first e last) {i k : Nat} {entry : Entry}
    (hentry : first.entryAt i k = some entry) (closed : ¬ entry.IsOpen) :
    last.entryAt i k = some entry := by
  cases h with
  | quiet _ | forkRefused | signal _ _ _ _ | handOver _ _ _ | takeBack => exact hentry
  | leader _ =>
    obtain ⟨launch, hlaunch, hplace⟩ := entryAt_eq_some_iff.mp hentry
    refine entryAt_eq_some_iff.mpr ⟨launch, ?_, hplace⟩
    rw [List.getElem?_append_left (List.getElem?_eq_some_iff.mp hlaunch).1, hlaunch]
  | stage _ _ =>
    obtain ⟨launch, hlaunch, hplace⟩ := entryAt_eq_some_iff.mp hentry
    rcases getElem?_beside hlaunch with ⟨rfl, rfl⟩ | beside
    · refine entryAt_eq_some_iff.mpr ⟨_, getElem?_at _ _ _, ?_⟩
      rw [List.getElem?_append_left (List.getElem?_eq_some_iff.mp hplace).1, hplace]
    · exact entryAt_eq_some_iff.mpr ⟨launch, beside _, hplace⟩
  | wait hopen _ =>
    obtain ⟨launch, hlaunch, hplace⟩ := entryAt_eq_some_iff.mp hentry
    rcases getElem?_beside hlaunch with ⟨rfl, rfl⟩ | beside
    · rcases getElem?_beside hplace with ⟨-, rfl⟩ | within
      -- the entry that is waited for is open
      · exact absurd hopen closed
      · exact entryAt_eq_some_iff.mpr ⟨_, getElem?_at _ _ _, within _⟩
    · exact entryAt_eq_some_iff.mpr ⟨launch, beside _, hplace⟩
  | continued _ _ =>
    obtain ⟨launch, hlaunch, hplace⟩ := entryAt_eq_some_iff.mp hentry
    rcases getElem?_beside hlaunch with ⟨rfl, rfl⟩ | beside
    · refine entryAt_eq_some_iff.mpr ⟨_, getElem?_at _ _ _, ?_⟩
      rw [List.getElem?_map, hplace, Option.map_some, Entry.continued_of_closed closed]
    · exact entryAt_eq_some_iff.mpr ⟨launch, beside _, hplace⟩

/-- **A closed entry is never changed.** -/
theorem closed_unchanged {states : Nat → Books} (follows : Follows own events states) {m n : Nat}
    (hle : m ≤ n) (hn : n ≤ events.length) {i k : Nat} {entry : Entry}
    (hentry : (states m).entryAt i k = some entry) (closed : ¬ entry.IsOpen) :
    (states n).entryAt i k = some entry := by
  induction n, hle using Nat.le_induction with
  | base => exact hentry
  | succ n _ ih =>
    have step := follows n events[n] (List.getElem?_eq_getElem hn)
    exact step.closed_unchanged (ih (Nat.le_of_succ_le hn)) closed

/-- An event that settles a process closes an open entry. -/
theorem Step.settles {e : Event} (h : Step own first e last) {pid : Pid}
    (settled : e.settledPid? = some pid) : ∃ i k entry closed, first.entryAt i k = some entry ∧
      entry.pid = pid ∧ entry.IsOpen ∧ last.entryAt i k = some closed ∧ ¬ closed.IsOpen := by
  cases h with
  | quiet he =>
    rw [Event.settledPid?_of_quiet he] at settled
    cases settled
  | forkRefused | leader _ | stage _ _ | continued _ _ | signal _ _ _ _ | handOver _ _ _
  | takeBack => cases settled
  | @wait before after left right entry flags answer hopen _ =>
    refine ⟨before.length, left.length, entry, entry.answered flags answer, ?_, ?_, hopen, ?_, ?_⟩
    · exact entryAt_eq_some_iff.mpr ⟨_, getElem?_at _ _ _, getElem?_at _ _ _⟩
    · cases answer with
      | ok status =>
        rw [Event.settledPid?_ok, Option.ite_none_right_eq_some] at settled
        exact Option.some.inj settled.2
      | error errno =>
        rw [Event.settledPid?_error, Option.ite_none_left_eq_some] at settled
        exact Option.some.inj settled.2
    · exact entryAt_eq_some_iff.mpr ⟨_, getElem?_at _ _ _, getElem?_at _ _ _⟩
    · cases answer with
      | ok status =>
        rw [Event.settledPid?_ok, Option.ite_none_right_eq_some] at settled
        exact Entry.closed_of_done settled.1
      | error errno =>
        rw [Event.settledPid?_error, Option.ite_none_left_eq_some] at settled
        exact Entry.closed_of_failure settled.1

/-! ### Jobs in the books -/

/-- A job is one launch: the leader of the launch leads its group, and the books have its members as
the job does. -/
def Shows (job : Job) (launch : Launch) : Prop :=
  launch.group? = some job.pgid ∧ (job.members.map Entry.ofMember).Sublist launch

/-- Each of some jobs is a launch of its own. -/
def Ties (jobs : Multiset Job) (books : Books) : Prop :=
  ∃ shown ≤ (books : Multiset Launch), Multiset.Rel Shows jobs shown

theorem ties_cons_iff {job : Job} {jobs : Multiset Job} : Ties (job ::ₘ jobs) books ↔
    ∃ before launch after, books = before ++ launch :: after ∧ Shows job launch ∧
      Ties jobs (before ++ after) := by
  have middle : ∀ before launch after,
      (↑(before ++ launch :: after) : Multiset Launch) = launch ::ₘ ↑(before ++ after) :=
    fun before launch after => Multiset.coe_eq_coe.mpr List.perm_middle
  constructor
  · rintro ⟨shown, hle, hrel⟩
    obtain ⟨launch, shown, shows_job, hothers, rfl⟩ := Multiset.rel_cons_left.mp hrel
    have hmem : launch ∈ books := Multiset.mem_of_le hle (Multiset.mem_cons_self _ _)
    obtain ⟨before, after, rfl⟩ := List.append_of_mem hmem
    rw [middle, Multiset.cons_le_cons_iff] at hle
    exact ⟨before, launch, after, rfl, shows_job, shown, hle, hothers⟩
  · rintro ⟨before, launch, after, rfl, shows_job, shown, hle, hrel⟩
    refine ⟨launch ::ₘ shown, ?_, .cons shows_job hrel⟩
    rw [middle, Multiset.cons_le_cons_iff]
    exact hle

/-- More launches do not matter. -/
theorem Ties.mono {jobs : Multiset Job} {books' : Books} (h : Ties jobs books)
    (hle : (books : Multiset Launch) ≤ books') : Ties jobs books' := by
  obtain ⟨shown, hshown, hrel⟩ := h
  exact ⟨shown, hshown.trans hle, hrel⟩

/-- A job that is not done has an open entry in its launch. -/
theorem Shows.isOpen {job : Job} {launch : Launch} (h : Shows job launch)
    (alive : job.state ≠ .done) : launch.IsOpen := by
  obtain ⟨member, hmember, alive⟩ := Job.state_ne_done_iff.mp alive
  exact ⟨.ofMember member, h.2.subset (List.mem_map_of_mem hmember), alive, rfl⟩

/-- When a group goes on, so does its job in the books. -/
theorem Shows.resumed {job : Job} {launch : Launch} (h : Shows job launch) :
    Shows job.resumed (launch.map Entry.continued) := by
  have pids_eq : (launch.map Entry.continued).map (·.pid) = launch.map (·.pid) := by
    rw [List.map_map]
    exact List.map_congr_left fun e _ => e.pid_continued
  have members_eq : job.resumed.members.map Entry.ofMember =
      (job.members.map Entry.ofMember).map Entry.continued := by
    rw [Job.resumed, List.map_map, List.map_map]
    refine List.map_congr_left fun member _ => ?_
    simp only [Function.comp, Entry.ofMember, Entry.continued, true_and]
    split <;> rfl
  refine ⟨?_, ?_⟩
  · rw [Launch.group?, pids_eq]
    exact h.1
  · rw [members_eq]
    exact h.2.map _

/-! ### Inquiries in the books -/

section Inquiries

variable {q : Inquiry} {member : Member} {members : List Member} {found : Findings}

/-- A member is asked about while its entry is open, and is running if the wait is without end. -/
theorem open_of_due (hq : q = .blocking ∨ q = .polling)
    (due : q.isDue member.status.state = true) :
    (Entry.ofMember member).IsOpen ∧
      (q.flags.noHang = false → (Entry.ofMember member).status.state = .running) := by
  rcases hq with rfl | rfl
  · have running : member.status.state = .running := of_decide_eq_true due
    refine ⟨⟨?_, rfl⟩, fun _ => running⟩
    rw [Entry.ofMember, running]
    nofun
  · exact ⟨⟨of_decide_eq_true due, rfl⟩, nofun⟩

/-- An answer is noted in the books if and only if it is recorded for the member. -/
theorem answered_ofMember (member : Member) (hq : q = .blocking ∨ q = .polling)
    (status : WaitStatus) :
    (Entry.ofMember member).answered q.flags (.ok status) =
      .ofMember (if q.counts status = true then { member with status } else member) := by
  rcases hq with rfl | rfl
  · rfl
  · by_cases h : status = .stillAlive
    · rw [if_neg (by simp [Inquiry.polling, h])]
      exact if_pos ⟨rfl, h⟩
    · rw [if_pos (by simp [Inquiry.polling, h])]
      exact if_neg fun both => h both.2

/-- The entries of some members without those of some pids. -/
def entriesBut (lost : List Pid) (members : List Member) : Launch :=
  (members.filter fun member => member.pid ∉ lost).map Entry.ofMember

theorem entriesBut_failures (found : Findings) :
    entriesBut (found.failures.map (·.pid)) found.members = found.kept.map Entry.ofMember := by
  rw [entriesBut, Findings.kept]
  congr 2
  funext member
  rw [List.contains_eq_mem, decide_not]

/-- The first member may be found before the others, or not at all if it is lost. -/
theorem entriesBut_cons {lost : List Pid} {segment rest : Launch}
    (hmember : member.pid ∈ lost ∨ Entry.ofMember member ∈ segment)
    (h : (entriesBut lost members).Sublist rest) :
    (entriesBut lost (member :: members)).Sublist (segment ++ rest) := by
  by_cases hlost : member.pid ∈ lost
  · rw [entriesBut, List.filter_cons_of_neg (by simpa using hlost)]
    exact h.trans (List.sublist_append_right _ _)
  · rw [entriesBut, List.filter_cons_of_pos (by simpa using hlost), List.map_cons]
    exact List.cons_sublist_iff.mpr ⟨segment, rest, rfl, hmember.resolve_left hlost, h⟩

/-- A wait for a process whose entry stands in a part of a launch. -/
theorem step_wait (own : Pid) (before after : Books) (left front back rest : Launch) {e : Entry}
    {flags : WaitFlags} (answer : Except Errno WaitStatus)
    (h : e.IsOpen ∧ (flags.noHang = false → e.status.state = .running)) :
    Step own (before ++ (left ++ (front ++ e :: back ++ rest)) :: after) ⟨.wait e.pid flags, answer⟩
      (before ++ (left ++ (front ++ e.answered flags answer :: back ++ rest)) :: after) := by
  have step : Step own (before ++ (left ++ front ++ e :: (back ++ rest)) :: after)
      ⟨.wait e.pid flags, answer⟩ _ := .wait h.1 h.2
  simpa only [List.append_assoc, List.cons_append] using step

/-- A wait comes first, and then what is read of the rest of a launch. -/
theorem reads_wait {own : Pid} {before after : Books} {left front back rest rest' : Launch}
    {e : Entry} {flags : WaitFlags} {answer : Except Errno WaitStatus}
    (h : e.IsOpen ∧ (flags.noHang = false → e.status.state = .running))
    (pids_eq : rest'.map (·.pid) = rest.map (·.pid))
    (reads : Reads own
      (before ++ (left ++ (front ++ e.answered flags answer :: back) ++ rest) :: after) events
      (before ++ (left ++ (front ++ e.answered flags answer :: back) ++ rest') :: after)) :
    (front ++ e.answered flags answer :: back ++ rest').map (·.pid) =
        (front ++ e :: back ++ rest).map (·.pid) ∧
      Reads own (before ++ (left ++ (front ++ e :: back ++ rest)) :: after)
        (⟨.wait e.pid flags, answer⟩ :: events)
        (before ++ (left ++ (front ++ e.answered flags answer :: back ++ rest')) :: after) := by
  constructor
  · simp only [List.map_append, List.map_cons, Entry.pid_answered, pids_eq]
  · refine .cons (step_wait own before after left front back rest answer h) ?_
    rwa [List.append_assoc left, List.append_assoc left] at reads

/-- **Every inquiry into the members of a launch can be read.**  Members that could not be waited
for may be left out afterwards, with all that have their pid. -/
theorem reads_of_surveyed (own : Pid) (hq : q = .blocking ∨ q = .polling)
    (h : q.Surveyed members events found) (before after : Books) :
    ∀ (left : Launch) {right : Launch}, (members.map Entry.ofMember).Sublist right →
      ∃ right', right'.map (·.pid) = right.map (·.pid) ∧
        Reads own (before ++ (left ++ right) :: after) events
          (before ++ (left ++ right') :: after) ∧
        ∀ lost, (∀ failure ∈ found.failures, failure.pid ∈ lost) →
          (entriesBut lost found.members).Sublist right' := by
  -- what stands left of the members that are still to be asked about is read already
  induction h with
  | nil =>
    intro left right _
    exact ⟨right, rfl, .nil, fun _ _ => List.nil_sublist _⟩
  | interrupted due _ ih =>
    intro left right hsub
    obtain ⟨right', pids_eq, reads, kept⟩ := ih left hsub
    obtain ⟨segment, rest, rfl, hmem, -⟩ := List.cons_sublist_iff.mp hsub
    obtain ⟨front, back, rfl⟩ := List.append_of_mem hmem
    exact ⟨right', pids_eq,
      .cons (step_wait own before after left front back rest _ (open_of_due hq due)) reads, kept⟩
  | passed _ _ ih =>
    intro left right hsub
    obtain ⟨segment, rest, rfl, hmem, hrest⟩ := List.cons_sublist_iff.mp hsub
    obtain ⟨rest', pids_eq, reads, kept⟩ := ih (left ++ segment) hrest
    refine ⟨segment ++ rest', by rw [List.map_append, List.map_append, pids_eq], ?_, ?_⟩
    · rwa [List.append_assoc, List.append_assoc] at reads
    · exact fun lost hlost => entriesBut_cons (.inr hmem) (kept lost hlost)
  | @recorded member _ _ _ status due counts _ ih =>
    intro left right hsub
    obtain ⟨segment, rest, rfl, hmem, hrest⟩ := List.cons_sublist_iff.mp hsub
    obtain ⟨front, back, rfl⟩ := List.append_of_mem hmem
    have noted := answered_ofMember member hq status
    rw [if_pos counts] at noted
    obtain ⟨rest', pids_eq, reads, kept⟩ :=
      ih (left ++ (front ++ .ofMember { member with status } :: back)) hrest
    rw [← noted] at reads
    obtain ⟨pids_eq, reads⟩ := reads_wait (open_of_due hq due) pids_eq reads
    refine ⟨_, pids_eq, reads, fun lost hlost => entriesBut_cons (.inr ?_) (kept lost hlost)⟩
    rw [noted]
    exact List.mem_append_right _ List.mem_cons_self
  | @unchanged member _ _ _ status due counts _ ih =>
    intro left right hsub
    obtain ⟨segment, rest, rfl, hmem, hrest⟩ := List.cons_sublist_iff.mp hsub
    obtain ⟨front, back, rfl⟩ := List.append_of_mem hmem
    have noted := answered_ofMember member hq status
    rw [if_neg (by rw [counts]; nofun)] at noted
    obtain ⟨rest', pids_eq, reads, kept⟩ := ih (left ++ (front ++ .ofMember member :: back)) hrest
    rw [← noted] at reads
    obtain ⟨pids_eq, reads⟩ := reads_wait (open_of_due hq due) pids_eq reads
    refine ⟨_, pids_eq, reads, fun lost hlost => entriesBut_cons (.inr ?_) (kept lost hlost)⟩
    rw [noted]
    exact List.mem_append_right _ List.mem_cons_self
  | @failed member _ _ _ errno due _ _ ih =>
    intro left right hsub
    obtain ⟨segment, rest, rfl, hmem, hrest⟩ := List.cons_sublist_iff.mp hsub
    obtain ⟨front, back, rfl⟩ := List.append_of_mem hmem
    obtain ⟨rest', pids_eq, reads, kept⟩ :=
      ih (left ++ (front ++ (Entry.ofMember member).answered q.flags (.error errno) :: back)) hrest
    have logged : Reads own _ (⟨.log (q.entry ⟨member.pid, errno⟩), ()⟩ :: _) _ :=
      .cons (.quiet rfl) reads
    obtain ⟨pids_eq, reads⟩ := reads_wait (open_of_due hq due) pids_eq logged
    refine ⟨_, pids_eq, reads, fun lost hlost => ?_⟩
    -- the entry is closed, but the member is dropped
    obtain ⟨hfirst, hlost⟩ := List.forall_mem_cons.mp hlost
    exact entriesBut_cons (.inl hfirst) (kept lost hlost)

end Inquiries

/-! ### Courses in the books -/

/-- **What happens to jobs that the books have can be read, and the books have them after it.** -/
theorem Ties.step {jobs jobs' : Multiset Job} {q : Inquiry} (hq : q = .blocking ∨ q = .polling)
    (h : Roster.Step own q jobs events jobs') (ties : Ties jobs books) :
    ∃ books', Reads own books events books' ∧ Ties jobs' books' := by
  cases h with
  | quiet he => exact ⟨books, (Step.quiet he).reads, ties⟩
  | takeBack => exact ⟨books, Step.takeBack.reads, ties⟩
  | inquire hsurvey =>
    obtain ⟨before, launch, after, rfl, shows_job, others⟩ := ties_cons_iff.mp ties
    obtain ⟨launch', pids_eq, reads, kept⟩ :=
      reads_of_surveyed own hq hsurvey before after [] shows_job.2
    refine ⟨_, reads, ties_cons_iff.mpr ⟨before, launch', after, rfl, ⟨?_, ?_⟩, others⟩⟩
    · rw [Launch.group?, pids_eq]
      exact shows_job.1
    · have := kept _ fun failure hfailure => List.mem_map_of_mem hfailure
      rwa [entriesBut_failures] at this
  | resume alive =>
    obtain ⟨before, launch, after, rfl, shows_job, others⟩ := ties_cons_iff.mp ties
    refine ⟨_, (Step.continued shows_job.1 (shows_job.isOpen alive)).reads, ?_⟩
    exact ties_cons_iff.mpr ⟨before, _, after, rfl, shows_job.resumed, others⟩
  | signal alive hsignal =>
    obtain ⟨before, launch, after, rfl, shows_job, others⟩ := ties_cons_iff.mp ties
    have hmem : launch ∈ before ++ launch :: after := List.mem_append_right _ List.mem_cons_self
    exact ⟨_, (Step.signal hmem shows_job.1 (shows_job.isOpen alive) hsignal).reads, ties⟩
  | handOver alive =>
    obtain ⟨before, launch, after, rfl, shows_job, others⟩ := ties_cons_iff.mp ties
    have hmem : launch ∈ before ++ launch :: after := List.mem_append_right _ List.mem_cons_self
    exact ⟨_, (Step.handOver hmem shows_job.1 (shows_job.isOpen alive)).reads, ties⟩
  | place _ =>
    obtain ⟨before, launch, after, rfl, shows_job, others⟩ := ties_cons_iff.mp ties
    exact ⟨_, .nil, ties_cons_iff.mpr ⟨before, launch, after, rfl, shows_job, others⟩⟩
  | release _ =>
    obtain ⟨before, launch, after, rfl, -, others⟩ := ties_cons_iff.mp ties
    refine ⟨_, .nil, others.mono (Multiset.coe_le.mpr ?_)⟩
    exact ((List.sublist_cons_self launch after).append_left before).subperm

/-- The launch of some processes, if there are any. -/
def launched : List Pid → Books
  | [] => []
  | pid :: pids => [(pid :: pids).map Entry.opened]

/-- Starting some processes after others adds them to the last launch. -/
theorem reads_of_started (own : Pid) (books : Books) {started started' : List Pid}
    (h : Spawn.Started started events started') :
    Reads own (books ++ launched started) events (books ++ launched started') := by
  induction h with
  | nil => exact .nil
  | quiet he _ ih => exact .cons (.quiet he) ih
  | refused _ ih => exact .cons .forkRefused ih
  | @forked started _ _ child pid hgroup _ ih =>
    cases started with
    | nil =>
      rw [launched, List.append_nil]
      exact .cons (.leader hgroup) ih
    | cons leader started =>
      -- the launch of the processes before grows by this one
      have grown : launched (leader :: started ++ [pid]) =
          [(leader :: started).map Entry.opened ++ [.opened pid]] := by
        rw [List.cons_append, launched, ← List.cons_append, List.map_append]
        rfl
      rw [grown] at ih
      have joined : Step own (books ++ [(leader :: started).map Entry.opened])
          ⟨.fork child, .ok pid⟩ _ :=
        .stage (List.cons_ne_nil _ _) hgroup
      exact .cons joined ih

/-- The processes started for a job are its launch. -/
theorem Ties.launch {jobs : Multiset Job} (ties : Ties jobs books) (started : List Pid)
    (foreground : Bool) :
    Ties ((Job.ofPids? started foreground).toList + jobs) (books ++ launched started) := by
  cases started with
  | nil =>
    rw [launched, List.append_nil]
    exact (Multiset.zero_add jobs).symm ▸ ties
  | cons pid pids =>
    rw [ofPids?_cons]
    refine ties_cons_iff.mpr ⟨books, _, [], rfl, ⟨rfl, ?_⟩, ?_⟩
    · rw [List.map_map]
      exact .refl _
    · rw [List.append_nil]
      exact ties

/-- What an operation does to jobs that the books have can be read. -/
theorem Ties.evolves {jobs jobs' : Multiset Job} (ties : Ties jobs books)
    (h : Evolves own jobs events jobs') :
    ∃ books', Reads own books events books' ∧ Ties jobs' books' := by
  refine h.preserves (fun history jobs =>
    ∃ books', Reads own books history books' ∧ Ties jobs books') ?_ ?_ [] ⟨books, .nil, ties⟩
  · intro q history first events last hq step
    rintro ⟨books', reads, ties⟩
    obtain ⟨books'', reads', ties'⟩ := ties.step hq step
    exact ⟨books'', reads.append reads', ties'⟩
  · intro history jobs events started foreground hstarted
    rintro ⟨books', reads, ties⟩
    have reads' := reads_of_started own books' hstarted
    rw [launched, List.append_nil] at reads'
    exact ⟨_, reads.append reads', ties.launch started foreground⟩

/-- A session taken down in books: the shell between its lines, and the books between its
events. -/
structure Accounts (terminal : Terminal) (lines : List (List Event)) (shell : Shell)
    (shells : Nat → Shell) (states : Nat → Books) : Prop where
  fresh : shells 0 = { terminal }
  final : shells lines.length = shell
  runs : ∀ k line, lines[k]? = some line → ∃ tokens rounds report,
    (Line.execute (shells k) tokens rounds).Run line (shells (k + 1), report)
  empty : states 0 = []
  follows : Follows terminal.shellGroup lines.flatten states
  ties : ∀ k ≤ lines.length, Ties (shells k).jobs.roster (states (lines.take k).flatten.length)

end Books

open Books

variable {terminal : Terminal} {lines : List (List Event)} {shell : Shell} {shells : Nat → Shell}
  {states : Nat → Books}

/-- The shell between two lines has carried out those before. -/
theorem Books.Accounts.session (h : Accounts terminal lines shell shells states) {k : Nat}
    (hk : k ≤ lines.length) : Session terminal (lines.take k) (shells k) := by
  induction k with
  | zero =>
    rw [List.take_zero, h.fresh]
    exact .fresh
  | succ k ih =>
    have hline : lines[k]? = some lines[k] := List.getElem?_eq_getElem hk
    obtain ⟨tokens, rounds, report, run⟩ := h.runs k _ hline
    rw [List.take_add_one, hline]
    exact .line (ih (Nat.le_of_succ_le hk)) run

/-- **Every session can be taken down in books.** -/
theorem Session.accounts (h : Session terminal lines shell) :
    ∃ shells states, Accounts terminal lines shell shells states := by
  induction h with
  | fresh =>
    refine ⟨fun _ => { terminal }, fun _ => [], rfl, rfl, nofun, rfl, nofun, fun k _ => ?_⟩
    exact ⟨0, le_rfl, .zero⟩
  | @line lines shell shell' tokens rounds events report before run ih =>
    obtain ⟨shells, states, accounts⟩ := ih
    have ties := accounts.ties lines.length le_rfl
    rw [List.take_length, accounts.final] at ties
    have evolves := (execute_advances run before.settled).evolves
    rw [before.course.terminal_eq] at evolves
    obtain ⟨books, reads, ties'⟩ := ties.evolves evolves
    obtain ⟨states', same, hlast, follows⟩ := reads.follows accounts.follows rfl
    have earlier : ∀ k ≤ lines.length,
        Function.update shells (lines.length + 1) shell' k = shells k :=
      fun k hk => Function.update_of_ne (by omega) _ _
    have latest : Function.update shells (lines.length + 1) shell' (lines.length + 1) = shell' :=
      Function.update_self _ _ _
    refine ⟨Function.update shells (lines.length + 1) shell', states', ?_, ?_, ?_, ?_, ?_, ?_⟩
    · rw [earlier 0 (Nat.zero_le _), accounts.fresh]
    · rw [List.length_append, List.length_singleton, latest]
    · intro k line hline
      rcases getElem?_concat hline with ⟨hk, hline⟩ | ⟨rfl, rfl⟩
      · rw [earlier k hk.le, earlier (k + 1) hk]
        exact accounts.runs k line hline
      · rw [earlier _ le_rfl, latest, accounts.final]
        exact ⟨tokens, rounds, report, run⟩
    · rw [same 0 (Nat.zero_le _), accounts.empty]
    · rw [List.flatten_append, List.flatten_singleton]
      exact follows
    · intro k hk
      rw [List.length_append, List.length_singleton] at hk
      rcases Nat.le_or_eq_of_le_succ hk with hk | rfl
      · have within : (lines.take k).flatten.length ≤ lines.flatten.length := by
          conv_rhs => rw [← List.take_append_drop k lines, List.flatten_append, List.length_append]
          exact Nat.le_add_right _ _
        rw [earlier k hk, List.take_append_of_le_length hk, same _ within]
        exact accounts.ties k hk
      · have all : (lines ++ [events]).take (lines.length + 1) = lines ++ [events] :=
          List.take_of_length_le (by rw [List.length_append, List.length_singleton])
        rw [latest, all, List.flatten_append, List.flatten_singleton, hlast]
        exact ties'

/-! ### Waits without end -/

/-- The event is no wait without end. -/
def Event.IsCalm (e : Event) : Prop :=
  ∀ pid flags, e.call = .wait pid flags → flags.noHang = true

variable {own : Pid} {first last : Multiset Job} {events : List Event}

theorem calm_of_call {e : Event} (h : ∀ pid flags, e.call ≠ .wait pid flags) : e.IsCalm :=
  fun pid flags hcall => absurd hcall (h pid flags)

theorem calm_of_quiet {e : Event} (h : e.call.isQuiet = true) : e.IsCalm := by
  refine calm_of_call fun pid flags hcall => ?_
  rw [hcall] at h
  cases h

theorem Roster.Step.calm (h : Step own .polling first events last) : ∀ e ∈ events, e.IsCalm := by
  cases h with
  | quiet he => exact List.forall_mem_singleton.mpr (calm_of_quiet he)
  | inquire hsurvey =>
    intro e he pid flags hcall
    rcases hsurvey.asks e he with ⟨entry, hentry⟩ | ⟨member, -, -, hwait⟩
    · cases hcall.symm.trans hentry
    · cases hcall.symm.trans hwait
      rfl
  | resume _ | signal _ _ | handOver _ | takeBack =>
    exact List.forall_mem_singleton.mpr (calm_of_call nofun)
  | place _ | release _ => exact List.forall_mem_nil _

theorem Roster.Steps.calm (h : Steps own .polling first events last) :
    ∀ e ∈ events, e.IsCalm := by
  induction h with
  | refl => exact List.forall_mem_nil _
  | cons step _ ih => exact List.forall_mem_append.mpr ⟨step.calm, ih⟩

theorem Spawn.Started.calm {started started' : List Pid}
    (h : Spawn.Started started events started') : ∀ e ∈ events, e.IsCalm := by
  induction h with
  | nil => exact List.forall_mem_nil _
  | quiet he _ ih => exact List.forall_mem_cons.mpr ⟨calm_of_quiet he, ih⟩
  | refused _ ih | forked _ _ ih => exact List.forall_mem_cons.mpr ⟨calm_of_call nofun, ih⟩

/-- The members waited for in the foreground are recorded as running. -/
theorem running_of_await {t t' : JobTable} {job : Job} {rounds : Nat}
    (hforeground : t.foreground = some job) (h : (t.awaitForeground rounds).Run events t') :
    ∀ e ∈ events, ∀ pid flags, e.call = .wait pid flags →
      ∃ member ∈ job.members, member.pid = pid ∧ member.status.state = .running := by
  obtain ⟨asked, spoken, found, rfl, complains, hsurvey, -⟩ := run_awaitForeground hforeground h
  intro e he pid flags hcall
  rcases List.mem_append.mp he with he | he
  · rcases hsurvey.asks e he with ⟨entry, hentry⟩ | ⟨member, hmember, due, hwait⟩
    · cases hcall.symm.trans hentry
    · cases hcall.symm.trans hwait
      exact ⟨member, hmember, rfl, of_decide_eq_true due⟩
  · have hquiet := complains.quiet e he
    rw [hcall] at hquiet
    cases hquiet

/-- There is no wait without end, or those that are made are for running members of the job that is
then in the foreground. -/
inductive Roster.Attends (own : Pid) (first : Multiset Job) : List Event → Multiset Job → Prop
  | nowhere {events : List Event} {last : Multiset Job} : (∀ e ∈ events, e.IsCalm) →
      Attends own first events last
  | foreground {before during after : List Event} {t t' : JobTable} {job : Job} {rounds : Nat}
      {last : Multiset Job} : (∀ e ∈ before, e.IsCalm) → (∀ e ∈ after, e.IsCalm) →
      Evolves own first before t.roster → t.foreground = some job →
      (t.awaitForeground rounds).Run during t' →
      (∀ e ∈ during, ∀ pid flags, e.call = .wait pid flags →
        ∃ member ∈ job.members, member.pid = pid ∧ member.status.state = .running) →
      Steps own .polling t'.roster after last → Attends own first (before ++ (during ++ after)) last

/-- **Only in the foreground is a job waited for without end.** -/
theorem Roster.Evolves.attends (h : Evolves own first events last) :
    Attends own first events last := by
  obtain ⟨foreground, before, launch, after⟩ := h
  have calm := List.forall_mem_append.mpr ⟨before.calm, launch.calm⟩
  cases after with
  | steps after => exact .nowhere (List.forall_mem_append.mpr ⟨calm, after.calm⟩)
  | waiting preparing hforeground await after =>
    have launching := Evolves.launching foreground before launch (.steps preparing)
    rw [← List.append_assoc]
    exact .foreground (List.forall_mem_append.mpr ⟨calm, preparing.calm⟩) after.calm launching
      hforeground await (running_of_await hforeground await) after

/-- **Every session can be taken down in books, where only open entries are waited for and only
groups with an open entry are signalled or get the terminal, and which have the jobs of the shell
after each line.  What is closed once, by the end of its process or a failed wait, is never changed
again.  And a line waits without end only for running members of the job in the foreground.** -/
theorem waits_and_signals_spare_the_dead (h : Session terminal lines shell) :
    ∃ shells states, Accounts terminal lines shell shells states ∧
      (∀ n e pid, lines.flatten[n]? = some e → e.settledPid? = some pid →
        ∃ i k entry closed, (states n).entryAt i k = some entry ∧ entry.pid = pid ∧
          entry.IsOpen ∧ ¬ closed.IsOpen ∧
          ∀ m, n < m → m ≤ lines.flatten.length → (states m).entryAt i k = some closed) ∧
      ∀ k line, lines[k]? = some line →
        Attends terminal.shellGroup (shells k).jobs.roster line (shells (k + 1)).jobs.roster := by
  obtain ⟨shells, states, accounts⟩ := h.accounts
  refine ⟨shells, states, accounts, fun n e pid he settled => ?_, fun k line hline => ?_⟩
  · obtain ⟨i, k, entry, entry', hentry, hpid, hopen, hentry', closed⟩ :=
      (accounts.follows n e he).settles settled
    refine ⟨i, k, entry, entry', hentry, hpid, hopen, closed, fun m hlt hm => ?_⟩
    exact closed_unchanged accounts.follows hlt hm hentry' closed
  · obtain ⟨hk, -⟩ := List.getElem?_eq_some_iff.mp hline
    have before := accounts.session hk.le
    obtain ⟨tokens, rounds, report, run⟩ := accounts.runs k line hline
    have evolves := (execute_advances run before.settled).evolves
    rw [before.course.terminal_eq] at evolves
    exact evolves.attends

/-- The entry of the lost leader is closed when the wait for it has failed, and stays as it is. -/
theorem books_after_losing_leader : ∃ (states : Nat → Books) (i k : Nat) (entry closed : Entry),
    states 0 = [] ∧ (states 12).entryAt i k = some entry ∧ entry.pid = 7 ∧ entry.IsOpen ∧
      ¬ closed.IsOpen ∧ ∀ m, 12 < m → m ≤ 16 → (states m).entryAt i k = some closed := by
  obtain ⟨shells, states, accounts, settles, -⟩ := waits_and_signals_spare_the_dead Sample.session
  obtain ⟨i, k, entry, closed, hentry, hpid, hopen, hclosed, unchanged⟩ :=
    settles 12 ⟨.wait 7 .collect, .error .echild⟩ 7 rfl rfl
  exact ⟨states, i, k, entry, closed, accounts.empty, hentry, hpid, hopen, hclosed, unchanged⟩

end JobControl
