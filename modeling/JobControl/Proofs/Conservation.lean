import Mathlib.Data.List.Induction
import Mathlib.Data.Multiset.Bind
import JobControl.Proofs.Session

/-!
# No process is lost

A process that was started is *unsettled* until the system answers a wait for it that it has ended,
or that it cannot be waited for.  The shell follows exactly the unsettled processes, each once,
whatever the system answers.  All that is asked of the system is that it gives no process the pid of
one that is unsettled.

## Main definitions

* `Unsettled events pid` — a process was started and has not been settled since.
* `FreshForks events` — no process gets the pid of one that is unsettled.
* `outstanding events` — the unsettled processes, counted along the events.
* `JobTable.livePids t` — the processes that a table follows.

## Main results

* `outstanding_spec` — what is counted along the events are the unsettled processes, each once.
* `Roster.Step.conserves`, `Spawn.Started.conserves` — what the events settle and start is what the
  roster loses and gains.
* `Conserved.step`, `Conserved.launch` — the invariant, that what is followed is what is unsettled.
* `processes_conserved` — **after each line every process ever started is settled or followed
  exactly once, and the next line collects those that have ended.**
-/

namespace JobControl

open Roster JobTable

/-! ### Unsettled processes -/

/-- A process was started and has not been settled since. -/
def Unsettled (events : List Event) (pid : Pid) : Prop :=
  ∃ before e after, events = before ++ e :: after ∧ e.newPid? = some pid ∧
    ∀ later ∈ after, later.settledPid? ≠ some pid

/-- No process gets the pid of one that is unsettled. -/
def FreshForks (events : List Event) : Prop :=
  ∀ before e after, events = before ++ e :: after →
    ∀ pid, e.newPid? = some pid → ¬ Unsettled before pid

theorem FreshForks.left {events more : List Event} (h : FreshForks (events ++ more)) :
    FreshForks events := by
  intro before e after heq
  refine h before e (after ++ more) ?_
  rw [heq, List.append_assoc, List.cons_append]

/-- Forks are fresh if no pid is given twice. -/
theorem FreshForks.of_nodup {events : List Event} (h : (forks events).Nodup) :
    FreshForks events := by
  rintro before e after rfl pid hnew ⟨earlier, first, between, rfl, hfirst, -⟩
  rw [forks_append] at h
  refine (List.nodup_append.mp h).2.2 pid ?_ pid ?_ rfl
  · exact List.mem_filterMap.mpr ⟨first, List.mem_append_right _ List.mem_cons_self, hfirst⟩
  · exact List.mem_filterMap.mpr ⟨e, List.mem_cons_self, hnew⟩

/-- Where some events start no process, all that are started are started before them. -/
theorem split_of_unforked {history events before after : List Event} {e : Event} {pid : Pid}
    (unforked : forks events = []) (hnew : e.newPid? = some pid)
    (heq : history ++ events = before ++ e :: after) :
    ∃ between, history = before ++ e :: between ∧ after = between ++ events := by
  have elsewhere : e ∉ events := by
    intro hmem
    rw [List.filterMap_eq_nil_iff.mp unforked e hmem] at hnew
    cases hnew
  rcases List.append_eq_append_iff.mp heq with ⟨more, -, rfl⟩ | ⟨between, rfl, hbetween⟩
  · exact absurd (List.mem_append_right _ List.mem_cons_self) elsewhere
  · cases between with
    | nil =>
      obtain rfl : e :: after = events := hbetween
      exact absurd List.mem_cons_self elsewhere
    | cons first between =>
      obtain ⟨rfl, rfl⟩ := List.cons.inj hbetween
      exact ⟨between, rfl, rfl⟩

theorem FreshForks.append {history events : List Event} (h : FreshForks history)
    (unforked : forks events = []) : FreshForks (history ++ events) := by
  intro before e after heq pid hnew
  obtain ⟨between, hhistory, -⟩ := split_of_unforked unforked hnew heq
  exact h before e between hhistory pid hnew

/-- A process that is settled while none is started is not unsettled. -/
theorem not_unsettled_of_settled {history events : List Event} {e : Event} {pid : Pid}
    (unforked : forks events = []) (he : e ∈ events) (settled : e.settledPid? = some pid) :
    ¬ Unsettled (history ++ events) pid := by
  rintro ⟨before, first, after, heq, hnew, hafter⟩
  obtain ⟨between, -, rfl⟩ := split_of_unforked unforked hnew heq
  exact hafter e (List.mem_append_right _ he) settled

theorem unsettled_concat {events : List Event} {e : Event} {pid : Pid} :
    Unsettled (events ++ [e]) pid ↔
      e.newPid? = some pid ∨ (Unsettled events pid ∧ e.settledPid? ≠ some pid) := by
  constructor
  · rintro ⟨before, first, after, heq, hnew, hafter⟩
    rcases split_of_concat heq with ⟨-, rfl, -⟩ | ⟨between, rfl, rfl⟩
    · exact .inl hnew
    · obtain ⟨hbetween, hlast⟩ := List.forall_mem_append.mp hafter
      exact .inr ⟨⟨before, first, between, rfl, hnew, hbetween⟩,
        hlast e (List.mem_singleton_self _)⟩
  · rintro (hnew | ⟨⟨before, first, after, rfl, hnew, hafter⟩, hlast⟩)
    · exact ⟨events, e, [], rfl, hnew, List.forall_mem_nil _⟩
    · refine ⟨before, first, after ++ [e], by rw [List.append_assoc]; rfl, hnew, ?_⟩
      exact List.forall_mem_append.mpr ⟨hafter, List.forall_mem_singleton.mpr hlast⟩

theorem FreshForks.concat {events : List Event} {e : Event} (h : FreshForks events)
    (fresh : ∀ pid, e.newPid? = some pid → ¬ Unsettled events pid) :
    FreshForks (events ++ [e]) := by
  intro before first after heq pid hnew
  rcases split_of_concat heq with ⟨rfl, rfl, -⟩ | ⟨between, hevents, -⟩
  · exact fresh pid hnew
  · exact h before first between hevents pid hnew

/-- Some processes after an event. -/
def Event.carry (pids : Multiset Pid) (e : Event) : Multiset Pid :=
  pids - e.settledPid?.toList + e.newPid?.toList

/-- Some processes after some events. -/
def carried (pids : Multiset Pid) (events : List Event) : Multiset Pid :=
  events.foldl Event.carry pids

/-- The unsettled processes. -/
def outstanding (events : List Event) : Multiset Pid := carried 0 events

@[simp] theorem carried_nil (pids : Multiset Pid) : carried pids [] = pids := rfl

@[simp] theorem carried_cons (pids : Multiset Pid) (e : Event) (events : List Event) :
    carried pids (e :: events) = carried (e.carry pids) events := rfl

theorem carried_append (pids : Multiset Pid) (events more : List Event) :
    carried pids (events ++ more) = carried (carried pids events) more := List.foldl_append

theorem outstanding_append (events more : List Event) :
    outstanding (events ++ more) = carried (outstanding events) more := carried_append 0 _ _

/-- An event that starts and settles no process. -/
theorem Event.carry_eq {e : Event} (hnew : e.newPid? = none) (hsettled : e.settledPid? = none)
    (pids : Multiset Pid) : e.carry pids = pids := by
  rw [carry, hnew, hsettled]
  exact (Multiset.add_zero _).trans (Multiset.sub_zero _)

/-- An event that settles a process. -/
theorem Event.carry_of_settled {e : Event} {pid : Pid} (hnew : e.newPid? = none)
    (hsettled : e.settledPid? = some pid) (pids : Multiset Pid) :
    e.carry pids = pids.erase pid := by
  rw [carry, hnew, hsettled]
  exact (Multiset.add_zero _).trans (Multiset.sub_singleton _ _)

section Waits

variable {pid : Pid} {flags : WaitFlags} {status : WaitStatus} {errno : Errno}

theorem Event.carry_of_alive (h : status.state ≠ .done) (pids : Multiset Pid) :
    carry pids ⟨.wait pid flags, .ok status⟩ = pids :=
  carry_eq rfl (by rw [settledPid?_ok, if_neg h]) pids

theorem Event.carry_of_done (h : status.state = .done) (pids : Multiset Pid) :
    carry pids ⟨.wait pid flags, .ok status⟩ = pids.erase pid :=
  carry_of_settled rfl (by rw [settledPid?_ok, if_pos h]) pids

theorem Event.carry_of_interrupted (pids : Multiset Pid) :
    carry pids ⟨.wait pid flags, .error .eintr⟩ = pids :=
  carry_eq rfl (by rw [settledPid?_error, if_pos rfl]) pids

theorem Event.carry_of_failed (h : errno ≠ .eintr) (pids : Multiset Pid) :
    carry pids ⟨.wait pid flags, .error errno⟩ = pids.erase pid :=
  carry_of_settled rfl (by rw [settledPid?_error, if_neg h]) pids

end Waits

theorem Event.carry_of_quiet {e : Event} (h : e.call.isQuiet = true) (pids : Multiset Pid) :
    e.carry pids = pids := carry_eq (newPid?_of_quiet h) (settledPid?_of_quiet h) pids

theorem carried_of_quiet {events : List Event} (h : Quiet events) (pids : Multiset Pid) :
    carried pids events = pids := by
  induction events with
  | nil => rfl
  | cons e events ih =>
    obtain ⟨he, h⟩ := quiet_cons.mp h
    rw [carried_cons, Event.carry_of_quiet he, ih h]

/-- An event that starts a process settles none. -/
theorem Event.settledPid?_of_new {e : Event} {pid : Pid} (h : e.newPid? = some pid) :
    e.settledPid? = none := by
  obtain ⟨call, answer⟩ := e
  cases call with
  | wait _ _ => cases h
  | _ => rfl

/-- An event that starts a process. -/
theorem Event.carry_of_new {e : Event} {pid : Pid} (hnew : e.newPid? = some pid)
    (pids : Multiset Pid) : e.carry pids = pid ::ₘ pids := by
  rw [carry, hnew, settledPid?_of_new hnew]
  exact (congrArg (· + _) (Multiset.sub_zero _)).trans (Multiset.add_comm _ _)

/-- **The processes counted along the events are the unsettled ones, each once.** -/
theorem outstanding_spec {events : List Event} (fresh : FreshForks events) :
    (outstanding events).Nodup ∧ ∀ pid, pid ∈ outstanding events ↔ Unsettled events pid := by
  induction events using List.reverseRecOn with
  | nil =>
    refine ⟨Multiset.nodup_zero, fun pid => iff_of_false (Multiset.notMem_zero _) ?_⟩
    rintro ⟨before, e, after, heq, -⟩
    exact List.append_ne_nil_of_right_ne_nil _ (List.cons_ne_nil _ _) heq.symm
  | append_singleton events e ih =>
    obtain ⟨nodup, mem_iff⟩ := ih fresh.left
    simp only [unsettled_concat, outstanding_append, carried_cons, carried_nil]
    cases hnew : e.newPid? with
    | some new =>
      rw [Event.carry_of_new hnew]
      have unknown : new ∉ outstanding events := fun hmem =>
        fresh events e [] rfl new hnew ((mem_iff new).mp hmem)
      refine ⟨Multiset.nodup_cons.mpr ⟨unknown, nodup⟩, fun pid => ?_⟩
      rw [Multiset.mem_cons, mem_iff, Event.settledPid?_of_new hnew, Option.some.injEq, eq_comm]
      simp
    | none =>
      cases hsettled : e.settledPid? with
      | none =>
        rw [Event.carry_eq hnew hsettled]
        exact ⟨nodup, fun pid => by simp [mem_iff]⟩
      | some settled =>
        rw [Event.carry_of_settled hnew hsettled]
        refine ⟨nodup.erase _, fun pid => ?_⟩
        rw [nodup.mem_erase_iff, mem_iff]
        simp [and_comm, eq_comm]

/-! ### The processes that jobs follow -/

/-- The members that have not ended, by their pids. -/
def unended (members : List Member) : List Pid :=
  (members.filter fun member => member.status.state ≠ .done).map (·.pid)

theorem unended_of_done {member : Member} (h : member.status.state = .done)
    (members : List Member) : unended (member :: members) = unended members := by
  rw [unended, List.filter_cons_of_neg (by simpa using h), unended]

theorem unended_of_alive {member : Member} (h : member.status.state ≠ .done)
    (members : List Member) : unended (member :: members) = member.pid :: unended members := by
  rw [unended, List.filter_cons_of_pos (by simpa using h), List.map_cons, unended]

/-- The first member may be counted apart. -/
theorem unended_cons_add (member : Member) (members : List Member) (others : Multiset Pid) :
    (unended (member :: members) : Multiset Pid) + others =
      unended members + (unended [member] + others) := by
  by_cases h : member.status.state = .done
  · rw [unended_of_done h, unended_of_done h]
    exact congrArg _ (Multiset.zero_add _).symm
  · rw [unended_of_alive h, unended_of_alive h, ← Multiset.cons_coe, Multiset.cons_add,
      ← Multiset.add_cons]
    rfl

/-- The processes that a job follows: its members that have not ended. -/
def Job.livePids (j : Job) : List Pid := unended j.members

/-- The processes that some jobs follow. -/
def live (jobs : Multiset Job) : Multiset Pid := jobs.bind fun job => job.livePids

theorem live_cons (job : Job) (jobs : Multiset Job) :
    live (job ::ₘ jobs) = job.livePids + live jobs := Multiset.cons_bind _ _ _

theorem live_add (jobs more : Multiset Job) : live (jobs + more) = live jobs + live more :=
  Multiset.add_bind _ _ _

/-- A job just launched follows all its processes. -/
theorem live_ofPids? (pids : List Pid) (foreground : Bool) :
    live (Job.ofPids? pids foreground).toList = pids := by
  have all : unended (pids.map fun pid => ⟨pid, .stillAlive⟩) = pids := by
    rw [unended, List.filter_eq_self.mpr, List.map_map]
    · exact List.map_id _
    · exact List.forall_mem_map.mpr fun pid _ => rfl
  cases pids with
  | nil => rfl
  | cons pid pids =>
    rw [ofPids?_cons]
    refine (live_cons _ 0).trans ?_
    exact (Multiset.add_zero _).trans (congrArg _ all)

theorem Job.livePids_of_done {job : Job} (h : job.state = .done) : job.livePids = [] := by
  rw [livePids, unended, List.map_eq_nil_iff, List.filter_eq_nil_iff]
  intro member hmember
  simpa using Job.state_eq_done_iff.mp h member hmember

theorem Job.livePids_resumed (job : Job) : job.resumed.livePids = job.livePids := by
  rw [livePids, resumed, livePids]
  dsimp only
  induction job.members with
  | nil => rfl
  | cons member members ih =>
    rw [List.map_cons]
    split
    · next h =>
      have alive : member.status.state ≠ .done := by
        rw [h]
        decide
      have running : WaitStatus.stillAlive.state ≠ .done := by decide
      rw [unended_of_alive alive, unended_of_alive running, ih]
    · by_cases h : member.status.state = .done
      · rw [unended_of_done h, unended_of_done h, ih]
      · rw [unended_of_alive h, unended_of_alive h, ih]

/-! ### What the events settle and start is what the roster loses and gains -/

/-- Both inquiries ask only about members that have not ended, and pass over no end. -/
theorem Inquiry.sound {q : Inquiry} (hq : q = .blocking ∨ q = .polling) :
    (∀ {s}, q.isDue s = true → s ≠ .done) ∧
      ∀ {status}, q.counts status = false → status.state ≠ .done := by
  rcases hq with rfl | rfl
  · refine ⟨fun {s} h => ?_, nofun⟩
    rw [of_decide_eq_true h]
    nofun
  · refine ⟨fun {s} h => of_decide_eq_true h, fun {status} h => ?_⟩
    rw [not_not.mp (of_decide_eq_false h)]
    nofun

namespace Findings

variable {found : Findings} (reports : List WaitStatus)

/-- A member that is not among the failures is kept. -/
theorem kept_cons (member : Member) (h : member.pid ∉ found.failures.map (·.pid)) :
    kept ⟨member :: found.members, reports, found.failures⟩ = member :: found.kept := by
  rw [kept, List.filter_cons_of_pos (by simpa using h), kept]

/-- A failure drops its member, and no member of another pid. -/
theorem kept_cons_failure {member : Member} {errno : Errno}
    (h : member.pid ∉ found.members.map (·.pid)) :
    kept ⟨member :: found.members, reports, ⟨member.pid, errno⟩ :: found.failures⟩ =
      found.kept := by
  rw [kept, List.filter_cons_of_neg (by simp), kept]
  refine List.filter_congr fun other hother => ?_
  have : other.pid ≠ member.pid := fun heq => h (heq ▸ List.mem_map_of_mem hother)
  simp [this]

end Findings

section Conserves

variable {members : List Member} {events : List Event} {found : Findings}

/-- Only members are noted as failures. -/
theorem Inquiry.Surveyed.failures_subset {q : Inquiry} (h : q.Surveyed members events found) :
    ∀ failure ∈ found.failures, failure.pid ∈ members.map (·.pid) := by
  induction h with
  | nil => nofun
  | interrupted _ _ ih => exact ih
  | passed _ _ ih | recorded _ _ _ ih | unchanged _ _ _ ih =>
    exact fun failure hfailure => List.mem_cons_of_mem _ (ih failure hfailure)
  | failed _ _ _ ih =>
    intro failure hfailure
    rcases List.mem_cons.mp hfailure with rfl | hfailure
    · exact List.mem_cons_self
    · exact List.mem_cons_of_mem _ (ih failure hfailure)

/-- A failure among the later members is none of the first. -/
theorem Inquiry.Surveyed.notMem_failures {q : Inquiry} (h : q.Surveyed members events found)
    {pid : Pid} (hpid : pid ∉ members.map (·.pid)) : pid ∉ found.failures.map (·.pid) := by
  intro hmem
  obtain ⟨failure, hfailure, rfl⟩ := List.mem_map.mp hmem
  exact hpid (h.failures_subset failure hfailure)

/-- **An inquiry follows no longer the processes that it settles, and follows all others.** -/
theorem Inquiry.Surveyed.conserves {q : Inquiry} (hq : q = .blocking ∨ q = .polling)
    (h : q.Surveyed members events found) (distinct : (members.map (·.pid)).Nodup)
    (others : Multiset Pid) :
    carried (unended members + others) events = unended found.kept + others := by
  obtain ⟨due_alive, uncounted_alive⟩ := Inquiry.sound hq
  induction h generalizing others with
  | nil => rfl
  | interrupted _ _ ih =>
    rw [carried_cons, Event.carry_of_interrupted]
    exact ih distinct others
  | passed _ h ih =>
    obtain ⟨hfirst, distinct⟩ := List.nodup_cons.mp distinct
    rw [Findings.kept_cons _ _ (h.notMem_failures hfirst), unended_cons_add, ih distinct,
      ← unended_cons_add]
  | unchanged due counts h ih =>
    obtain ⟨hfirst, distinct⟩ := List.nodup_cons.mp distinct
    rw [carried_cons, Event.carry_of_alive (uncounted_alive counts),
      Findings.kept_cons _ _ (h.notMem_failures hfirst), unended_cons_add, ih distinct,
      ← unended_cons_add]
  | @recorded member rest _ found status due counts h ih =>
    obtain ⟨hfirst, distinct⟩ := List.nodup_cons.mp distinct
    have kept := Findings.kept_cons (status :: found.reports) { member with status }
      (h.notMem_failures hfirst)
    rw [carried_cons, kept, unended_of_alive (due_alive due),
      ← Multiset.cons_coe, Multiset.cons_add]
    by_cases hdone : status.state = .done
    · rw [Event.carry_of_done hdone, Multiset.erase_cons_head, unended_of_done hdone]
      exact ih distinct others
    · rw [Event.carry_of_alive hdone, unended_of_alive hdone, ← Multiset.cons_coe,
        Multiset.cons_add, ← Multiset.add_cons, ← Multiset.add_cons]
      exact ih distinct _
  | @failed member rest _ found errno due hne h ih =>
    obtain ⟨hfirst, distinct⟩ := List.nodup_cons.mp distinct
    -- the member is settled and dropped, and no other has its pid
    have alone : member.pid ∉ found.members.map (·.pid) := by rwa [h.pids_eq]
    rw [carried_cons, Event.carry_of_failed hne, carried_cons, Event.carry_eq rfl rfl,
      Findings.kept_cons_failure _ alone, unended_of_alive (due_alive due), ← Multiset.cons_coe,
      Multiset.cons_add, Multiset.erase_cons_head]
    exact ih distinct others

end Conserves

variable {own : Pid} {q : Inquiry} {first last : Multiset Job} {events : List Event}

/-- **A step follows no longer the processes that its events settle, and follows all others.** -/
theorem Roster.Step.conserves (hq : q = .blocking ∨ q = .polling)
    (h : Step own q first events last)
    (distinct : ∀ job ∈ first, job.pids.Nodup) : carried (live first) events = live last := by
  cases h with
  | quiet he => exact carried_of_quiet (quiet_cons.mpr ⟨he, quiet_nil⟩) _
  | @inquire job _ _ found hsurvey =>
    rw [live_cons, live_cons]
    exact hsurvey.conserves hq (distinct job (Multiset.mem_cons_self _ _)) _
  | @resume job _ _ =>
    rw [carried_cons, Event.carry_eq rfl rfl, carried_nil, live_cons, live_cons,
      Job.livePids_resumed]
  | signal _ _ | handOver _ | takeBack => rw [carried_cons, Event.carry_eq rfl rfl, carried_nil]
  | place _ =>
    rw [carried_nil, live_cons, live_cons]
    rfl
  | release hdone =>
    rw [carried_nil, live_cons, Job.livePids_of_done hdone]
    exact Multiset.zero_add _

/-- Starting processes adds them to the unsettled ones. -/
theorem Spawn.Started.conserves {started started' : List Pid}
    (h : Spawn.Started started events started') (others : Multiset Pid) :
    carried (started + others) events = started' + others := by
  induction h with
  | nil => rfl
  | quiet he _ ih =>
    rw [carried_cons, Event.carry_of_quiet he]
    exact ih
  | refused _ ih =>
    rw [carried_cons, Event.carry_eq rfl rfl]
    exact ih
  | @forked started _ _ _ pid _ _ ih =>
    rw [carried_cons, Event.carry_of_new rfl, ← Multiset.cons_add, ← ih, ← Multiset.coe_add,
      Multiset.add_comm (started : Multiset Pid)]
    rfl

/-! ### Sessions -/

/-- **The invariant: what is followed is what is unsettled, and the members of a job are
distinct.** -/
structure Conserved (history : List Event) (jobs : Multiset Job) : Prop where
  live_eq : live jobs = outstanding history
  distinct : ∀ job ∈ jobs, job.pids.Nodup

theorem Conserved.step {history : List Event} (hq : q = .blocking ∨ q = .polling)
    (h : Step own q first events last) (inv : Conserved history first) :
    Conserved (history ++ events) last := by
  refine ⟨?_, fun job hjob => ?_⟩
  · rw [outstanding_append, ← inv.live_eq, h.conserves hq inv.distinct]
  · obtain ⟨before, hbefore, hjob⟩ := h.descends job hjob
    exact (inv.distinct before hbefore).sublist hjob.2

/-- The processes of a launch are new, so they are distinct. -/
theorem Conserved.launch {history : List Event} {jobs : Multiset Job} {started : List Pid}
    (foreground : Bool) (fresh : FreshForks (history ++ events))
    (h : Spawn.Started [] events started) (inv : Conserved history jobs) :
    Conserved (history ++ events) ((Job.ofPids? started foreground).toList + jobs) := by
  have counted : (started : Multiset Pid) + live jobs = outstanding (history ++ events) := by
    rw [outstanding_append, ← inv.live_eq, ← h.conserves, Multiset.coe_nil, Multiset.zero_add]
  refine ⟨?_, fun job hjob => ?_⟩
  · rw [live_add, live_ofPids?, counted]
  · rcases Multiset.mem_add.mp hjob with hjob | hjob
    · have nodup := (outstanding_spec fresh).1
      rw [← counted] at nodup
      rw [(mem_ofPids?_toList hjob).2]
      exact Multiset.coe_nodup.mp (Multiset.nodup_add.mp nodup).1
    · exact inv.distinct job hjob

variable {terminal : Terminal} {lines : List (List Event)} {shell : Shell}

theorem Session.conserved (h : Session terminal lines shell) (fresh : FreshForks lines.flatten) :
    Conserved lines.flatten shell.jobs.roster := by
  refine h.course.preserves (fun history jobs => FreshForks history → Conserved history jobs)
    ?_ ?_ ?_ fresh
  · exact fun _ => ⟨rfl, nofun⟩
  · exact fun hq step inv fresh => (inv fresh.left).step hq step
  · exact fun foreground started inv fresh => (inv fresh.left).launch foreground fresh started

/-- The processes that a table follows, one entry for each member that has not ended. -/
def JobTable.livePids (t : JobTable) : List Pid :=
  (t.foreground.toList ++ t.background.toList ++ t.disowned).flatMap Job.livePids

theorem JobTable.coe_livePids (t : JobTable) : (t.livePids : Multiset Pid) = live t.roster :=
  (Multiset.coe_bind _ _).symm

/-- Each member that an inquiry is about is asked until an answer is no interruption. -/
theorem Inquiry.Surveyed.answered {q : Inquiry} {members : List Member} {found : Findings}
    (h : q.Surveyed members events found) :
    ∀ member ∈ members, q.isDue member.status.state = true →
      ∃ answer, answer ≠ .error .eintr ∧ ⟨.wait member.pid q.flags, answer⟩ ∈ events := by
  -- an answer among the later events is one among all of them
  have later : ∀ {rest : List Member} {events : List Event} (e : Event),
      (∀ member ∈ rest, q.isDue member.status.state = true →
        ∃ answer, answer ≠ .error .eintr ∧ ⟨.wait member.pid q.flags, answer⟩ ∈ events) →
      ∀ member ∈ rest, q.isDue member.status.state = true →
        ∃ answer, answer ≠ .error .eintr ∧ ⟨.wait member.pid q.flags, answer⟩ ∈ e :: events := by
    intro rest events e h member hmember due
    obtain ⟨answer, hne, hasked⟩ := h member hmember due
    exact ⟨answer, hne, List.mem_cons_of_mem _ hasked⟩
  induction h with
  | nil => nofun
  | passed hpassed _ ih =>
    refine List.forall_mem_cons.mpr ⟨fun due => ?_, ih⟩
    rw [hpassed] at due
    cases due
  | interrupted _ _ ih => exact later _ ih
  | recorded _ _ _ ih | unchanged _ _ _ ih =>
    exact List.forall_mem_cons.mpr ⟨fun _ => ⟨.ok _, nofun, List.mem_cons_self⟩, later _ ih⟩
  | failed _ hne _ ih =>
    refine List.forall_mem_cons.mpr ⟨fun _ => ⟨_, fun heq => hne ?_, List.mem_cons_self⟩,
      later _ (later _ ih)⟩
    exact Except.error.inj heq

/-- **Collecting what is to be reported asks about each process followed, and the table follows no
longer those that have ended.** -/
theorem collected_of_reap {history : List Event} {rounds : Nat} {shell' : Shell}
    (h : (shell.reapBackground rounds).Run events shell') (settled : shell.jobs.Settled)
    (fresh : FreshForks history) (inv : Conserved history shell.jobs.roster)
    {pid : Pid} (hpid : pid ∈ shell.jobs.livePids)
    (ended : ∀ flags answer, ⟨.wait pid flags, answer⟩ ∈ events →
      answer = .error .eintr ∨ ∃ status, answer = .ok status ∧ status.state = .done) :
    (∃ flags status, ⟨.wait pid flags, .ok status⟩ ∈ events ∧ status.state = .done) ∧
      pid ∉ shell'.jobs.livePids := by
  -- the job that the process is a member of is polled, and with it the process
  have asked : ∃ flags answer, answer ≠ .error .eintr ∧ ⟨.wait pid flags, answer⟩ ∈ events := by
    obtain ⟨-, -, polling, announcing, rfl, -, polled⟩ := run_reapBackground h
    rw [← Multiset.mem_coe, coe_livePids, roster_eq_rear settled.free] at hpid
    obtain ⟨job, hjob, hpid⟩ := Multiset.mem_bind.mp hpid
    obtain ⟨member, hmember, rfl⟩ := List.mem_map.mp (Multiset.mem_coe.mp hpid)
    obtain ⟨hmember, alive⟩ := List.mem_filter.mp hmember
    obtain ⟨before, during, after, job', others, rfl, hpoll, -, -⟩ :=
      polled.split shell.terminal.shellGroup hjob 0
    obtain ⟨found, hsurvey, -⟩ := run_poll hpoll
    obtain ⟨answer, hne, hasked⟩ := hsurvey.answered member hmember alive
    exact ⟨_, answer, hne, by simp [hasked]⟩
  obtain ⟨flags, answer, hne, hasked⟩ := asked
  obtain ⟨status, rfl, hdone⟩ := (ended flags answer hasked).resolve_left hne
  refine ⟨⟨flags, status, hasked, hdone⟩, ?_⟩
  -- what is followed then is what is unsettled then
  obtain ⟨-, -, steps⟩ := steps_reapBackground h settled
  have unforked := (Spans.steps steps).forks_eq
  have inv' := steps.preserves Conserved (Conserved.step (.inr rfl)) history inv
  rw [← Multiset.mem_coe, coe_livePids, inv'.live_eq, (outstanding_spec (fresh.append unforked)).2]
  refine not_unsettled_of_settled unforked hasked ?_
  rw [Event.settledPid?_ok, if_pos hdone]

/-- **After each line every process started so far is settled or followed exactly once, as a member
that has not ended of one job; and only unsettled processes are followed.  When the next line has
collected what is to be reported, a process followed whose waits are only answered with its end has
been reported and is followed no longer.** -/
theorem processes_conserved (h : Session terminal lines shell) (fresh : FreshForks lines.flatten) :
    shell.jobs.foreground = none ∧
      (∀ before e after pid, lines.flatten = before ++ e :: after → e.newPid? = some pid →
        (∃ later ∈ after, later.settledPid? = some pid) ∨ shell.jobs.livePids.count pid = 1) ∧
      shell.jobs.livePids.Nodup ∧ (∀ pid ∈ shell.jobs.livePids, Unsettled lines.flatten pid) ∧
      ∀ tokens rounds events shell' report,
        (Line.execute shell tokens rounds).Run events (shell', report) →
        ∃ reaping rest middle, events = reaping ++ rest ∧
          (shell.reapBackground rounds).Run reaping middle ∧
          ∀ pid ∈ shell.jobs.livePids,
            (∀ flags answer, ⟨.wait pid flags, answer⟩ ∈ reaping →
              answer = .error .eintr ∨ ∃ status, answer = .ok status ∧ status.state = .done) →
            (∃ flags status, ⟨.wait pid flags, .ok status⟩ ∈ reaping ∧ status.state = .done) ∧
              pid ∉ middle.jobs.livePids := by
  have inv := h.conserved fresh
  obtain ⟨nodup, mem_iff⟩ := outstanding_spec fresh
  rw [← inv.live_eq, ← coe_livePids, Multiset.coe_nodup] at nodup
  have live_iff : ∀ pid, pid ∈ shell.jobs.livePids ↔ Unsettled lines.flatten pid := by
    intro pid
    rw [← mem_iff, ← inv.live_eq, ← coe_livePids, Multiset.mem_coe]
  refine ⟨h.settled.free, fun before e after pid heq hnew => ?_, nodup,
    fun pid => (live_iff pid).mp, ?_⟩
  · by_cases hsettled : ∃ later ∈ after, later.settledPid? = some pid
    · exact .inl hsettled
    · refine .inr (List.count_eq_one_of_mem nodup ((live_iff pid).mpr ?_))
      exact ⟨before, e, after, heq, hnew, fun later hlater h => hsettled ⟨later, hlater, h⟩⟩
  · intro tokens rounds events shell' report run
    obtain ⟨reaping, rest, middle, rfl, hreap, -⟩ := execute_operates run
    refine ⟨reaping, rest, middle, rfl, hreap, fun pid hpid ended => ?_⟩
    exact collected_of_reap hreap h.settled fresh inv hpid ended

/-- The lost leader is settled; the other process is followed, and unsettled. -/
theorem conserved_after_losing_leader :
    FreshForks [Sample.launching, Sample.losing].flatten ∧
      (Sample.shellWith [⟨8, .stillAlive⟩]).jobs.livePids = [8] ∧
      Unsettled [Sample.launching, Sample.losing].flatten 8 := by
  have fresh : FreshForks [Sample.launching, Sample.losing].flatten := .of_nodup (by decide)
  obtain ⟨-, -, -, unsettled, -⟩ := processes_conserved Sample.session fresh
  exact ⟨fresh, rfl, unsettled 8 (List.mem_singleton_self _)⟩

end JobControl
