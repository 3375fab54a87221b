import Mathlib.Data.Multiset.AddSub
import JobControl.Proofs.Quiet
import JobControl.Proofs.Survey

/-!
# The jobs that a shell follows

Between its lines and within them a shell follows some jobs: those of its table and the one that it
is just moving from place to place.  Their order does not matter, so they form a multiset, the
*roster*.  Whatever the shell does to jobs that it follows already is one of the steps of
`Roster.Step`; the operations of the job table are sequences of them.

## Main definitions

* `Roster.Step own q jobs events jobs'` — one thing that happens to the jobs followed, with the
  events that go with it; `own` is the process group of the shell, and members are asked about by
  `q`.
* `Roster.Steps own q jobs events jobs'` — a sequence of steps.
* `Job.Displaces job events job'` — how a job loses its place.
* `JobTable.roster t` — the jobs of a table.
* `Roster.Spans own jobs events jobs'` — steps that only poll, but for at most one wait for the job
  in the foreground of a table.
* `JobTable.Settled t` — the table as it is between two operations.
* `Polled rounds polled events kept` — polling some jobs in order.
* `JobTable.Collected` — how it is collected what is to be reported.

## Main results

* `run_setBackground`, `run_waitForeground` — what the operations of the table do to the roster;
  each leaves a settled table settled.
* `JobTable.Collected.polled` — which jobs are polled; `Polled.steps` and `Polled.split` are about
  these.
-/

namespace JobControl

open JobControl.Action (run_pure_iff run_pair_iff run_bind_iff run_bind_pure_iff run_bind_pair_iff
  run_ask_bind_iff)

namespace Roster

/-- One thing that happens to the jobs that a shell follows.  Signals and the terminal go only to
the group of a job that is not done. -/
inductive Step (own : Pid) (q : Inquiry) : Multiset Job → List Event → Multiset Job → Prop
  /-- A request that concerns no job. -/
  | quiet {jobs : Multiset Job} {e : Event} : e.call.isQuiet = true → Step own q jobs [e] jobs
  /-- The members of a job are asked about. -/
  | inquire {job : Job} {jobs : Multiset Job} {events : List Event} {found : Findings} :
      q.Surveyed job.members events found →
      Step own q (job ::ₘ jobs) events (job.record found ::ₘ jobs)
  /-- A group is let go on. -/
  | resume {job : Job} {jobs : Multiset Job} : job.state ≠ .done →
      Step own q (job ::ₘ jobs) [⟨.signalGroup job.pgid .cont, .ok ()⟩] (job.resumed ::ₘ jobs)
  /-- Another signal is sent, or one that is refused. -/
  | signal {job : Job} {jobs : Multiset Job} {signal : Signal} {answer : Except Errno Unit} :
      job.state ≠ .done → signal ≠ .cont ∨ answer ≠ .ok () →
      Step own q (job ::ₘ jobs) [⟨.signalGroup job.pgid signal, answer⟩] (job ::ₘ jobs)
  /-- A job gets the terminal. -/
  | handOver {job : Job} {jobs : Multiset Job} {answer : Except Errno Unit} : job.state ≠ .done →
      Step own q (job ::ₘ jobs) [⟨.setTerminalGroup job.pgid, answer⟩] (job ::ₘ jobs)
  /-- The shell takes the terminal back. -/
  | takeBack {jobs : Multiset Job} {answer : Except Errno Unit} :
      Step own q jobs [⟨.setTerminalGroup own, answer⟩] jobs
  /-- A job is moved between foreground and background. -/
  | place {job : Job} {jobs : Multiset Job} (foreground : Bool) :
      Step own q (job ::ₘ jobs) [] ({ job with foreground } ::ₘ jobs)
  /-- A job that is done is no longer followed. -/
  | release {job : Job} {jobs : Multiset Job} : job.state = .done →
      Step own q (job ::ₘ jobs) [] jobs

/-- A sequence of steps. -/
inductive Steps (own : Pid) (q : Inquiry) : Multiset Job → List Event → Multiset Job → Prop
  | refl {jobs : Multiset Job} : Steps own q jobs [] jobs
  | cons {first middle last : Multiset Job} {events more : List Event} :
      Step own q first events middle → Steps own q middle more last →
      Steps own q first (events ++ more) last

variable {own : Pid} {q : Inquiry} {jobs first middle last : Multiset Job}
  {events more : List Event}

theorem Step.steps (h : Step own q first events last) : Steps own q first events last := by
  have := Steps.cons h .refl
  rwa [List.append_nil] at this

theorem Steps.trans (h : Steps own q first events middle) (h' : Steps own q middle more last) :
    Steps own q first (events ++ more) last := by
  induction h with
  | refl => exact h'
  | cons step _ ih =>
    rw [List.append_assoc]
    exact .cons step (ih h')

theorem Steps.cons_event {e : Event} (h : Step own q first [e] middle)
    (h' : Steps own q middle events last) : Steps own q first (e :: events) last := .cons h h'

theorem Steps.cons_silent (h : Step own q first [] middle) (h' : Steps own q middle events last) :
    Steps own q first events last := .cons h h'

/-- Quiet events leave the roster alone. -/
theorem Steps.quiet (h : Quiet events) : Steps own q jobs events jobs := by
  induction events with
  | nil => exact .refl
  | cons e events ih =>
    obtain ⟨he, h⟩ := quiet_cons.mp h
    exact .cons_event (.quiet he) (ih h)

/-- An invariant that every step keeps is kept by a sequence of steps. -/
theorem Steps.preserves (Inv : List Event → Multiset Job → Prop)
    (step : ∀ {history first events last}, Step own q first events last → Inv history first →
      Inv (history ++ events) last)
    (h : Steps own q first events last) (history : List Event) (inv : Inv history first) :
    Inv (history ++ events) last := by
  induction h generalizing history with
  | refl => rwa [List.append_nil]
  | cons hstep _ ih =>
    rw [← List.append_assoc]
    exact ih _ (step hstep inv)

end Roster

open Roster

/-! ### Operations on one job -/

variable {own : Pid} {rounds : Nat} {events : List Event} {job job' : Job}

theorem run_poll (h : (job.poll rounds).Run events job') :
    ∃ found, Inquiry.polling.Surveyed job.members events found ∧ job' = job.record found := by
  obtain ⟨found, hsurvey, rfl⟩ := run_bind_pure_iff.mp h
  exact ⟨found, Inquiry.surveyed_of_run hsurvey, rfl⟩

theorem run_wait {result : Except WaitFailure State}
    (h : (job.wait rounds).Run events (job', result)) :
    ∃ found, Inquiry.blocking.Surveyed job.members events found ∧ job' = job.record found := by
  obtain ⟨asked, last, ⟨members, reports, failures⟩, rfl, hsurvey, hlast⟩ := run_bind_iff.mp h
  have answered : last = [] ∧ job' = job.record ⟨members, reports, failures⟩ := by
    cases failures with
    | nil =>
      obtain ⟨rfl, kept, -⟩ := run_pair_iff.mp hlast
      exact ⟨rfl, kept⟩
    | cons failure _ =>
      obtain ⟨rfl, kept, -⟩ := run_pair_iff.mp hlast
      exact ⟨rfl, kept⟩
  rw [answered.1, List.append_nil]
  exact ⟨_, Inquiry.surveyed_of_run hsurvey, answered.2⟩

/-- A job that cannot be let go on stays as it is. -/
theorem run_resume {result : Except Errno Job} (h : (job.resume rounds).Run events result) :
    (∃ e, result = .error e ∧ events = [⟨.signalGroup job.pgid .cont, .error e⟩]) ∨
      (result = .ok job.resumed ∧
        events = [⟨.signalGroup job.pgid .cont, .ok ()⟩, ⟨.log (.continued job.pgid), ()⟩]) := by
  obtain ⟨answer, rest, rfl, hrest⟩ := run_ask_bind_iff.mp h
  cases answer with
  | error e =>
    obtain ⟨rfl, rfl⟩ := run_pure_iff.mp hrest
    exact .inl ⟨e, rfl, rfl⟩
  | ok _ =>
    obtain ⟨_, logged, rfl, hlast⟩ := run_ask_bind_iff.mp hrest
    obtain ⟨rfl, rfl⟩ := run_pure_iff.mp hlast
    exact .inr ⟨rfl, rfl⟩

/-- Letting a group go on changes only the members of the job. -/
theorem eq_resumed_of_run {resumed : Job} (h : (job.resume rounds).Run events (.ok resumed)) :
    resumed = job.resumed := by
  rcases run_resume h with ⟨e, failed, -⟩ | ⟨hresumed, -⟩
  · cases failed
  · exact Except.ok.inj hresumed

theorem steps_resume (own : Pid) {result : Except Errno Job}
    (h : (job.resume rounds).Run events result) (alive : job.state ≠ .done) (jobs : Multiset Job) :
    Steps own .polling (job ::ₘ jobs) events (result.toOption.getD job ::ₘ jobs) := by
  rcases run_resume h with ⟨e, rfl, rfl⟩ | ⟨rfl, rfl⟩
  · refine Step.steps (.signal alive (.inr ?_))
    nofun
  · exact .cons_event (.resume alive) (.quiet (by simp [Call.isQuiet]))

/-- How a job loses its place: one that is recorded as stopped is hung up, and goes on unless one of
the two signals is refused. -/
inductive Job.Displaces (job : Job) : List Event → Job → Prop
  | unstopped : job.state ≠ .stopped → Displaces job [⟨.log (.displaced job.pgid), ()⟩] job
  | untold {e : Errno} : job.state = .stopped →
      Displaces job [⟨.log (.displaced job.pgid), ()⟩, ⟨.signalGroup job.pgid .hup, .error e⟩,
        ⟨.log (.hangUpFailed job.pgid e), ()⟩] job
  | unmoved {e : Errno} : job.state = .stopped →
      Displaces job [⟨.log (.displaced job.pgid), ()⟩, ⟨.signalGroup job.pgid .hup, .ok ()⟩,
        ⟨.signalGroup job.pgid .cont, .error e⟩, ⟨.log (.hangUpFailed job.pgid e), ()⟩] job
  | moved : job.state = .stopped →
      Displaces job [⟨.log (.displaced job.pgid), ()⟩, ⟨.signalGroup job.pgid .hup, .ok ()⟩,
        ⟨.signalGroup job.pgid .cont, .ok ()⟩, ⟨.log (.continued job.pgid), ()⟩] job.resumed

theorem displaces_of_run (h : (JobTable.displace job rounds).Run events job') :
    job.Displaces events job' := by
  obtain ⟨_, rest, rfl, hrest⟩ := run_ask_bind_iff.mp h
  split at hrest
  · next stopped =>
    obtain ⟨hanging, last, result, rfl, hhang, hlast⟩ := run_bind_iff.mp hrest
    obtain ⟨told, resuming, rfl, hresuming⟩ := run_ask_bind_iff.mp hhang
    cases told with
    | error e =>
      obtain ⟨rfl, rfl⟩ := run_pure_iff.mp hresuming
      obtain ⟨_, noted, rfl, hnoted⟩ := run_ask_bind_iff.mp hlast
      obtain ⟨rfl, rfl⟩ := run_pure_iff.mp hnoted
      exact .untold stopped
    | ok _ =>
      rcases run_resume hresuming with ⟨e, rfl, rfl⟩ | ⟨rfl, rfl⟩
      · obtain ⟨_, noted, rfl, hnoted⟩ := run_ask_bind_iff.mp hlast
        obtain ⟨rfl, rfl⟩ := run_pure_iff.mp hnoted
        exact .unmoved stopped
      · obtain ⟨rfl, rfl⟩ := run_pure_iff.mp hlast
        exact .moved stopped
  · next running =>
    obtain ⟨rfl, rfl⟩ := run_pure_iff.mp hrest
    exact .unstopped running

/-- A job that loses its place goes on if it was hung up, and is not changed else. -/
theorem run_displace (own : Pid) (h : (JobTable.displace job rounds).Run events job')
    (alive : job.state ≠ .done) (jobs : Multiset Job) :
    (job' = job ∨ job' = job.resumed) ∧
      Steps own .polling (job ::ₘ jobs) events (job' ::ₘ jobs) := by
  have logged : ∀ {entry : LogEntry} {jobs : Multiset Job},
      Steps own .polling jobs [⟨.log entry, ()⟩] jobs := .quiet (by simp [Call.isQuiet])
  have told : ∀ {answer : Except Errno Unit},
      Step own .polling (job ::ₘ jobs) [⟨.signalGroup job.pgid .hup, answer⟩] (job ::ₘ jobs) :=
    .signal alive (.inl (by decide))
  cases displaces_of_run h with
  | unstopped _ => exact ⟨.inl rfl, logged⟩
  | untold _ => exact ⟨.inl rfl, logged.trans (.cons_event told logged)⟩
  | @unmoved e _ =>
    have refused : Step own .polling (job ::ₘ jobs) [⟨.signalGroup job.pgid .cont, .error e⟩]
        (job ::ₘ jobs) := .signal alive (.inr (by simp))
    exact ⟨.inl rfl, logged.trans (.cons_event told (.cons_event refused logged))⟩
  | moved _ =>
    exact ⟨.inr rfl, logged.trans (.cons_event told (.cons_event (.resume alive) logged))⟩

/-! ### Operations of the table -/

namespace JobTable

/-- The jobs of a table. -/
def roster (t : JobTable) : Multiset Job :=
  (t.foreground.toList ++ t.background.toList ++ t.disowned : List Job)

/-- A table between two operations: no job is in the foreground, and the others are not done. -/
structure Settled (t : JobTable) : Prop where
  free : t.foreground = none
  alive : ∀ job ∈ t.roster, job.state ≠ .done
  placed : ∀ job ∈ t.roster, job.foreground = false

variable {t t' : JobTable} {disowned : List Job}

@[simp] theorem roster_none : roster ⟨none, none, disowned⟩ = disowned := rfl

theorem roster_foreground {background : Option Job} :
    roster ⟨some job, background, disowned⟩ = job ::ₘ roster ⟨none, background, disowned⟩ := rfl

@[simp] theorem roster_some : roster ⟨none, some job, disowned⟩ = job ::ₘ disowned := rfl

/-- A job that is followed where no job is in the foreground. -/
def Rests (job : Job) : Prop := job.state ≠ .done ∧ job.foreground = false

theorem settled_iff : t.Settled ↔ t.foreground = none ∧ ∀ job ∈ t.roster, Rests job :=
  ⟨fun h => ⟨h.free, fun job hjob => ⟨h.alive job hjob, h.placed job hjob⟩⟩,
    fun h => ⟨h.1, fun job hjob => (h.2 job hjob).1, fun job hjob => (h.2 job hjob).2⟩⟩

end JobTable

open JobTable (Rests settled_iff roster_none roster_some roster_foreground)

variable {t t' : JobTable}

/-- **A job put into the background is followed from there, and the one that was there as well.** -/
theorem run_setBackground (own : Pid) (h : (t.setBackground job rounds).Run events t')
    (settled : t.Settled) (alive : job.state ≠ .done) :
    t'.Settled ∧ Steps own .polling (job ::ₘ t.roster) events t'.roster := by
  obtain ⟨foreground, background, disowned⟩ := t
  obtain ⟨rfl, rest⟩ := settled_iff.mp settled
  cases background with
  | none =>
    obtain ⟨rfl, rfl⟩ := run_pure_iff.mp h
    refine ⟨settled_iff.mpr ⟨rfl, ?_⟩, (Step.place false).steps⟩
    exact Multiset.forall_mem_cons.mpr ⟨⟨alive, rfl⟩, rest⟩
  | some previous =>
    obtain ⟨displaced, hdisplace, rfl⟩ := run_bind_pure_iff.mp h
    have roster_eq : JobTable.roster ⟨none, some { job with foreground := false },
        disowned ++ [displaced]⟩ = displaced ::ₘ { job with foreground := false } ::ₘ disowned := by
      rw [roster_some, Multiset.cons_swap, ← Multiset.coe_add, Multiset.add_comm,
        Multiset.coe_singleton, Multiset.singleton_add]
    rw [roster_some, Multiset.forall_mem_cons] at rest
    -- the job that is displaced goes on being followed: it is only moved to the disowned ones
    obtain ⟨hdisplaced, steps⟩ := run_displace own hdisplace rest.1.1
      ({ job with foreground := false } ::ₘ disowned)
    refine ⟨settled_iff.mpr ⟨rfl, ?_⟩, ?_⟩
    · rw [roster_eq, Multiset.forall_mem_cons, Multiset.forall_mem_cons]
      refine ⟨?_, ⟨alive, rfl⟩, rest.2⟩
      rcases hdisplaced with rfl | rfl
      · exact rest.1
      · exact ⟨fun h => rest.1.1 (Job.state_resumed_eq_done_iff.mp h), rest.1.2⟩
    · rw [roster_eq, roster_some]
      refine .trans (Step.place false).steps ?_
      rw [Multiset.cons_swap]
      exact steps

/-- Every event tells the user of a child that could not be waited for. -/
def Complains (events : List Event) : Prop :=
  ∀ e ∈ events, ∃ failure, e.call = .say (.waitFailed failure)

theorem Complains.quiet (h : Complains events) : Quiet events := by
  intro e he
  obtain ⟨failure, hcall⟩ := h e he
  rw [hcall]
  rfl

/-- Waiting in the foreground asks about the job there, and changes nothing else. -/
theorem run_awaitForeground (hforeground : t.foreground = some job)
    (h : (t.awaitForeground rounds).Run events t') :
    ∃ asked spoken found, events = asked ++ spoken ∧ Complains spoken ∧
      Inquiry.blocking.Surveyed job.members asked found ∧
      t' = { t with foreground := some (job.record found) } := by
  simp only [JobTable.awaitForeground, hforeground] at h
  obtain ⟨asked, rest, ⟨waited, result⟩, rfl, hwait, hrest⟩ := run_bind_iff.mp h
  obtain ⟨found, hsurvey, rfl⟩ := run_wait hwait
  cases result with
  | ok _ =>
    obtain ⟨rfl, rfl⟩ := run_pure_iff.mp hrest
    exact ⟨asked, [], found, rfl, List.forall_mem_nil _, hsurvey, rfl⟩
  | error failure =>
    obtain ⟨_, last, rfl, hlast⟩ := run_ask_bind_iff.mp hrest
    obtain ⟨rfl, rfl⟩ := run_pure_iff.mp hlast
    exact ⟨asked, _, found, rfl, List.forall_mem_singleton.mpr ⟨failure, rfl⟩, hsurvey, rfl⟩

theorem steps_awaitForeground (own : Pid) (hforeground : t.foreground = some job)
    (h : (t.awaitForeground rounds).Run events t') :
    Steps own .blocking t.roster events t'.roster := by
  obtain ⟨asked, spoken, found, rfl, complains, hsurvey, rfl⟩ := run_awaitForeground hforeground h
  obtain ⟨foreground, background, disowned⟩ := t
  obtain rfl : foreground = some job := hforeground
  rw [roster_foreground, roster_foreground]
  exact .cons (.inquire hsurvey) (.quiet complains.quiet)

/-- What is done to the jobs followed where at most one of them is waited for: the one in the
foreground of a table. -/
inductive Roster.Spans (own : Pid) : Multiset Job → List Event → Multiset Job → Prop
  | steps {first last : Multiset Job} {events : List Event} :
      Steps own .polling first events last → Spans own first events last
  | waiting {first last : Multiset Job} {t t' : JobTable} {job : Job} {rounds : Nat}
      {before during after : List Event} : Steps own .polling first before t.roster →
      t.foreground = some job → (t.awaitForeground rounds).Run during t' →
      Steps own .polling t'.roster after last → Spans own first (before ++ (during ++ after)) last

namespace Roster.Spans

variable {first middle last : Multiset Job} {more : List Event}

theorem after_steps (h : Steps own .polling first events middle) (h' : Spans own middle more last) :
    Spans own first (events ++ more) last := by
  cases h' with
  | steps h' => exact .steps (h.trans h')
  | waiting before hforeground await after =>
    rw [← List.append_assoc]
    exact .waiting (h.trans before) hforeground await after

theorem before_steps (h : Spans own first events middle)
    (h' : Steps own .polling middle more last) : Spans own first (events ++ more) last := by
  cases h with
  | steps h => exact .steps (h.trans h')
  | waiting before hforeground await after =>
    rw [List.append_assoc, List.append_assoc]
    exact .waiting before hforeground await (after.trans h')

/-- An invariant that every step keeps, whichever way members are asked about, is kept. -/
theorem preserves (Inv : List Event → Multiset Job → Prop)
    (step : ∀ {q history first events last}, q = .blocking ∨ q = .polling →
      Step own q first events last → Inv history first → Inv (history ++ events) last)
    (h : Spans own first events last) (history : List Event) (inv : Inv history first) :
    Inv (history ++ events) last := by
  cases h with
  | steps h => exact h.preserves Inv (step (.inr rfl)) _ inv
  | waiting before hforeground await after =>
    have inv := before.preserves Inv (step (.inr rfl)) _ inv
    have inv := (steps_awaitForeground own hforeground await).preserves Inv (step (.inl rfl)) _ inv
    rw [← List.append_assoc, ← List.append_assoc]
    exact after.preserves Inv (step (.inr rfl)) _ inv

end Roster.Spans

/-- A job that leaves the foreground is released if it is done, and goes to the background else. -/
theorem run_leaveForeground (own : Pid) (hforeground : t.foreground = some job)
    (h : (t.leaveForeground rounds).Run events t')
    (settled : JobTable.Settled { t with foreground := none }) :
    t'.Settled ∧
      Steps own .polling (job ::ₘ JobTable.roster { t with foreground := none }) events
        t'.roster := by
  simp only [JobTable.leaveForeground, hforeground] at h
  split at h
  · next hdone =>
    obtain ⟨_, last, rfl, hlast⟩ := run_ask_bind_iff.mp h
    obtain ⟨rfl, rfl⟩ := run_pure_iff.mp hlast
    exact ⟨settled, .cons_event (.quiet rfl) (Step.release hdone).steps⟩
  · next halive =>
    obtain ⟨_, placing, rfl, hplacing⟩ := run_ask_bind_iff.mp h
    obtain ⟨settled', steps⟩ := run_setBackground own hplacing settled halive
    exact ⟨settled', .cons_event (.quiet rfl) steps⟩

/-- **A job waited for in the foreground leaves the roster if it is done, and is in the background
else.** -/
theorem run_waitForeground (own : Pid) {outcome : Outcome}
    (h : (t.waitForeground job rounds).Run events (t', outcome)) (settled : t.Settled) :
    t'.Settled ∧ Spans own (job ::ₘ t.roster) events t'.roster := by
  obtain ⟨foreground, background, disowned⟩ := t
  obtain rfl : foreground = none := settled.free
  obtain ⟨awaiting, rest, waited, rfl, hawait, hrest⟩ := run_bind_iff.mp h
  obtain ⟨left, hleave, rfl, -⟩ := run_bind_pair_iff.mp hrest
  obtain ⟨asked, spoken, found, -, -, -, rfl⟩ := run_awaitForeground rfl hawait
  obtain ⟨settled', steps⟩ := run_leaveForeground own rfl hleave settled
  -- the job is put into the foreground, awaited there, and leaves it
  have placed : Steps own .polling (job ::ₘ JobTable.roster ⟨none, background, disowned⟩) []
      (JobTable.roster ⟨some { job with foreground := true }, background, disowned⟩) :=
    (Step.place true).steps
  have spans := Spans.waiting placed rfl hawait steps
  exact ⟨settled', spans⟩

/-! ### Collecting what is to be reported -/

/-- Some jobs are polled in order; those that are done are not kept. -/
inductive Polled (rounds : Nat) : List Job → List Event → List Job → Prop
  | nil : Polled rounds [] [] []
  | ended {job after rest kept asked events} : (Job.poll job rounds).Run asked after →
      after.state = .done → Polled rounds rest events kept →
      Polled rounds (job :: rest) (asked ++ events) kept
  | going {job after rest kept asked events} : (Job.poll job rounds).Run asked after →
      after.state ≠ .done → Polled rounds rest events kept →
      Polled rounds (job :: rest) (asked ++ events) (after :: kept)

namespace Polled

variable {polled kept : List Job}

theorem append {polled' kept' : List Job} {more : List Event} (h : Polled rounds polled events kept)
    (h' : Polled rounds polled' more kept') :
    Polled rounds (polled ++ polled') (events ++ more) (kept ++ kept') := by
  induction h with
  | nil => exact h'
  | ended run hdone _ ih =>
    rw [List.append_assoc]
    exact .ended run hdone ih
  | going run halive _ ih =>
    rw [List.append_assoc]
    exact .going run halive ih

/-- Jobs that rest are polled where they are. -/
theorem rests (h : Polled rounds polled events kept) (rest : ∀ job ∈ polled, Rests job) :
    ∀ job ∈ kept, Rests job := by
  induction h with
  | nil => exact rest
  | ended _ _ _ ih => exact ih (List.forall_mem_cons.mp rest).2
  | going run halive _ ih =>
    obtain ⟨hjob, rest⟩ := List.forall_mem_cons.mp rest
    obtain ⟨found, -, rfl⟩ := run_poll run
    exact List.forall_mem_cons.mpr ⟨⟨halive, hjob.2⟩, ih rest⟩

/-- Each job is asked about, and released if it is done. -/
theorem steps (own : Pid) (h : Polled rounds polled events kept) (jobs : Multiset Job) :
    Steps own .polling (polled + jobs) events (kept + jobs) := by
  induction h generalizing jobs with
  | nil => exact .refl
  | ended run hdone _ ih =>
    obtain ⟨found, hsurvey, rfl⟩ := run_poll run
    rw [← Multiset.cons_coe, Multiset.cons_add]
    exact .cons (.inquire hsurvey) (.cons_silent (.release hdone) (ih jobs))
  | @going job _ rest _ _ _ run halive _ ih =>
    obtain ⟨found, hsurvey, rfl⟩ := run_poll run
    have steps := ih (job.record found ::ₘ jobs)
    rw [Multiset.add_cons, Multiset.add_cons] at steps
    rw [← Multiset.cons_coe, Multiset.cons_add, ← Multiset.cons_coe, Multiset.cons_add]
    exact .cons (.inquire hsurvey) steps

/-- Each of the jobs is polled at some time; until then it is as it was. -/
theorem split (own : Pid) (h : Polled rounds polled events kept) {job : Job} (hjob : job ∈ polled)
    (jobs : Multiset Job) :
    ∃ before during after job' others, events = before ++ (during ++ after) ∧
      (job.poll rounds).Run during job' ∧ (job'.state = .done ∨ job' ∈ kept) ∧
      Steps own .polling (polled + jobs) before (job ::ₘ others) := by
  induction h generalizing jobs with
  | nil => cases hjob
  | @ended first _ rest _ asked _ run hdone _ ih =>
    rw [← Multiset.cons_coe, Multiset.cons_add]
    rcases List.mem_cons.mp hjob with rfl | hjob
    -- the job is the first to be polled
    · exact ⟨[], asked, _, _, rest + jobs, rfl, run, .inl hdone, .refl⟩
    · obtain ⟨before, during, after, job', others, rfl, hpoll, hkept, steps⟩ := ih hjob jobs
      obtain ⟨found, hsurvey, rfl⟩ := run_poll run
      refine ⟨asked ++ before, during, after, job', others, (List.append_assoc ..).symm, hpoll,
        hkept, ?_⟩
      exact .cons (.inquire hsurvey) (.cons_silent (.release hdone) steps)
  | @going first _ rest _ asked _ run halive _ ih =>
    rw [← Multiset.cons_coe, Multiset.cons_add]
    rcases List.mem_cons.mp hjob with rfl | hjob
    · exact ⟨[], asked, _, _, rest + jobs, rfl, run, .inr List.mem_cons_self, .refl⟩
    · obtain ⟨found, hsurvey, rfl⟩ := run_poll run
      obtain ⟨before, during, after, job', others, rfl, hpoll, hkept, steps⟩ :=
        ih hjob (first.record found ::ₘ jobs)
      refine ⟨asked ++ before, during, after, job', others, (List.append_assoc ..).symm, hpoll,
        hkept.imp_right (List.mem_cons_of_mem _), ?_⟩
      rw [Multiset.add_cons] at steps
      exact .cons (.inquire hsurvey) steps

end Polled

/-- The jobs that are not in the foreground, in the order in which they are polled. -/
def JobTable.rear (t : JobTable) : List Job := t.disowned ++ t.background.toList

theorem JobTable.roster_eq_rear (free : t.foreground = none) : t.roster = t.rear := by
  rw [roster, free]
  exact Multiset.coe_eq_coe.mpr List.perm_append_comm

theorem run_pollAll {polled : List Job} :
    ∀ {events : List Event} {kept : List Job}, (JobTable.pollAll polled rounds).Run events kept →
      Polled rounds polled events kept := by
  induction polled with
  | nil =>
    intro events kept h
    obtain ⟨rfl, rfl⟩ := run_pure_iff.mp h
    exact .nil
  | cons job rest ih =>
    intro events kept h
    obtain ⟨asked, others, after, rfl, hpoll, hothers⟩ := run_bind_iff.mp h
    obtain ⟨kept', hmore, hkept⟩ := run_bind_pure_iff.mp hothers
    split at hkept
    · next hdone =>
      rw [hkept]
      exact .ended hpoll hdone (ih hmore)
    · next halive =>
      rw [hkept]
      exact .going hpoll halive (ih hmore)

/-- What is announced of a job that was polled: its group and state, if the state changed. -/
def Job.change (before after : Job) : Option (Pid × State) :=
  if before.state = after.state then none else some (after.pgid, after.state)

/-- How it is collected what is to be reported: the job in the background is polled after the
disowned ones. -/
inductive JobTable.Collected (t : JobTable) (rounds : Nat) :
    List Event → JobTable → Option (Pid × State) → Prop
  | idle {polling : List Event} {kept : List Job} : t.background = none →
      Polled rounds t.disowned polling kept →
      Collected t rounds polling { t with disowned := kept } none
  | ended {polling asked : List Event} {kept : List Job} {job after : Job} :
      t.background = some job → Polled rounds t.disowned polling kept →
      (job.poll rounds).Run asked after → after.state = .done →
      Collected t rounds (polling ++ (asked ++ [⟨.log (.finished after.pgid), ()⟩]))
        { t with background := none, disowned := kept } (job.change after)
  | going {polling asked : List Event} {kept : List Job} {job after : Job} :
      t.background = some job → Polled rounds t.disowned polling kept →
      (job.poll rounds).Run asked after → after.state ≠ .done →
      Collected t rounds (polling ++ asked) { t with background := some after, disowned := kept }
        (job.change after)

theorem collected_of_reapTable {change : Option (Pid × State)}
    (h : (t.reapBackground rounds).Run events (t', change)) :
    t.Collected rounds events t' change := by
  obtain ⟨foreground, background, disowned⟩ := t
  obtain ⟨polling, others, kept, rfl, hpolling, hothers⟩ := run_bind_iff.mp h
  have polled := run_pollAll hpolling
  cases background with
  | none =>
    obtain ⟨rfl, rfl, rfl⟩ := run_pair_iff.mp hothers
    rw [List.append_nil]
    exact .idle rfl polled
  | some job =>
    obtain ⟨asked, last, after, rfl, hpoll, hlast⟩ := run_bind_iff.mp hothers
    split at hlast
    · next hdone =>
      obtain ⟨_, ending, rfl, hending⟩ := run_ask_bind_iff.mp hlast
      obtain ⟨rfl, rfl, rfl⟩ := run_pair_iff.mp hending
      exact .ended rfl polled hpoll hdone
    · next halive =>
      obtain ⟨rfl, rfl, rfl⟩ := run_pair_iff.mp hlast
      rw [List.append_nil]
      exact .going rfl polled hpoll halive

/-- **Collecting what is to be reported polls each job that is not in the foreground, and no other
job.** -/
theorem JobTable.Collected.polled {change : Option (Pid × State)}
    (h : t.Collected rounds events t' change) :
    t'.foreground = t.foreground ∧ ∃ polling logging, events = polling ++ logging ∧ Quiet logging ∧
      Polled rounds t.rear polling t'.rear := by
  cases h with
  | idle hbackground polled =>
    refine ⟨rfl, events, [], (List.append_nil _).symm, quiet_nil, ?_⟩
    rw [JobTable.rear, JobTable.rear, hbackground, Option.toList_none, List.append_nil,
      List.append_nil]
    exact polled
  | @ended polling asked _ _ _ hbackground polled hpoll hdone =>
    have ended := polled.append (.ended hpoll hdone .nil)
    rw [List.append_nil] at ended
    refine ⟨rfl, polling ++ asked, _, (List.append_assoc ..).symm, by simp [Call.isQuiet], ?_⟩
    rw [JobTable.rear, JobTable.rear, hbackground]
    exact ended
  | @going polling asked _ _ _ hbackground polled hpoll halive =>
    have going := polled.append (.going hpoll halive .nil)
    rw [List.append_nil] at going
    refine ⟨rfl, polling ++ asked, [], (List.append_nil _).symm, quiet_nil, ?_⟩
    rw [JobTable.rear, JobTable.rear, hbackground]
    exact going

end JobControl
