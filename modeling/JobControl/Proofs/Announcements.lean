import JobControl.Proofs.Board
import JobControl.Proofs.Books
import JobControl.Proofs.Turns

/-!
# Announcements

What a shell tells its user of the job in the background agrees with what it records of it, whatever
the system answers, as long as a wait without end is not answered with news of a running process.

## Main definitions

* `lastAnnounced group events` — the state of a group that the user was told last.
* `Agrees told t` — the last thing told is the state of the job in the background.
* `Board.Shows lines b t` — a board shows the jobs of a table, numbered by the lines.
* `Chronicle` — a session with a board that is kept along it.

## Main results

* `Session.agrees` — what was told last agrees with the table after every session.
* `collects_of_reap`, `acts_of_turns` — what is done to the jobs is done to the board.
* `Session.chronicle` — a board can be kept along every session.
* `announced_as_recorded` — **the state last announced of the background job is the one recorded,
  and it is announced as done once, when it ends there, and never after it was taken from there.**
-/

namespace JobControl

open JobTable
open Books (getElem?_concat)

variable {shell shell' : Shell} {job : Job} {rounds : Nat} {events : List Event}

/-! ### The last announcement -/

/-- The state of a group that the user was told last. -/
def lastAnnounced (group : Pid) (events : List Event) : Option State :=
  (((announced events).filter fun a => a.1 = group).getLast?).map Prod.snd

section Agrees

variable {t t' : JobTable} {told : List (Pid × State)}

/-- The last thing told is the state of the job in the background. -/
def Agrees (told : List (Pid × State)) (t : JobTable) : Prop :=
  ∀ job, t.background = some job → told.getLast? = some (job.pgid, job.state)

theorem Agrees.lastAnnounced (h : Agrees (announced events) t) (hjob : t.background = some job) :
    lastAnnounced job.pgid events = some job.state := by
  obtain ⟨others, heq⟩ := List.getLast?_eq_some_iff.mp (h job hjob)
  rw [JobControl.lastAnnounced, heq, List.filter_append]
  simp

/-- Collecting what is to be reported keeps to this: a changed state is told. -/
theorem JobTable.Collected.agrees {change : Option (Pid × State)}
    (h : t.Collected rounds events t' change) (agrees : Agrees told t) :
    Agrees (told ++ change.toList) t' := by
  cases h with
  | idle hbackground _ =>
    intro job hjob
    cases hbackground.symm.trans hjob
  | ended => exact nofun
  | @going _ _ _ job after hbackground _ hpoll _ =>
    rintro _ ⟨⟩
    obtain ⟨found, -, rfl⟩ := run_poll hpoll
    by_cases same : job.state = (job.record found).state
    · rw [Job.change, if_pos same, Option.toList_none, List.append_nil, ← same]
      exact agrees job hbackground
    · rw [Job.change, if_neg same]
      exact List.getLast?_concat

theorem JobTable.Turns.agrees {pids : List Pid} {more : List (Pid × State)}
    (h : t.Turns pids more t') (agrees : Agrees told t) : Agrees (told ++ more) t' := by
  cases h with
  | stays => rwa [List.append_nil]
  | leaves => exact nofun
  | changes _ _ _ =>
    rintro _ ⟨⟩
    exact List.getLast?_concat
  | takes _ _ takes =>
    cases takes with
    | free _ | displacing _ _ =>
      rintro _ ⟨⟩
      exact List.getLast?_concat

/-- **Between any two lines the last thing told is the state of the job in the background.** -/
theorem Session.agrees {terminal : Terminal} {lines : List (List Event)}
    (h : Session terminal lines shell) (patient : Patient lines.flatten) :
    Agrees (announced lines.flatten) shell.jobs := by
  induction h with
  | fresh => exact nofun
  | line before run ih =>
    rw [List.flatten_append, List.flatten_singleton] at patient ⊢
    obtain ⟨earlier, patient⟩ := patient.of_append
    obtain ⟨reaping, rest, middle, rfl, hreap, executed⟩ := executed_of_run run
    obtain ⟨-, settled, -⟩ := steps_reapBackground hreap before.settled
    obtain ⟨polling, change, jobs, rfl, rfl, collected⟩ := collected_of_run hreap
    have turns := turns_of_executed executed settled patient.of_append.2
    rw [announced_append, announced_append, announced_append, collected.announced_eq,
      List.nil_append, announced_announcement, ← List.append_assoc]
    exact turns.agrees (collected.agrees (ih earlier))

end Agrees

/-! ### The board of a session -/

/-- The processes that a line started. -/
def starts (lines : List (List Event)) (k : Nat) : List Pid := (lines[k]?.map forks).getD []

/-- What the user is told, with the jobs by their numbers. -/
def Told (lines : List (List Event)) (events : List Event) (news : List (Nat × State)) : Prop :=
  (announced events).map (fun a => (some a.1, a.2)) =
    news.map fun a => ((starts lines a.1).head?, a.2)

/-- A board shows the jobs of a table: each is what is left of the processes that the line with its
number started. -/
structure Board.Shows (lines : List (List Event)) (b : Board) (t : JobTable) : Prop where
  background : Option.Rel (fun x job => x.2 = job.state ∧ job.From (starts lines x.1)) b.slot
    t.background
  disowned : List.Forall₂ (fun n job => job.From (starts lines n)) b.disowned t.disowned

section Board

variable {lines : List (List Event)} {b : Board} {t t' : JobTable} {k : Nat}

theorem starts_append {more : List (List Event)} (h : (starts lines k).head?.isSome) :
    starts (lines ++ more) k = starts lines k := by
  rcases Nat.lt_or_ge k lines.length with hk | hk
  · rw [starts, starts, List.getElem?_append_left hk]
  · rw [starts, List.getElem?_eq_none hk] at h
    cases h

theorem Job.From.append {more : List (List Event)} (h : job.From (starts lines k)) :
    job.From (starts (lines ++ more) k) := by
  rwa [starts_append (Option.isSome_of_eq_some h.1)]

theorem Board.Shows.append {more : List (List Event)} (h : b.Shows lines t) :
    b.Shows (lines ++ more) t := by
  obtain ⟨background, disowned⟩ := h
  refine ⟨?_, disowned.imp fun _ _ => Job.From.append⟩
  obtain ⟨slot, _⟩ := b
  obtain ⟨_, job, _⟩ := t
  cases background with
  | none => exact .none
  | some shows => exact .some ⟨shows.1, shows.2.append⟩

theorem Told.append {more : List (List Event)} {news : List (Nat × State)}
    (h : Told lines events news) : Told (lines ++ more) events news := by
  refine h.trans (List.map_congr_left fun a ha => ?_)
  -- what is told has a group, so its line is among the first
  have hmem : ((starts lines a.1).head?, a.2) ∈ (announced events).map fun a => (some a.1, a.2) :=
    h ▸ List.mem_map_of_mem ha
  obtain ⟨told, -, heq⟩ := List.mem_map.mp hmem
  rw [starts_append (Option.isSome_of_eq_some (Prod.ext_iff.mp heq).1.symm)]

theorem told_nil (h : announced events = []) : Told lines events [] := by
  rw [Told, h]
  rfl

theorem told_singleton {n : Nat} {s : State} (launched : job.From (starts lines n))
    (h : announced events = [(job.pgid, s)]) : Told lines events [(n, s)] := by
  rw [Told, h, List.map_singleton, List.map_singleton, launched.1]

/-- Of disowned jobs that are polled some are kept, and with them their numbers. -/
theorem Polled.numbered {polled kept : List Job} {numbers : List Nat}
    (h : Polled rounds polled events kept)
    (shows : List.Forall₂ (fun n job => job.From (starts lines n)) numbers polled) :
    ∃ left, left.Sublist numbers ∧
      List.Forall₂ (fun n job => job.From (starts lines n)) left kept := by
  induction h generalizing numbers with
  | nil => exact ⟨[], List.nil_sublist _, .nil⟩
  | ended _ _ _ ih =>
    cases shows with
    | cons _ others =>
      obtain ⟨left, sub, shows⟩ := ih others
      exact ⟨left, sub.cons _, shows⟩
  | going run _ _ ih =>
    cases shows with
    | cons first others =>
      obtain ⟨left, sub, shows⟩ := ih others
      obtain ⟨found, hsurvey, rfl⟩ := run_poll run
      exact ⟨_ :: left, sub.cons_cons _, .cons (first.descends (Job.descends_record hsurvey)) shows⟩

/-- A job in the background has a number. -/
theorem Board.Shows.number (h : b.Shows lines t) (hjob : t.background = some job) :
    ∃ n, b.slot = some (n, job.state) ∧ job.From (starts lines n) := by
  obtain ⟨background, -⟩ := h
  obtain ⟨slot, _⟩ := b
  rw [hjob] at background
  cases background with
  | @some x _ shows =>
    obtain ⟨n, state⟩ := x
    obtain ⟨rfl, shows⟩ := shows
    exact ⟨n, rfl, shows⟩

theorem Board.Shows.number_none (h : b.Shows lines t) (hjob : t.background = none) :
    b.slot = none := by
  obtain ⟨background, -⟩ := h
  obtain ⟨slot, _⟩ := b
  rw [hjob] at background
  cases background
  rfl

/-- **What it is collected of the jobs is collected of the board.** -/
theorem collects_of_reap (h : (shell.reapBackground rounds).Run events shell')
    (settled : shell.jobs.Settled) (shows : b.Shows lines shell.jobs) :
    ∃ found b', b.Collects found b' ∧ b'.Shows lines shell'.jobs ∧ Told lines events found := by
  obtain ⟨polling, change, jobs, rfl, rfl, collected⟩ := collected_of_run h
  have told : announced (polling ++ announcement change) = change.toList := by
    rw [announced_append, collected.announced_eq, announced_announcement, List.nil_append]
  cases collected with
  | idle hbackground polled =>
    obtain ⟨left, sub, disowned⟩ := polled.numbered shows.disowned
    exact ⟨[], _, .nothing sub, ⟨shows.background, disowned⟩, told_nil told⟩
  | @ended _ _ _ job after hbackground polled hpoll hdone =>
    obtain ⟨left, sub, disowned⟩ := polled.numbered shows.disowned
    obtain ⟨n, hslot, launched⟩ := shows.number hbackground
    obtain ⟨found, -, rfl⟩ := run_poll hpoll
    have hnumber : b.number = some n := by rw [Board.number, hslot]; rfl
    -- the job was not done before, so that it is announced
    have alive : job.state ≠ .done := (settled.take hbackground).2.2.1
    have changed : (job.change (job.record found)).toList = [(job.pgid, .done)] := by
      rw [Job.change, if_neg (fun same => alive (same.trans hdone)), hdone]
      rfl
    exact ⟨_, _, .finished hnumber sub, ⟨.none, disowned⟩,
      told_singleton launched (told.trans changed)⟩
  | @going _ _ _ job after hbackground polled hpoll halive =>
    obtain ⟨left, sub, disowned⟩ := polled.numbered shows.disowned
    obtain ⟨n, hslot, launched⟩ := shows.number hbackground
    obtain ⟨found, hsurvey, rfl⟩ := run_poll hpoll
    have hnumber : b.number = some n := by rw [Board.number, hslot]; rfl
    have later := launched.descends (Job.descends_record hsurvey)
    by_cases same : job.state = (job.record found).state
    · have unchanged : (job.change (job.record found)).toList = [] := by
        rw [Job.change, if_pos same]
        rfl
      refine ⟨[], _, .nothing sub, ⟨?_, disowned⟩, told_nil (told.trans unchanged)⟩
      rw [hslot]
      exact .some ⟨same, later⟩
    · have changed : (job.change (job.record found)).toList =
          [((job.record found).pgid, (job.record found).state)] := by
        rw [Job.change, if_neg same]
        rfl
      exact ⟨_, _, .changed hnumber halive sub, ⟨.some ⟨rfl, later⟩, disowned⟩,
        told_singleton later (told.trans changed)⟩

/-- **What a line does to the jobs it does to the board.** -/
theorem acts_of_turns (h : t.Turns (starts lines k) (announced events) t') (settled : t.Settled)
    (shows : b.Shows lines t) :
    ∃ acted b', b.Acts k acted b' ∧ b'.Shows lines t' ∧ Told lines events acted := by
  generalize htold : announced events = told at h
  cases h with
  | stays => exact ⟨[], b, .nothing, shows, told_nil htold⟩
  | leaves => exact ⟨[], _, .taken, ⟨.none, shows.disowned⟩, told_nil htold⟩
  | changes hbackground descends halive =>
    obtain ⟨n, hslot, launched⟩ := shows.number hbackground
    have hnumber : b.number = some n := by rw [Board.number, hslot]; rfl
    have later := launched.descends descends
    exact ⟨_, _, .changed hnumber halive, ⟨.some ⟨rfl, later⟩, shows.disowned⟩,
      told_singleton later htold⟩
  | @takes job _ _ _ launched halive takes =>
    refine ⟨[(k, job.state)], _, .placed halive, ?_, told_singleton launched htold⟩
    cases takes with
    | free hbackground =>
      have none : b.number.toList = [] := by rw [Board.number, shows.number_none hbackground]; rfl
      rw [none, List.append_nil]
      exact ⟨.some ⟨rfl, launched⟩, shows.disowned⟩
    | @displacing previous displaced _ hbackground hdisplace =>
      obtain ⟨n, hslot, earlier⟩ := shows.number hbackground
      have one : b.number.toList = [n] := by rw [Board.number, hslot]; rfl
      -- the job that is displaced may have been let go on
      have descends : displaced.Descends previous := by
        obtain ⟨rfl | rfl, -⟩ := run_displace 0 hdisplace (settled.take hbackground).2.2.1 0
        · exact .refl _
        · exact previous.descends_resumed
      rw [one]
      exact ⟨.some ⟨rfl, launched⟩,
        List.rel_append shows.disowned (.cons (earlier.descends descends) .nil)⟩

end Board

/-- What the board has of a line: the jobs after it was collected what is to be reported, and what
was announced before and after that moment. -/
def Line.Recorded (lines : List (List Event)) (before : Shell) (line : List Event)
    (middle after : Shell) (entry : Board.Entry) : Prop :=
  ∃ tokens rounds report reaping rest, line = reaping ++ rest ∧
    (Line.execute before tokens rounds).Run line (after, report) ∧
    (before.reapBackground rounds).Run reaping middle ∧ entry.board.Shows lines middle.jobs ∧
    Told lines reaping entry.found ∧ Told lines rest entry.acted

theorem Line.Recorded.append {lines more : List (List Event)} {line : List Event} {middle : Shell}
    {entry : Board.Entry} (h : Line.Recorded lines shell line middle shell' entry) :
    Line.Recorded (lines ++ more) shell line middle shell' entry := by
  obtain ⟨tokens, rounds, report, reaping, rest, heq, run, hreap, shows, found, acted⟩ := h
  exact ⟨tokens, rounds, report, reaping, rest, heq, run, hreap, shows.append, found.append,
    acted.append⟩

/-- A session with a board: the shells and boards between the lines, and what happens during each
line. -/
structure Chronicle (terminal : Terminal) (lines : List (List Event)) (shell : Shell)
    (shells middles : Nat → Shell) (boards : Nat → Board) (entries : Nat → Board.Entry) : Prop where
  fresh : shells 0 = { terminal }
  final : shells lines.length = shell
  kept : Board.Kept lines.length boards entries
  shown : ∀ k ≤ lines.length, (boards k).Shows lines (shells k).jobs
  recorded : ∀ k line, lines[k]? = some line →
    Line.Recorded lines (shells k) line (middles k) (shells (k + 1)) (entries k)

/-- **A board can be kept along every session.** -/
theorem Session.chronicle {terminal : Terminal} {lines : List (List Event)}
    (h : Session terminal lines shell) (patient : Patient lines.flatten) :
    ∃ shells middles boards entries,
      Chronicle terminal lines shell shells middles boards entries := by
  induction h with
  | fresh =>
    refine ⟨fun _ => { terminal }, fun _ => { terminal }, fun _ => {}, fun _ => ⟨[], {}, []⟩, rfl,
      rfl, ⟨rfl, nofun, nofun⟩, fun k _ => ⟨.none, .nil⟩, nofun⟩
  | @line lines shell shell' tokens rounds events report before run ih =>
    rw [List.flatten_append, List.flatten_singleton] at patient
    obtain ⟨earlier, patient⟩ := patient.of_append
    obtain ⟨shells, middles, boards, entries, chronicle⟩ := ih earlier
    obtain ⟨reaping, rest, middle, rfl, hreap, executed⟩ := executed_of_run run
    obtain ⟨-, settled, -⟩ := steps_reapBackground hreap before.settled
    -- the line reads the board that was kept so far
    have shown :
        (boards lines.length).Shows (lines ++ [reaping ++ rest]) (shells lines.length).jobs :=
      (chronicle.shown _ le_rfl).append
    rw [chronicle.final] at shown
    obtain ⟨found, collected, collects, shows, toldFound⟩ :=
      collects_of_reap hreap before.settled shown
    have started : starts (lines ++ [reaping ++ rest]) lines.length = forks rest := by
      rw [starts, List.getElem?_concat_length]
      exact (forks_append _ _).trans (by rw [forks_of_reapBackground hreap, List.nil_append])
    have turns := turns_of_executed executed settled patient.of_append.2
    rw [← started] at turns
    obtain ⟨acted, board, acts, shows', toldActed⟩ := acts_of_turns turns settled shows
    -- what was there before is as it was
    have same : ∀ {α : Type} (f : Nat → α) (x : α) {n k : Nat}, k < n →
        Function.update f n x k = f k := fun f x n k hk => Function.update_of_ne hk.ne x f
    refine ⟨Function.update shells (lines.length + 1) shell',
      Function.update middles lines.length middle,
      Function.update boards (lines.length + 1) board,
      Function.update entries lines.length ⟨found, collected, acted⟩, ?_, ?_, ?_, ?_, ?_⟩
    · rw [same _ _ (Nat.succ_pos _), chronicle.fresh]
    · rw [List.length_append, List.length_singleton, Function.update_self]
    · rw [List.length_append, List.length_singleton]
      exact chronicle.kept.extend (e := ⟨found, collected, acted⟩) collects acts
    · intro k hk
      rw [List.length_append, List.length_singleton] at hk
      rcases Nat.le_or_eq_of_le_succ hk with hk | rfl
      · rw [same _ _ (Nat.lt_succ_of_le hk), same _ _ (Nat.lt_succ_of_le hk)]
        exact (chronicle.shown k hk).append
      · rw [Function.update_self, Function.update_self]
        exact shows'
    · intro k line hline
      rcases getElem?_concat hline with ⟨hk, hline⟩ | ⟨rfl, rfl⟩
      · rw [same _ _ (Nat.lt_succ_of_lt hk), same _ _ hk, same _ _ (Nat.succ_lt_succ hk),
          same _ _ hk]
        exact (chronicle.recorded k line hline).append
      · rw [same _ _ (Nat.lt_succ_self _), Function.update_self, Function.update_self,
          Function.update_self, chronicle.final]
        exact ⟨tokens, rounds, report, reaping, rest, rfl, run, hreap, shows, toldFound, toldActed⟩

/-- **Between any two lines the state that was last announced of the group of the background job is
the one recorded.  A board can be kept along the session, on which a job that ends in the background
is announced as done at that moment, once; a job that a line takes from there, to the foreground or
because another takes its place, is never announced as done; and a disowned job is not announced any
more.** -/
theorem announced_as_recorded {terminal : Terminal} {lines : List (List Event)}
    (h : Session terminal lines shell) (patient : Patient lines.flatten) :
    (∀ job, shell.jobs.background = some job →
      lastAnnounced job.pgid lines.flatten = some job.state) ∧
    ∃ shells middles boards entries,
      Chronicle terminal lines shell shells middles boards entries ∧
      (∀ k n, k < lines.length → (boards k).number = some n → (entries k).board.number = none →
        (entries k).found = [(n, .done)] ∧ ∀ m < lines.length,
          ((n, .done) ∈ (entries m).found → m = k) ∧ (n, .done) ∉ (entries m).acted) ∧
      (∀ k n, k < lines.length → (entries k).board.number = some n →
        (boards (k + 1)).number ≠ some n → ∀ m < lines.length,
          (n, .done) ∉ (entries m).found ∧ (n, .done) ∉ (entries m).acted) ∧
      ∀ k n, k ≤ lines.length → n ∈ (boards k).disowned → ∀ m, k ≤ m → m < lines.length →
        ∀ s, (n, s) ∉ (entries m).found ∧ (n, s) ∉ (entries m).acted := by
  refine ⟨fun job hjob => (h.agrees patient).lastAnnounced hjob, ?_⟩
  obtain ⟨shells, middles, boards, entries, chronicle⟩ := h.chronicle patient
  have kept := chronicle.kept
  exact ⟨shells, middles, boards, entries, chronicle,
    fun k n hk there gone => kept.finished_once hk there gone,
    fun k n hk there gone => kept.never_finished hk there gone,
    fun k n hk hn m hkm hm => kept.silent_of_disowned hk hn hkm hm⟩

/-- A job that stopped in the foreground and could not be made to go on is announced as stopped. -/
theorem announced_after_refusal :
    lastAnnounced 7 [Sample.suspending, Sample.refusing].flatten = some .stopped := by
  have session : Session (.owned 1 (some .initial)) [Sample.suspending, Sample.refusing]
      (Sample.onTerminal Sample.stopped) :=
    .line (.line .fresh Sample.run_suspending) Sample.run_refusing
  have patient : Patient [Sample.suspending, Sample.refusing].flatten := by
    intro pid flags status he hang
    have waits : ((pid = 7 ∧ flags = .untilStopped) ∧ status = .stopped .tstp) ∨
        ((pid = 7 ∧ flags = .collect) ∧ status = .stillAlive) := by
      simpa [Sample.suspending, Sample.refusing] using he
    rcases waits with ⟨-, rfl⟩ | ⟨⟨-, rfl⟩, -⟩
    · decide
    · cases hang
  exact (announced_as_recorded session patient).1 _ rfl

end JobControl
