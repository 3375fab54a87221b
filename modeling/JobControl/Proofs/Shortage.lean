import JobControl.Proofs.Formation
import JobControl.Proofs.Reports

/-!
# When descriptors run short

A launch holds the files of all stages to come, and between two stages one end of a pipe.  So what a
pipeline needs besides its files does not grow with its length: two descriptors for a pipe, and one
more for the end that the next stage reads from, which a file of the first stage makes up for.

## Main definitions

* `Holding.Metered limit h events` — what is asked for is refused exactly if there is no room for
  it.
* `Stock own limit fds h` — the shell has opened `fds`, and that fits.
* `Spawn.Advances` — what becomes of the first of some stages.

## Main results

* `fitted_openAll` — the files are opened exactly if there is room for all of them.
* `Spawn.Launched.complete` — with room for one more pipe, all stages are started.
* `descriptors_needed` — **what becomes of a pipeline with a given number of descriptors left.**
-/

namespace JobControl

open JobControl.Action (run_pure_iff run_bind_iff run_ask_bind_iff)

/-! ### A limit -/

/-- How many descriptors a request is answered with. -/
def Call.demand : Call → Nat
  | .openInput _ | .openOutput _ => 1
  | .pipe => 2
  | _ => 0

/-- A file, a pipe or a process is refused. -/
def Event.isRefused : Event → Bool
  | ⟨.openInput _, .error _⟩ | ⟨.openOutput _, .error _⟩ => true
  | ⟨.pipe, .error _⟩ | ⟨.fork _, .error _⟩ => true
  | _ => false

/-- The shell can have no more than `limit` descriptors: what it asks for is refused if and only if
there is no room for it.  A process needs no room. -/
def Holding.Metered (limit : Nat) (h : Holding) : List Event → Prop
  | [] => True
  | e :: events =>
    (e.isRefused = true ↔ limit < h.shell.length + e.call.demand) ∧ (h.after e).Metered limit events

instance Holding.decidableMetered (limit : Nat) :
    ∀ (h : Holding) (events : List Event), Decidable (h.Metered limit events)
  | _, [] => .isTrue trivial
  | h, e :: events =>
    have := decidableMetered limit (h.after e) events
    inferInstanceAs (Decidable ((e.isRefused = true ↔ limit < h.shell.length + e.call.demand) ∧
      (h.after e).Metered limit events))

section Limit

variable {limit : Nat} {h h' : Holding} {e : Event} {events more : List Event}
  {own : Descriptors End} {fds rest : List Fd} {d : Descriptors End} {fd : Fd}

theorem Holding.metered_append : h.Metered limit (events ++ more) ↔
    h.Metered limit events ∧ (h.afterAll events).Metered limit more := by
  induction events generalizing h with
  | nil => simp [Metered]
  | cons e events ih => simp [Metered, ih, and_assoc]

/-- No number is in use twice. -/
def Descriptors.Distinct (d : Descriptors End) : Prop := (d.map Prod.fst).Nodup

theorem Descriptors.Distinct.close (distinct : d.Distinct) (fd : Fd) : (d.close fd).Distinct :=
  distinct.sublist (List.filter_sublist.map _)

theorem Descriptors.Distinct.insert (distinct : d.Distinct) (fd : Fd) (slot : Slot End) :
    (d.insert fd slot).Distinct := by
  refine List.nodup_cons.mpr ⟨fun hmem => ?_, distinct.close fd⟩
  obtain ⟨entry, hentry, hfd⟩ := List.mem_map.mp hmem
  exact absurd hfd (of_decide_eq_true (List.mem_filter.mp hentry).2)

/-- Whatever happens, no number is in use twice. -/
theorem Holding.distinct_after (distinct : h.shell.Distinct) (e : Event) :
    (h.after e).shell.Distinct := by
  obtain ⟨call, answer⟩ := e
  cases call with
  | openInput path | openOutput path =>
    cases answer with
    | ok fd => exact distinct.insert _ _
    | error e => exact distinct
  | pipe =>
    cases answer with
    | ok ends => exact (distinct.insert _ _).insert _ _
    | error e => exact distinct
  | fork child => cases answer <;> exact distinct
  | close fd => exact distinct.close fd
  | _ => exact distinct

theorem Holding.distinct_afterAll (distinct : h.shell.Distinct) (events : List Event) :
    (h.afterAll events).shell.Distinct := by
  induction events generalizing h with
  | nil => exact distinct
  | cons e events ih => exact ih (distinct_after distinct e)

/-- The descriptors that are open are those of the shell and those that it opened. -/
theorem Holds.length_eq (holds : Holds own fds d) (distinct : d.Distinct) :
    d.length = own.length + fds.length := by
  obtain ⟨held, rfl, hheld⟩ := holds.split
  have numbers : (held.map Prod.fst).Perm fds := by
    refine (List.perm_ext_iff_of_nodup ?_ holds.nodup).mpr fun fd => ⟨fun hfd => ?_, fun hfd => ?_⟩
    · exact distinct.sublist ((List.sublist_append_left held own).map _)
    · obtain ⟨entry, hentry, rfl⟩ := List.mem_map.mp hfd
      exact (hheld entry hentry).1
    · have isOpen := holds.isOpen fd hfd
      rw [List.lookup_append, holds.fresh fd hfd, Option.or_none] at isOpen
      obtain ⟨slot, hslot⟩ := Option.isSome_iff_exists.mp isOpen
      obtain ⟨before, after, rfl, -⟩ := List.lookup_eq_some_iff.mp hslot
      exact List.mem_map.mpr ⟨(fd, slot), by simp, rfl⟩
  rw [List.length_append, ← numbers.length_eq, List.length_map, Nat.add_comm]

end Limit

/-! ### Files -/

/-- Something is there if there was room for it; otherwise a redirection was refused. -/
inductive Fitted {α : Type} (room : Prop) : Except Rejection α → Prop
  | opened {a : α} : room → Fitted room (.ok a)
  | refused {path : String} {errno : Errno} : ¬ room →
      Fitted room (.error (.redirection path (.refused errno)))

/-- No path of a command holds a NUL character. -/
def Command.Clean (c : Command) : Prop :=
  ∀ path ∈ c.input.toList ++ c.output.toList, Text.hasNul path = false

section Files

variable {limit rounds : Nat} {h h' : Holding} {events : List Event}

theorem Opens.length_eq {r : Redirection} {path : Option String} {file : Option Fd}
    (opens : Opens r h path file h') : h'.shell.length = h.shell.length + path.toList.length := by
  cases opens with
  | absent => rfl
  | present unused =>
    simp [Holding.opened, Descriptors.insert, Descriptors.close_eq_self unused]

theorem redirections_cons (command : Command) (commands : List Command) :
    redirections (command :: commands) =
      command.input.toList.length + command.output.toList.length + redirections commands := by
  rw [redirections, List.map_cons, List.sum_cons]
  rfl

theorem fitted_openFile (r : Redirection) {path : Option String}
    {result : Except Rejection (Option Fd)}
    (clean : ∀ name ∈ path.toList, Text.hasNul name = false)
    (run : (Stage.openFile r.request path rounds).Run events result)
    (room : h.shell.length ≤ limit) (metered : h.Metered limit events) :
    Fitted (h.shell.length + path.toList.length ≤ limit) result := by
  cases path with
  | none =>
    obtain ⟨-, rfl⟩ := run_pure_iff.mp run
    exact .opened room
  | some name =>
    rw [Stage.openFile, clean name (List.mem_singleton_self name)] at run
    obtain ⟨asking, last, answer, rfl, hask, hlast⟩ := run_bind_iff.mp run
    have refused : (∃ e, answer = .error e) ↔ limit < h.shell.length + 1 := by
      cases r with
      | input | output =>
        obtain ⟨given, rest, rfl, hrest⟩ := Dialogue.run_ask_iff.mp hask
        obtain ⟨-, rfl⟩ := Dialogue.run_done_iff.mp hrest
        cases answer <;> simpa [Event.isRefused, Call.demand] using metered.1
    cases answer with
    | error e =>
      obtain ⟨-, rfl⟩ := run_pure_iff.mp hlast
      exact .refused (Nat.not_le.mpr (refused.mp ⟨e, rfl⟩))
    | ok fd =>
      obtain ⟨-, rfl⟩ := run_pure_iff.mp hlast
      refine .opened (Nat.not_lt.mp fun full => ?_)
      obtain ⟨e, he⟩ := refused.mpr full
      cases he

/-- The input of a stage needs room, and then its output. -/
theorem fitted_openFiles {program : Program} {command : Command} {result : Except Rejection Stage}
    (clean : command.Clean)
    (run : (Stage.openFiles program command rounds).Run events result)
    (room : h.shell.length ≤ limit) (granted : h.Granted events)
    (metered : h.Metered limit events) :
    Fitted (h.shell.length + command.input.toList.length + command.output.toList.length ≤ limit)
      result := by
  obtain ⟨input_clean, output_clean⟩ := List.forall_mem_append.mp clean
  obtain ⟨reading, more, input, rfl, hinput, hmore⟩ := run_bind_iff.mp run
  obtain ⟨reading_granted, granted⟩ := Holding.granted_append.mp granted
  obtain ⟨reading_metered, metered⟩ := Holding.metered_append.mp metered
  cases fitted_openFile .input input_clean hinput room reading_metered with
  | refused full =>
    obtain ⟨-, rfl⟩ := run_pure_iff.mp hmore
    exact .refused fun fits => full (Nat.le_trans (Nat.le_add_right _ _) fits)
  | opened room =>
    have length_eq := (opens_of_run .input hinput reading_granted).length_eq
    rw [← length_eq] at room ⊢
    obtain ⟨writing, last, output, rfl, houtput, hlast⟩ := run_bind_iff.mp hmore
    have metered := (Holding.metered_append.mp metered).1
    cases fitted_openFile .output output_clean houtput room metered with
    | refused full =>
      obtain ⟨_, _, _, -, -, hend⟩ := run_bind_iff.mp hlast
      obtain ⟨-, rfl⟩ := run_pure_iff.mp hend
      exact .refused full
    | opened room =>
      obtain ⟨-, rfl⟩ := run_pure_iff.mp hlast
      exact .opened room

/-- **The files of all stages are opened if and only if there is room for all of them.** -/
theorem fitted_openAll {rows : List (Program × Command)} :
    ∀ {events : List Event} {result : Except Rejection (List Stage)} {h : Holding},
      (∀ row ∈ rows, row.2.Clean) → (Stage.openAll rows rounds).Run events result →
      h.shell.length ≤ limit → h.Granted events → h.Metered limit events →
      Fitted (h.shell.length + redirections (rows.map Prod.snd) ≤ limit) result := by
  induction rows with
  | nil =>
    intro events result h _ run room _ _
    obtain ⟨-, rfl⟩ := run_pure_iff.mp run
    exact .opened room
  | cons row rows ih =>
    intro events result h clean run room granted metered
    obtain ⟨program, command⟩ := row
    obtain ⟨clean, others_clean⟩ := List.forall_mem_cons.mp clean
    obtain ⟨opening, more, first, rfl, hopen, hmore⟩ := run_bind_iff.mp run
    obtain ⟨opening_granted, granted⟩ := Holding.granted_append.mp granted
    obtain ⟨opening_metered, metered⟩ := Holding.metered_append.mp metered
    rw [List.map_cons, redirections_cons]
    cases fitted_openFiles clean hopen room opening_granted opening_metered with
    | refused full =>
      obtain ⟨-, rfl⟩ := run_pure_iff.mp hmore
      exact .refused fun fits => full (by omega)
    | opened room =>
      obtain ⟨input, output, middle, rfl, hinput, houtput⟩ := opens_files hopen opening_granted
      rw [← hinput.length_eq, ← houtput.length_eq] at room
      obtain ⟨others, last, found, rfl, hothers, hlast⟩ := run_bind_iff.mp hmore
      have fitted := ih others_clean hothers room (Holding.granted_append.mp granted).1
        (Holding.metered_append.mp metered).1
      rw [houtput.length_eq, hinput.length_eq, Nat.add_assoc, Nat.add_assoc, ← Nat.add_assoc
        (command.input.toList.length)] at fitted
      cases fitted with
      | refused full =>
        obtain ⟨_, _, _, -, -, hend⟩ := run_bind_iff.mp hlast
        obtain ⟨-, rfl⟩ := run_pure_iff.mp hend
        exact .refused full
      | opened room =>
        obtain ⟨-, rfl⟩ := run_pure_iff.mp hlast
        exact .opened room

/-- Each stage has as many files as its command has redirections. -/
theorem Opened.counts {rows : List (Program × Command)} {stages : List Stage}
    (opened : Opened h rows stages h') : stages.map (fun stage => stage.files.length) =
      rows.map fun row => row.2.input.toList.length + row.2.output.toList.length := by
  have file : ∀ {r h h'} {path : Option String} {file : Option Fd}, Opens r h path file h' →
      file.toList.length = path.toList.length := fun opens => by cases opens <;> rfl
  induction opened with
  | nil => rfl
  | cons input output _ ih =>
    rw [List.map_cons, List.map_cons, ih, Stage.files, List.length_append, file input, file output]

end Files

/-! ### Pipes -/

/-- The shell has opened `fds` besides what it has of its own, and that fits into the limit. -/
structure Stock (own : Descriptors End) (limit : Nat) (fds : List Fd) (d : Descriptors End) :
    Prop where
  holds : Holds own fds d
  distinct : d.Distinct
  fits : own.length + fds.length ≤ limit

namespace Stock

variable {own d : Descriptors End} {limit : Nat} {fds gone rest : List Fd}

theorem length_eq (stock : Stock own limit fds d) : d.length = own.length + fds.length :=
  stock.holds.length_eq stock.distinct

theorem perm (stock : Stock own limit fds d) (same : fds.Perm rest) : Stock own limit rest d :=
  ⟨stock.holds.perm same, stock.distinct, same.length_eq ▸ stock.fits⟩

theorem closeAll (stock : Stock own limit (gone ++ rest) d) :
    Stock own limit rest (gone.foldl Descriptors.close d) := by
  have distinct : ∀ (gone : List Fd) {d : Descriptors End}, d.Distinct →
      (gone.foldl Descriptors.close d).Distinct := by
    intro gone
    induction gone with
    | nil => exact fun distinct => distinct
    | cons fd gone ih => exact fun distinct => ih (distinct.close fd)
  refine ⟨stock.holds.closeAll.1, distinct gone stock.distinct, ?_⟩
  have fits := stock.fits
  rw [List.length_append] at fits
  omega

end Stock

namespace Spawn

variable {own : Descriptors End} {limit : Nat} {h : Holding} {incoming : Option Fd}
  {started started' : List Pid} {stage : Stage} {rest list : List Stage} {events : List Event}
  {failure : Option LaunchError} {fds : List Fd} {ends : Option (Fd × Fd)}

/-- There is room for a pipe that was made. -/
theorem Piped.stock (piped : Piped rest events ends) (stock : Stock own limit fds h.shell)
    (granted : h.Granted events) (metered : h.Metered limit events) :
    Stock own limit ((ends.map Prod.snd).toList ++ ((ends.map Prod.fst).toList ++ fds))
        (h.afterAll events).shell ∧
      (rest ≠ [] → own.length + fds.length + 2 ≤ limit) := by
  have holds := (piped.holds granted stock.holds).1
  have distinct := Holding.distinct_afterAll stock.distinct events
  cases piped with
  | last => exact ⟨⟨holds, distinct, stock.fits⟩, fun h => absurd rfl h⟩
  | between =>
    have room : own.length + fds.length + 2 ≤ limit := by
      rw [← stock.length_eq]
      exact Nat.not_lt.mp fun full => nomatch metered.1.mpr full
    exact ⟨⟨holds, distinct, Nat.add_assoc _ _ 2 ▸ room⟩, fun _ => room⟩

/-- What becomes of the first of some stages: there is no room for its pipe, or it is started and
the others follow. -/
inductive Advances (own : Descriptors End) (limit : Nat) (room : Prop) (started : List Pid)
    (rest : List Stage) : List Event → List Pid → Option LaunchError → Prop
  | refused {events : List Event} {errno : Errno} : rest ≠ [] → ¬ room → forks events = [] →
      Advances own limit room started rest events started (some (.pipe errno))
  | started {events later : List Event} {next : Option Fd} {pid : Pid} {h : Holding}
      {started' : List Pid} {failure : Option LaunchError} :
      (rest ≠ [] → room) → (next = none ↔ rest = []) →
      Launched next (started ++ [pid]) rest later started' failure →
      forks events = pid :: forks later → Stock own limit (others rest next) h.shell →
      h.Granted later → h.Metered limit later →
      Advances own limit room started rest events started' failure

/-- **A stage but the last needs room for a pipe, and nothing else.** -/
theorem Launched.advances
    (launched : Launched incoming started (stage :: rest) events started' failure)
    (stock : Stock own limit (others (stage :: rest) incoming) h.shell) (granted : h.Granted events)
    (metered : h.Metered limit events) :
    Advances own limit (own.length + (others (stage :: rest) incoming).length + 2 ≤ limit) started
      rest events started' failure := by
  cases launched with
  | noPipe =>
    refine .refused (List.cons_ne_nil _ _) (Nat.not_le.mpr ?_) (by simp)
    rw [← stock.length_eq]
    exact metered.1.mp rfl
  | noFork piped =>
    -- a process is never refused
    obtain ⟨piping_granted, granted⟩ := Holding.granted_append.mp granted
    obtain ⟨piping_metered, metered⟩ := Holding.metered_append.mp metered
    obtain ⟨stock, -⟩ := piped.stock stock piping_granted piping_metered
    have full := metered.1.mp rfl
    rw [stock.length_eq] at full
    exact absurd stock.fits (Nat.not_le.mpr full)
  | @forked _ _ _ _ _ ends pid answer events _ _ piped launched =>
    obtain ⟨piping_granted, granted⟩ := Holding.granted_append.mp granted
    obtain ⟨piping_metered, metered⟩ := Holding.metered_append.mp metered
    obtain ⟨stock, room⟩ := piped.stock stock piping_granted piping_metered
    obtain ⟨-, -, metered⟩ := metered
    have metered := (Holding.metered_append.mp metered).2
    rw [Holding.afterAll_closings] at metered
    refine .started room ?_ launched (by simp [piped.forks_eq])
      (stock.perm (perm_others (ends.map Prod.fst) rfl)).closeAll (Holding.granted_forked granted)
      metered
    cases piped with
    | last => exact iff_of_true rfl rfl
    | between => exact iff_of_false nofun nofun

/-- **With room for one more pipe all stages are started, however many these are.** -/
theorem Launched.complete :
    ∀ {list : List Stage} {incoming : Option Fd} {started started' : List Pid} {events : List Event}
      {failure : Option LaunchError} {h : Holding},
      Launched incoming started list events started' failure → (incoming = none → list = []) →
      Stock own limit (others list incoming) h.shell → h.Granted events → h.Metered limit events →
      own.length + (others list incoming).length + 2 ≤ limit → failure = none := by
  intro list
  induction list with
  | nil =>
    intro incoming started started' events failure h launched _ _ _ _ _
    cases launched
    rfl
  | cons stage rest ih =>
    intro incoming started started' events failure h launched reads stock granted metered room
    obtain ⟨fd, rfl⟩ := Option.ne_none_iff_exists'.mp fun h => List.cons_ne_nil _ _ (reads h)
    cases launched.advances stock granted metered with
    | refused _ full _ => exact absurd room full
    | @started _ next _ _ _ _ _ last launched _ stock granted metered =>
      refine ih launched last.mp stock granted metered ?_
      -- the end that the stage read from is closed, and the next stage has one at most
      have one : next.toList.length ≤ 1 := Option.length_toList_le
      simp only [others, List.map_cons, List.flatten_cons, List.length_append, Option.toList_some,
        List.length_singleton] at room ⊢
      omega

/-- The last stage needs nothing. -/
theorem Launched.complete_last
    (launched : Launched incoming started [stage] events started' failure)
    (stock : Stock own limit (others [stage] incoming) h.shell) (granted : h.Granted events)
    (metered : h.Metered limit events) : failure = none := by
  cases launched.advances stock granted metered with
  | refused last _ _ => exact absurd rfl last
  | started _ _ launched _ _ _ _ =>
    cases launched
    rfl

/-- How far the stages of a pipeline are started with `f` descriptors left besides the `r` that
their files take. -/
inductive Reaches (r f : Nat) (stage : Stage) (rest : List Stage) :
    List Event → Option LaunchError → Prop
  /-- There is no room for the first pipe. -/
  | none {events : List Event} {errno : Errno} : rest ≠ [] → f < r + 2 → forks events = [] →
      Reaches r f stage rest events (some (.pipe errno))
  /-- There is no room for the second pipe, as the first stage has no file to give back. -/
  | first {events : List Event} {failure : Option LaunchError} : 2 ≤ rest.length →
      stage.files.length = 0 → f = r + 2 → (forks events).length = 1 →
      Reaches r f stage rest events failure
  | all {events : List Event} : (rest ≠ [] → r + 2 ≤ f) →
      ¬ (2 ≤ rest.length ∧ stage.files.length = 0 ∧ f = r + 2) →
      Reaches r f stage rest events Option.none

/-- **A shortage of descriptors stops a launch at the first pipe or at the second.** -/
theorem Launched.reaches {f : Nat}
    (launched : Launched none [] (stage :: rest) events started failure)
    (stock : Stock own (own.length + f) (others (stage :: rest) none) h.shell)
    (granted : h.Granted events) (metered : h.Metered (own.length + f) events) :
    Reaches (others (stage :: rest) none).length f stage rest events failure := by
  cases launched.advances stock granted metered with
  | refused more full unforked => exact .none more (by omega) unforked
  | @started later next _ _ _ _ room last launched forked stock' granted metered =>
    have room : rest ≠ [] → (others (stage :: rest) none).length + 2 ≤ f := fun more => by
      have := room more
      omega
    -- what is open when the second stage is to be started
    have left : (others rest next).length + stage.files.length =
        (others (stage :: rest) none).length + next.toList.length := by
      simp only [others, List.map_cons, List.flatten_cons, List.length_append, Option.toList_none,
        List.length_nil]
      omega
    have one : next.toList.length ≤ 1 := Option.length_toList_le
    cases rest with
    | nil =>
      cases launched
      exact .all room (fun h => Nat.not_succ_le_zero 1 h.1)
    | cons second rest =>
      have room := room (List.cons_ne_nil _ _)
      obtain ⟨fd, rfl⟩ := Option.ne_none_iff_exists'.mp fun h => List.cons_ne_nil _ _ (last.mp h)
      rw [Option.toList_some, List.length_singleton] at left
      by_cases short : stage.files.length = 0 ∧
        f = (others (stage :: second :: rest) none).length + 2
      · cases rest with
        | nil =>
          obtain rfl := launched.complete_last stock' granted metered
          exact .all (fun _ => room) (fun h => Nat.not_succ_le_zero 0 (Nat.le_of_succ_le_succ h.1))
        | cons third rest =>
          refine .first (Nat.le_add_left 2 _) short.1 short.2 ?_
          cases launched.advances stock' granted metered with
          | refused _ _ unforked => rw [forked, unforked, List.length_singleton]
          | started enough _ _ _ _ _ _ =>
            have := enough (List.cons_ne_nil _ _)
            omega
      · obtain rfl := launched.complete (absurd · (Option.some_ne_none fd)) stock' granted metered
          (by omega)
        exact .all (fun _ => room) (fun h => short h.2)

end Spawn

/-! ### Lines -/

section Lines

variable {rounds f : Nat} {own : Descriptors End} {pipeline : Pipeline} {programs : List Program}
  {finding preparing events : List Event} {shell shell' : Shell} {report : Report}

/-- When the programs were found, preparing goes on with the files. -/
theorem run_prepare_found {result : Except Rejection (List Stage)}
    (resolved : (Program.findAll pipeline.commands rounds).Run finding (.ok programs))
    (first : finding <+: preparing ++ events)
    (run : (Stage.prepare pipeline rounds).Run preparing result) :
    ∃ opening, preparing = finding ++ opening ∧
      (Stage.openAll (programs.zip pipeline.commands) rounds).Run opening result := by
  obtain ⟨more, hmore⟩ := first
  obtain ⟨searching, opening, found, rfl, hfind, hopen⟩ := run_bind_iff.mp run
  rw [List.append_assoc] at hmore
  obtain ⟨rfl, rfl⟩ := resolved.unique hfind hmore
  exact ⟨opening, rfl, hopen⟩

/-- What is counted of the stages is counted of their commands. -/
theorem length_others {h h' : Holding} {stages : List Stage}
    (all : programs.length = pipeline.commands.length)
    (opened : Opened h (programs.zip pipeline.commands) stages h') :
    (Spawn.others stages none).length = redirections pipeline.commands ∧
      stages.length = pipeline.commands.length ∧
      ∀ stage rest, stages = stage :: rest →
        stage.files.length = redirections (pipeline.commands.take 1) := by
  have commands_eq : (programs.zip pipeline.commands).map Prod.snd = pipeline.commands :=
    List.map_snd_zip (Nat.le_of_eq all.symm)
  have counts : stages.map (fun stage => stage.files.length) =
      pipeline.commands.map fun c => c.input.toList.length + c.output.toList.length := by
    rw [opened.counts, ← commands_eq, List.map_map, commands_eq]
    rfl
  refine ⟨?_, ?_, ?_⟩
  · rw [Spawn.others, Option.toList_none, List.append_nil, List.length_flatten, List.map_map,
      redirections, ← counts]
    rfl
  · simpa using congrArg List.length counts
  · rintro stage rest rfl
    rw [redirections, List.map_take, ← counts]
    simp

/-- The files of a pipeline whose programs were found are opened if there is room for them. -/
theorem fitted_prepare {result : Except Rejection (List Stage)}
    (resolved : (Program.findAll pipeline.commands rounds).Run finding (.ok programs))
    (first : finding <+: preparing ++ events) (clean : ∀ command ∈ pipeline.commands, command.Clean)
    (granted : (Holding.start own).Granted preparing)
    (metered : (Holding.start own).Metered (own.length + f) preparing)
    (run : (Stage.prepare pipeline rounds).Run preparing result) :
    Fitted (redirections pipeline.commands ≤ f) result ∧ ∀ stages, result = .ok stages →
      Opened (Holding.start own) (programs.zip pipeline.commands) stages
        ((Holding.start own).afterAll preparing) := by
  obtain ⟨opening, rfl, hopen⟩ := run_prepare_found resolved first run
  have nothing := (Holding.start own).afterAll_of_lookup ((lookup_findAll _).of_run resolved)
  have granted := (Holding.granted_append.mp granted).2
  have metered := (Holding.metered_append.mp metered).2
  rw [nothing] at granted metered
  have commands_eq : (programs.zip pipeline.commands).map Prod.snd = pipeline.commands :=
    List.map_snd_zip (Nat.le_of_eq (length_of_findAll resolved).symm)
  have fitted := fitted_openAll (fun row hrow => clean _ (List.of_mem_zip hrow).2) hopen
    (Nat.le_add_right _ _) granted metered
  rw [commands_eq] at fitted
  refine ⟨?_, ?_⟩
  · cases fitted with
    | opened room => exact .opened (Nat.le_of_add_le_add_left room)
    | refused full => exact .refused fun room => full (Nat.add_le_add_left room _)
  · rintro stages rfl
    rw [Holding.afterAll_append, nothing]
    exact opened_of_run hopen granted

/-- How far a line comes with `f` descriptors left. -/
inductive Line.Comes (commands : List Command) (f : Nat) (events : List Event) : Report → Prop
  /-- There is no room for the files. -/
  | unopened {path : String} {errno : Errno} : f < redirections commands → forks events = [] →
      Comes commands f events (.rejected (.redirection path (.refused errno)))
  /-- There is no room for the first pipe. -/
  | unpiped {errno : Errno} : redirections commands ≤ f → 2 ≤ commands.length →
      f < redirections commands + 2 → forks events = [] →
      Comes commands f events (.rejected (.launch (.pipe errno)))
  /-- There is no room for the second pipe. -/
  | first {report : Report} : 3 ≤ commands.length → redirections (commands.take 1) = 0 →
      f = redirections commands + 2 → (forks events).length = 1 → Comes commands f events report
  | all {report : Report} : redirections commands ≤ f →
      (2 ≤ commands.length → redirections commands + 2 ≤ f) →
      ¬ (3 ≤ commands.length ∧ redirections (commands.take 1) = 0 ∧
        f = redirections commands + 2) →
      (forks events).length = commands.length → Comes commands f events report

/-- How far the stages of a prepared pipeline are started. -/
theorem reaches_of_run {stages : List Stage} {launching : List Event} {started : List Pid}
    {failure : Option LaunchError} (nonempty : pipeline.commands ≠ [])
    (resolved : (Program.findAll pipeline.commands rounds).Run finding (.ok programs))
    (opened : Opened (Holding.start own) (programs.zip pipeline.commands) stages
      ((Holding.start own).afterAll preparing))
    (room : redirections pipeline.commands ≤ f) (distinct : own.Distinct)
    (granted : (Holding.start own).Granted (preparing ++ (launching ++ events)))
    (metered : (Holding.start own).Metered (own.length + f) (preparing ++ (launching ++ events)))
    (run : (Spawn.stages none [] stages rounds).Run launching (started, failure)) :
    ∃ stage rest, stages = stage :: rest ∧ rest.length + 1 = pipeline.commands.length ∧
      stage.files.length = redirections (pipeline.commands.take 1) ∧
      Spawn.Reaches (redirections pipeline.commands) f stage rest launching failure := by
  obtain ⟨files, all, head⟩ := length_others (length_of_findAll resolved) opened
  obtain ⟨stage, rest, rfl⟩ := List.exists_cons_of_ne_nil (l := stages) fun hnone => by
    rw [hnone] at all
    exact nonempty (List.length_eq_zero_iff.mp all.symm)
  refine ⟨stage, rest, rfl, all, head stage rest rfl, files ▸ ?_⟩
  have stock : Stock own (own.length + f) (Spawn.others (stage :: rest) none)
      ((Holding.start own).afterAll preparing).shell :=
    ⟨(opened.holds (.refl own)).1, Holding.distinct_afterAll distinct preparing,
      Nat.add_le_add_left (files ▸ room) _⟩
  exact (Spawn.launched_of_run run).reaches stock
    (Holding.granted_append.mp (Holding.granted_append.mp granted).2).1
    (Holding.metered_append.mp (Holding.metered_append.mp metered).2).1

/-- **With `f` descriptors left a line comes to one of four ends.** -/
theorem comes_of_run {tokens : List String} (parsed : Pipeline.ofTokens tokens = .ok pipeline)
    (resolved : (Program.findAll pipeline.commands rounds).Run finding (.ok programs))
    (first : finding <+: events) (clean : ∀ command ∈ pipeline.commands, command.Clean)
    (distinct : own.Distinct) (granted : (Holding.start own).Granted events)
    (metered : (Holding.start own).Metered (own.length + f) events)
    (run : (Line.evaluate shell tokens rounds).Run events (shell', report)) :
    Line.Comes pipeline.commands f events report := by
  have nonempty := Grammar.commands_ne_nil parsed
  have prepares : ∀ {preparing prepared}, (Stage.prepare pipeline rounds).Run preparing prepared →
      forks preparing = [] :=
    fun hprepare => forks_of_quiet ((ordinary_prepare pipeline).quiet.of_run hprepare)
  cases evaluated_of_run run with
  | malformed parsed' => exact nomatch parsed.symm.trans parsed'
  | unprepared parsed' hprepare =>
    obtain rfl := Except.ok.inj (parsed.symm.trans parsed')
    have fitted := (fitted_prepare resolved first clean (Holding.granted_append.mp granted).1
      (Holding.metered_append.mp metered).1 hprepare).1
    cases fitted with
    | refused full =>
      refine .unopened (Nat.not_le.mp full) ?_
      rw [forks_append, prepares hprepare]
      rfl
  | unlaunched parsed' hprepare hlaunch =>
    obtain rfl := Except.ok.inj (parsed.symm.trans parsed')
    obtain ⟨fitted, opened⟩ := fitted_prepare resolved first clean
      (Holding.granted_append.mp granted).1 (Holding.metered_append.mp metered).1 hprepare
    have unforked := (Spawn.launched_of_run hlaunch).forks_eq
    cases fitted with
    | opened room =>
      obtain ⟨stage, rest, rfl, all, head, reaches⟩ := reaches_of_run nonempty resolved
        (opened _ rfl) room distinct granted metered hlaunch
      cases reaches with
      | none more full _ =>
        refine .unpiped room ?_ full ?_
        · have := List.length_pos_iff.mpr more
          omega
        · rw [forks_append, forks_append, prepares hprepare, ← List.nil_append (forks _),
            ← unforked]
          rfl
      | first _ _ _ one =>
        rw [← List.nil_append (forks _), ← unforked] at one
        cases one
  | launched parsed' hprepare hlaunch unfailing htrack =>
    obtain rfl := Except.ok.inj (parsed.symm.trans parsed')
    obtain ⟨fitted, opened⟩ := fitted_prepare resolved first clean
      (Holding.granted_append.mp granted).1 (Holding.metered_append.mp metered).1 hprepare
    have trace := Spawn.launched_of_run hlaunch
    have started := trace.forks_eq
    have forked := forks_of_launch hprepare hlaunch htrack
    rw [List.nil_append] at started
    cases fitted with
    | opened room =>
      obtain ⟨stage, rest, rfl, all, head, reaches⟩ := reaches_of_run nonempty resolved
        (opened _ rfl) room distinct granted metered hlaunch
      cases reaches with
      | none _ _ unforked => exact nomatch unfailing (started.trans unforked)
      | first more bare full one =>
        exact .first (by omega) (head ▸ bare) full (by rw [forked, started, one])
      | all enough other =>
        refine .all room (fun more => enough ?_) (fun short => other ⟨?_, ?_, short.2.2⟩) ?_
        · exact List.length_pos_iff.mp (by omega)
        · omega
        · exact head ▸ short.2.1
        · rw [forked, started, trace.length_eq_iff.mpr rfl, List.length_cons, all]

/-- **Let `f` more descriptors fit when the pipeline of a line is launched, all of whose programs
are found, and let nothing be refused but for want of descriptors.  If the files do not fit, the
line is rejected for one of them.  If they fit but the first pipe does not, it is rejected for the
pipe.  If there are exactly two more descriptors than files, none of which is of the first stage,
and a second pipe is needed, just the first stage is started.  Otherwise all stages are.  So three
more than the files are enough for any number of stages, and no shortage stops a launch after the
first stage.  Whatever is answered, preparing the stages and starting them comes to an end.** -/
theorem descriptors_needed {tokens : List String}
    (parsed : Pipeline.ofTokens tokens = .ok pipeline)
    (resolved : (Program.findAll pipeline.commands rounds).Run finding (.ok programs))
    (first : finding <+: events) (clean : ∀ command ∈ pipeline.commands, command.Clean)
    (distinct : own.Distinct) (granted : (Holding.start own).Granted events)
    (metered : (Holding.start own).Metered (own.length + f) events)
    (run : (Line.evaluate shell tokens rounds).Run events (shell', report)) :
    (f < redirections pipeline.commands →
      (∃ path errno, report = .rejected (.redirection path (.refused errno))) ∧
        forks events = []) ∧
    (redirections pipeline.commands ≤ f → 2 ≤ pipeline.commands.length →
      f < redirections pipeline.commands + 2 →
      (∃ errno, report = .rejected (.launch (.pipe errno))) ∧ forks events = []) ∧
    (3 ≤ pipeline.commands.length → redirections (pipeline.commands.take 1) = 0 →
      f = redirections pipeline.commands + 2 → (forks events).length = 1) ∧
    (redirections pipeline.commands ≤ f →
      (2 ≤ pipeline.commands.length → redirections pipeline.commands + 2 ≤ f) →
      ¬ (3 ≤ pipeline.commands.length ∧ redirections (pipeline.commands.take 1) = 0 ∧
        f = redirections pipeline.commands + 2) →
      (forks events).length = pipeline.commands.length) ∧
    (redirections pipeline.commands + 3 ≤ f →
      (forks events).length = pipeline.commands.length) ∧
    ((forks events).length ≤ 1 ∨ (forks events).length = pipeline.commands.length) ∧
    ((Stage.prepare pipeline).Ends fun _ => True) ∧
    ∀ stages, (Spawn.stages none [] stages).Ends fun _ => True := by
  have ends : ((Stage.prepare pipeline).Ends fun _ => True) ∧
      ∀ stages, (Spawn.stages none [] stages).Ends fun _ => True :=
    ⟨(ends_prepare pipeline).mono fun _ _ => trivial, fun stages =>
      Spawn.ends_stages trivial (fun _ => trivial) (fun _ _ => trivial) (fun _ => trivial) stages
        none []⟩
  cases comes_of_run parsed resolved first clean distinct granted metered run with
  | unopened full unforked =>
    refine ⟨fun _ => ⟨⟨_, _, rfl⟩, unforked⟩, ?_, ?_, ?_, ?_, .inl (by simp [unforked]), ends⟩
    all_goals omega
  | unpiped room more full unforked =>
    refine ⟨?_, fun _ _ _ => ⟨⟨_, rfl⟩, unforked⟩, ?_, ?_, ?_, .inl (by simp [unforked]), ends⟩
    all_goals omega
  | first more bare full one =>
    refine ⟨?_, ?_, fun _ _ _ => one, fun _ _ other => absurd ⟨more, bare, full⟩ other, ?_,
      .inl (Nat.le_of_eq one), ends⟩
    all_goals omega
  | all room enough other every =>
    refine ⟨?_, ?_, fun more bare full => absurd ⟨more, bare, full⟩ other, fun _ _ _ => every,
      fun _ => every, .inr every, ends⟩
    all_goals omega

end Lines

/-! The line `/a | /a | /a &` with two descriptors left: they make the first pipe, and the end that
the second stage is to read from leaves no room for another. -/

namespace Sample

def trio : Pipeline where
  commands := [{ argv := ["/a"] }, { argv := ["/a"] }, { argv := ["/a"] }]
  background := true

/-- The programs are found. -/
def findingThree : List Event := [
  ⟨.environment "PATH", none⟩, ⟨.metadata (Text.toBytes "/a"), .ok ⟨.regular, 0o755, 0⟩⟩,
  ⟨.environment "PATH", none⟩, ⟨.metadata (Text.toBytes "/a"), .ok ⟨.regular, 0o755, 0⟩⟩,
  ⟨.environment "PATH", none⟩, ⟨.metadata (Text.toBytes "/a"), .ok ⟨.regular, 0o755, 0⟩⟩]

/-- The first stage is started, and that is told. -/
def runningShort : List Event := [
  ⟨.pipe, .ok (3, 4)⟩, ⟨.fork ⟨program, none, some 4, none⟩, .ok 7⟩, ⟨.setGroup 7 7, .ok ()⟩,
  ⟨.close 4, ()⟩, ⟨.pipe, .error .emfile⟩, ⟨.close 3, ()⟩,
  ⟨.say (.incomplete (.pipe .emfile)), ()⟩, ⟨.say (.launched 7), ()⟩]

theorem run_findingThree :
    (Program.findAll trio.commands 0).Run findingThree (.ok [program, program, program]) :=
  .ask (.ask (.ask (.ask (.ask (.ask (.done _))))))

theorem run_runningShort :
    (Line.evaluate { terminal := .detached 1 } ["/a", "|", "/a", "|", "/a", "&"] 0).Run
      (findingThree ++ runningShort) (shellWith [⟨7, .stillAlive⟩], .background 7) :=
  .ask (.ask (.ask (.ask (.ask (.ask (.ask (.ask (.ask (.ask (.ask (.ask (.ask (.ask
    (.done _))))))))))))))

theorem granted_runningShort : (Holding.start standard).Granted (findingThree ++ runningShort) :=
  ⟨trivial, trivial, trivial, trivial, trivial, trivial, ⟨rfl, rfl, by decide⟩, trivial, trivial,
    trivial, trivial, trivial, trivial, trivial, trivial⟩

end Sample

/-- One process is started for three stages. -/
theorem one_started_of_three :
    redirections Sample.trio.commands = 0 ∧
      (Holding.start Sample.standard).Metered (Sample.standard.length + 2)
        (Sample.findingThree ++ Sample.runningShort) ∧
      (forks (Sample.findingThree ++ Sample.runningShort)).length = 1 := by
  have metered : (Holding.start Sample.standard).Metered (Sample.standard.length + 2)
      (Sample.findingThree ++ Sample.runningShort) := by decide
  have parsed : Pipeline.ofTokens ["/a", "|", "/a", "|", "/a", "&"] = .ok Sample.trio := rfl
  obtain ⟨-, -, one, -⟩ := descriptors_needed parsed Sample.run_findingThree
    (List.prefix_append _ _) (by simp [Command.Clean, Sample.trio])
    (by unfold Descriptors.Distinct; decide) Sample.granted_runningShort metered
    Sample.run_runningShort
  exact ⟨rfl, metered, one (by decide) rfl rfl⟩

end JobControl
