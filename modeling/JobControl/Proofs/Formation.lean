import Mathlib.Logic.Function.Basic
import JobControl.Proofs.Pipes

/-!
# How a job is formed

The processes of a pipeline are started in order and put into the group of the first, by the shell
and by themselves, whichever is first.  If one cannot be started, those before it are a job
nevertheless.

## Main definitions

* `groups events` — the groups that some events have in view for a process.
* `Placed events joined k` — `k` is how the children are placed in groups after some events, when
  those in `joined` have joined a group by themselves.
* `Grouped events joined pid` — a child was put into a group, by the shell or by itself.
* `Led leader events joined k` — the children are in no other group than that of `leader`.
* `Line.Resolved` — how a line goes on when it could start what it could.

## Main results

* `Spawn.Launched.head?_eq` — a launch has only the group of its first process in view.
* `Placed.led` — whoever is put into a group is put into that one.
* `resolved_of_run` — a line whose launch ended in some way goes on in one way.
* `pipeline_launched` — **the stages before the first refusal are started, form one group, and are
  the one job that the line asked for.**
-/

namespace JobControl

open JobControl.Action (run_ask_bind_iff)

/-! ### Groups -/

/-- The group that an event has in view for a process: the one that a child is told to join, or the
one that the shell puts it into. -/
def Event.group? : Event → Option Pid
  | ⟨.fork child, .ok pid⟩ => some (child.group.getD pid)
  | ⟨.setGroup _ group, _⟩ => some group
  | _ => none

/-- The groups that some events have in view. -/
def groups (events : List Event) : List Pid := events.filterMap Event.group?

/-- A child that was started, with its group when it was put into one. -/
structure Placement where
  child : Child
  group : Option Pid

/-- How the children are placed after some events of the shell.  Each may join the group that it is
told to join at any time after it was started; those in `joined` have done so with success. -/
inductive Placed : List Event → List Pid → (Pid → Option Placement) → Prop
  | start : Placed [] [] fun _ => none
  /-- A child is started, with a number that no other child has. -/
  | forked {events joined k child} {pid : Pid} : Placed events joined k → k pid = none →
      Placed (events ++ [⟨.fork child, .ok pid⟩]) joined
        (Function.update k pid (some ⟨child, none⟩))
  /-- The shell puts a child into a group. -/
  | grouped {events joined k placement} {pid group : Pid} : Placed events joined k →
      k pid = some placement →
      Placed (events ++ [⟨.setGroup pid group, .ok ()⟩]) joined
        (Function.update k pid (some { placement with group := some group }))
  /-- A child carries out the step by which it joins a group. -/
  | joins {events joined k placement} {pid : Pid} {group : Option Pid} : Placed events joined k →
      k pid = some placement → .join group ∈ placement.child.steps →
      Placed events (pid :: joined)
        (Function.update k pid (some { placement with group := some (group.getD pid) }))
  /-- Nothing that starts a child or puts one into a group. -/
  | other {events joined k} {e : Event} : Placed events joined k → e.newPid? = none →
      (∀ pid group, e ≠ ⟨.setGroup pid group, .ok ()⟩) → Placed (events ++ [e]) joined k

theorem eq_group_of_mem_steps {c : Child} {group : Option Pid} (h : .join group ∈ c.steps) :
    group = c.group := by
  simpa [Child.steps] using h

section Groups

variable {events : List Event} {child : Child} {pid group : Pid} {errno : Errno}

@[simp] theorem groups_closings (fds : List Fd) : groups (closings fds) = [] :=
  Spawn.filterMap_closings (fun _ => rfl) fds

@[simp] theorem groups_append (events more : List Event) :
    groups (events ++ more) = groups events ++ groups more := List.filterMap_append

@[simp] theorem groups_forked {answer : Except Errno Unit} :
    groups (⟨.fork child, .ok pid⟩ :: ⟨.setGroup pid group, answer⟩ :: events) =
      child.group.getD pid :: group :: groups events := rfl

@[simp] theorem groups_noFork :
    groups (⟨.fork child, .error errno⟩ :: events) = groups events := rfl

@[simp] theorem groups_noPipe : groups (⟨.pipe, .error errno⟩ :: events) = groups events := rfl

end Groups

namespace Spawn

variable {incoming : Option Fd} {started started' : List Pid} {list : List Stage}
  {events : List Event} {failure : Option LaunchError}

theorem Piped.groups_eq {rest : List Stage} {ends : Option (Fd × Fd)}
    (piped : Piped rest events ends) : groups events = [] := by
  cases piped <;> rfl

/-- **A launch has only the group of its first process in view.** -/
theorem Launched.head?_eq (launched : Launched incoming started list events started' failure) :
    ∀ group ∈ groups events, started'.head? = some group := by
  induction launched with
  | done | noPipe => simp
  | noFork piped => simp [piped.groups_eq]
  | @forked incoming started stage rest piping ends pid _ events started' _ piped launched ih =>
    -- the first process leads the group: this one, unless others were started before
    have leads : started'.head? = some ((Spawn.group started).getD pid) := by
      rw [launched.forks_eq]
      cases started <;> rfl
    intro group hgroup
    simp only [groups_append, piped.groups_eq, groups_forked, groups_closings, List.nil_append,
      List.mem_cons] at hgroup
    rcases hgroup with rfl | rfl | hgroup
    · exact leads
    · exact leads
    · exact ih group hgroup

end Spawn

/-- The shell has put a child into a group, or the child has joined one by itself. -/
def Grouped (events : List Event) (joined : List Pid) (pid : Pid) : Prop :=
  pid ∈ joined ∨ ∃ group, ⟨.setGroup pid group, .ok ()⟩ ∈ events

/-- The children are those that were started; each is meant for the group of `leader` and is in no
other, and once it was put into a group it is in that one. -/
structure Led (leader : Option Pid) (events : List Event) (joined : List Pid)
    (k : Pid → Option Placement) : Prop where
  known : ∀ pid, (k pid).isSome ↔ pid ∈ forks events
  meant : ∀ pid placement, k pid = some placement →
    leader = some (placement.child.group.getD pid)
  inside : ∀ pid placement, k pid = some placement →
    placement.group = none ∨ placement.group = leader
  grouped : ∀ pid, Grouped events joined pid →
    ∃ placement, k pid = some placement ∧ placement.group = leader

section Led

variable {leader : Option Pid} {events events' : List Event} {joined joined' : List Pid}
  {k : Pid → Option Placement} {pid : Pid}

/-- Another child is started. -/
theorem Led.start (h : Led leader events joined k) {child : Child} (fresh : k pid = none)
    (meant : leader = some (child.group.getD pid)) :
    Led leader (events ++ [⟨.fork child, .ok pid⟩]) joined
      (Function.update k pid (some ⟨child, none⟩)) where
  known other := by
    rw [Function.update_apply, forks_append, List.mem_append, ← h.known]
    split
    · next heq => simp [heq, forks, Event.newPid?]
    · next hne => simp [forks, Event.newPid?, hne]
  meant other placement hother := by
    rw [Function.update_apply] at hother
    split at hother
    · next heq =>
      cases hother
      rw [heq]
      exact meant
    · exact h.meant other placement hother
  inside other placement hother := by
    rw [Function.update_apply] at hother
    split at hother
    · cases hother
      exact .inl rfl
    · exact h.inside other placement hother
  grouped other hother := by
    obtain ⟨placement, hplacement, hgroup⟩ := h.grouped other
      (hother.imp_right fun ⟨group, hmem⟩ =>
        ⟨group, (List.mem_append.mp hmem).resolve_right (by simp)⟩)
    have hne : other ≠ pid := by
      rintro rfl
      cases fresh.symm.trans hplacement
    exact ⟨placement, by rw [Function.update_of_ne hne, hplacement], hgroup⟩

/-- A child is put into the group of the leader. -/
theorem Led.put (h : Led leader events joined k) {placement : Placement}
    (hpid : k pid = some placement) (same : forks events' = forks events)
    (others : ∀ other, other ≠ pid → Grouped events' joined' other → Grouped events joined other) :
    Led leader events' joined'
      (Function.update k pid (some { placement with group := leader })) where
  known other := by
    rw [Function.update_apply, same, ← h.known]
    split
    · next heq => simp [heq, hpid]
    · rfl
  meant other placement' hother := by
    rw [Function.update_apply] at hother
    split at hother
    · next heq =>
      cases hother
      rw [heq]
      exact h.meant pid placement hpid
    · exact h.meant other placement' hother
  inside other placement' hother := by
    rw [Function.update_apply] at hother
    split at hother
    · cases hother
      exact .inr rfl
    · exact h.inside other placement' hother
  grouped other hother := by
    by_cases heq : other = pid
    · exact ⟨_, by rw [heq, Function.update_self], rfl⟩
    · obtain ⟨placement', hplacement, hgroup⟩ := h.grouped other (others other heq hother)
      exact ⟨placement', by rw [Function.update_of_ne heq, hplacement], hgroup⟩

/-- **Whoever is put into a group is put into that of the leader.** -/
theorem Placed.led (placed : Placed events joined k)
    (view : ∀ group ∈ groups events, leader = some group) : Led leader events joined k := by
  induction placed with
  | start => exact ⟨by simp [forks], nofun, nofun, by simp [Grouped]⟩
  | forked _ fresh ih =>
    rw [groups_append] at view
    obtain ⟨before, now⟩ := List.forall_mem_append.mp view
    exact (ih before).start fresh (now _ (List.mem_singleton_self _))
  | @grouped events joined k placement pid group _ hpid ih =>
    rw [groups_append] at view
    obtain ⟨before, now⟩ := List.forall_mem_append.mp view
    obtain rfl : leader = some group := now _ (List.mem_singleton_self _)
    refine (ih before).put hpid ?_ fun other hne hother => hother.imp_right fun ⟨group, hmem⟩ => ?_
    · simp [forks, Event.newPid?]
    · refine ⟨group, (List.mem_append.mp hmem).resolve_right fun h => ?_⟩
      cases List.mem_singleton.mp h
      exact hne rfl
  | @joins events joined k placement pid group _ hpid hjoin ih =>
    have h := ih view
    have hgroup := h.meant pid placement hpid
    rw [← eq_group_of_mem_steps hjoin] at hgroup
    subst hgroup
    exact h.put hpid rfl fun other hne hother =>
      hother.imp_left fun hmem => (List.mem_cons.mp hmem).resolve_left hne
  | @other events joined k e _ hnew hother ih =>
    rw [groups_append] at view
    have h := ih (List.forall_mem_append.mp view).1
    have same : forks (events ++ [e]) = forks events := by simp [forks, hnew]
    refine ⟨same ▸ h.known, h.meant, h.inside, fun pid hpid => h.grouped pid ?_⟩
    refine hpid.imp_right fun ⟨group, hmem⟩ => ⟨group, ?_⟩
    exact (List.mem_append.mp hmem).resolve_right fun h =>
      hother pid group (List.mem_singleton.mp h).symm

end Led

/-! ### Lines -/

/-- After a run of the first part of a dialogue, a run of the whole goes on with the other part. -/
theorem Dialogue.Run.continues {α β : Type} {d : Dialogue α} {f : α → Dialogue β}
    {before rest : List Event} {a : α} {b : β} (first : Run d before a)
    (whole : Run (d >>= f) (before ++ rest) b) : Run (f a) rest b := by
  induction first with
  | done _ => exact whole
  | ask _ ih =>
    cases whole with
    | ask whole => exact ih whole

section Lines

variable {shell shell' : Shell} {rounds : Nat} {events : List Event} {report : Report}
  {started : List Pid} {failure : Option LaunchError} {background : Bool} {job : Job}

/-- How a line goes on when some stages were started and others may not have been. -/
inductive Line.Resolved (shell : Shell) (rounds : Nat) (background : Bool) :
    List Pid → Option LaunchError → List Event → Shell → Report → Prop
  /-- Nothing was started: the line is rejected, and there is no job. -/
  | rejected {e : LaunchError} : Resolved shell rounds background [] (some e)
      [⟨.say (.rejected (.launch e)), ()⟩] shell (.rejected (.launch e))
  /-- What was started is one job, led by its first process; what was not is complained of. -/
  | tracked {leader : Pid} {others : List Pid} {failure : Option LaunchError}
      {tracking : List Event} {after : Shell} {report : Report} :
      Line.Tracks shell rounds
        { pgid := leader
          members := (leader :: others).map fun pid => { pid, status := .stillAlive }
          foreground := !background
          lastStatus := none } background tracking after report →
      Resolved shell rounds background (leader :: others) failure (complaint failure ++ tracking)
        after report

/-- **When the stages of a line were started as far as possible, the line goes on in one way.** -/
theorem resolved_of_run {tokens : List String} {pipeline : Pipeline} {stages : List Stage}
    {preparing launching following : List Event}
    (parsed : Pipeline.ofTokens tokens = .ok pipeline)
    (prepared : (Stage.prepare pipeline rounds).Run preparing (.ok stages))
    (launched : (Spawn.stages none [] stages rounds).Run launching (started, failure))
    (something : started = [] → failure ≠ none)
    (run : (Line.evaluate shell tokens rounds).Run (preparing ++ (launching ++ following))
      (shell', report)) :
    Line.Resolved shell rounds pipeline.background started failure following shell' report := by
  simp only [Line.evaluate, parsed] at run
  have run := launched.continues (prepared.continues run)
  cases started with
  | nil =>
    cases failure with
    | none => exact absurd rfl (something rfl)
    | some e =>
      obtain ⟨rfl, rfl, rfl⟩ := run_reject run
      exact .rejected
  | cons leader others =>
    cases failure with
    | none => exact .tracked (tracks_of_run rfl run)
    | some e =>
      obtain ⟨_, tracking, rfl, htrack⟩ := run_ask_bind_iff.mp run
      exact .tracked (tracks_of_run rfl htrack)

/-- **A launch asks for what the stages need in the order of the pipeline, and stops at the first
refusal; the stages before that are the ones started, and form the group of the first.  Nothing is
waited for meanwhile, and the shell is left with the descriptors that it had before the files of the
pipeline were opened.  If nothing was started the line is rejected, else what was started is the one
job of the line, where the line asked for it.** -/
theorem pipeline_launched {pipeline : Pipeline} {stages : List Stage} {own : Descriptors End}
    {preparing launching : List Event} (nonempty : stages ≠ [])
    (prepared : (Stage.prepare pipeline rounds).Run preparing (.ok stages))
    (launched : (Spawn.stages none [] stages rounds).Run launching (started, failure))
    (granted : (Holding.start own).Granted (preparing ++ launching)) :
    Spawn.Met (Spawn.needs stages) (Spawn.attempts launching) failure ∧
      forks launching = started ∧
      Spawn.programs launching = (stages.take started.length).map (·.program) ∧
      (started.length = stages.length ↔ failure = none) ∧
      (∀ joined k, Placed launching joined k → ∀ pid ∈ started, ∃ placement,
        k pid = some placement ∧ (placement.group = none ∨ placement.group = started.head?) ∧
          (Grouped launching joined pid → placement.group = started.head?)) ∧
      (∀ e ∈ launching, ∀ pid flags, e.call ≠ .wait pid flags) ∧
      ((Holding.start own).afterAll (preparing ++ launching)).shell = own ∧
      ∀ tokens shell following shell' report, Pipeline.ofTokens tokens = .ok pipeline →
        (Line.evaluate shell tokens rounds).Run (preparing ++ (launching ++ following))
          (shell', report) →
        Line.Resolved shell rounds pipeline.background started failure following shell' report := by
  have trace := Spawn.launched_of_run launched
  have forks_eq : forks launching = started := by rw [trace.forks_eq, List.nil_append]
  have all_iff : started.length = stages.length ↔ failure = none :=
    forks_eq ▸ trace.length_eq_iff
  refine ⟨trace.met, forks_eq, forks_eq ▸ trace.programs_eq, all_iff,
    fun joined k placed pid hpid => ?_, ?_, pipeline_leaves_nothing prepared launched granted,
    fun tokens shell following shell' report parsed run =>
      resolved_of_run parsed prepared launched (fun hnone hfailure => nonempty ?_) run⟩
  · have led := placed.led trace.head?_eq
    obtain ⟨placement, hplacement⟩ :=
      Option.isSome_iff_exists.mp ((led.known pid).mpr (forks_eq.symm ▸ hpid))
    refine ⟨placement, hplacement, led.inside pid placement hplacement, fun grouped => ?_⟩
    obtain ⟨_, hother, hgroup⟩ := led.grouped pid grouped
    cases hplacement.symm.trans hother
    exact hgroup
  · have only : (Spawn.stages none [] stages).Only fun c => ∀ pid flags, c ≠ .wait pid flags :=
      Spawn.only_stages nofun (fun _ => nofun) (fun _ _ => nofun) (fun _ => nofun) stages none []
    exact only.of_run launched
  · have := all_iff.mpr hfailure
    rw [hnone] at this
    exact List.length_eq_zero_iff.mp this.symm

end Lines

/-! The line `/a | /a &`, the second process of which is refused; the shell comes too late to put
the first into its group. -/

namespace Sample

def pair : Pipeline where
  commands := [{ argv := ["/a"] }, { argv := ["/a"] }]
  background := true

/-- The programs are found. -/
def finding : List Event := [
  ⟨.environment "PATH", none⟩, ⟨.metadata (Text.toBytes "/a"), .ok ⟨.regular, 0o755, 0⟩⟩,
  ⟨.environment "PATH", none⟩, ⟨.metadata (Text.toBytes "/a"), .ok ⟨.regular, 0o755, 0⟩⟩]

def pairStages : List Stage := [⟨program, none, none⟩, ⟨program, none, none⟩]

/-- No more processes can be started for the moment. -/
def exhausted : Errno := ⟨11⟩

/-- The first stage is started, the second is not. -/
def halting : List Event := [
  ⟨.pipe, .ok (3, 4)⟩, ⟨.fork ⟨program, none, some 4, none⟩, .ok 7⟩,
  ⟨.setGroup 7 7, .error .eacces⟩, ⟨.close 4, ()⟩,
  ⟨.fork ⟨program, some 3, none, some 7⟩, .error exhausted⟩, ⟨.close 3, ()⟩]

/-- The refusal is told, and the job is announced. -/
def telling : List Event := [
  ⟨.say (.incomplete (.fork exhausted)), ()⟩, ⟨.say (.launched 7), ()⟩]

theorem run_finding : (Stage.prepare pair 0).Run finding (.ok pairStages) :=
  .ask (.ask (.ask (.ask (.done _))))

theorem run_halting :
    (Spawn.stages none [] pairStages 0).Run halting ([7], some (.fork exhausted)) :=
  .ask (.ask (.ask (.ask (.ask (.ask (.done _))))))

theorem run_telling : (Line.evaluate { terminal := .detached 1 } ["/a", "|", "/a", "&"] 0).Run
    (finding ++ (halting ++ telling)) (shellWith [⟨7, .stillAlive⟩], .background 7) :=
  .ask (.ask (.ask (.ask (.ask (.ask (.ask (.ask (.ask (.ask (.ask (.ask (.done _))))))))))))

theorem granted_halting : (Holding.start standard).Granted (finding ++ halting) :=
  ⟨trivial, trivial, trivial, trivial, ⟨rfl, rfl, by decide⟩, trivial, trivial, trivial, trivial,
    trivial, trivial⟩

/-- The first process has joined its group by itself. -/
theorem exists_placed : ∃ k, Placed halting [7] k := by
  have piped := Placed.other (e := ⟨.pipe, .ok (3, 4)⟩) .start rfl nofun
  have forked := @Placed.forked _ _ _ ⟨program, none, some 4, none⟩ 7 piped rfl
  have joined := @Placed.joins _ _ _ _ 7 none forked (Function.update_self ..)
    (by simp [Child.steps])
  have refused := joined.other (e := ⟨.setGroup 7 7, .error .eacces⟩) rfl nofun
  have closed := refused.other (e := ⟨.close 4, ()⟩) rfl nofun
  have halted := closed.other
    (e := ⟨.fork ⟨program, some 3, none, some 7⟩, .error exhausted⟩) rfl nofun
  exact ⟨_, halted.other (e := ⟨.close 3, ()⟩) rfl nofun⟩

end Sample

/-- The first process leads its group and is the job of the line, in the background. -/
theorem job_of_started_stage :
    forks Sample.halting = [7] ∧
      (∃ k placement, Placed Sample.halting [7] k ∧ k 7 = some placement ∧
        placement.group = some 7) ∧
      Line.Resolved { terminal := .detached 1 } 0 true [7] (some (.fork Sample.exhausted))
        Sample.telling (Sample.shellWith [⟨7, .stillAlive⟩]) (.background 7) := by
  obtain ⟨-, started, -, -, placed, -, -, resolved⟩ := pipeline_launched (by decide)
    Sample.run_finding Sample.run_halting Sample.granted_halting
  obtain ⟨k, hk⟩ := Sample.exists_placed
  obtain ⟨placement, hplacement, -, grouped⟩ := placed [7] k hk 7 (List.mem_singleton_self 7)
  exact ⟨started, ⟨k, placement, hk, hplacement, grouped (.inl (List.mem_singleton_self 7))⟩,
    resolved _ _ _ _ _ rfl Sample.run_telling⟩

end JobControl
