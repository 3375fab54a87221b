import JobControl.Proofs.Session

/-!
# Who owns the terminal

A shell that owns its terminal lends it to a job for as long as the job is in the foreground, and
takes it back with its modes whatever becomes of the job.  Everything else that a shell does is done
*aside* of this: it leaves the terminal alone and does not wait without end.

## Main definitions

* `Call.isAside`, `Aside events` — requests and events of this kind.
* `Terminal.Lends t group events` — `t` is lent to a group; nothing happens to a detached one.
* `Terminal.Reclaims t events` — `t` is taken back and its modes are restored.
* `Terminal.Loan t job events` — `t` is lent to a job, the job may be waited for, `t` is taken back.
* `Line.Custody shell tokens report events` — a line stays aside, or there is one loan in it.
* `ownerAfter owner events` — the owner of the terminal after some events.

## Main results

* `only_survey` — what an inquiry may ask.
* `loan_of_runForeground`, `loan_of_resumeForeground` — the two ways into the foreground.
* `custody_of_execute` — every run of a line is as `Line.Custody` tells.
* `terminal_lent_and_taken_back` — **a job is waited for only while it has the terminal, and the
  shell owns the terminal between its lines.**
-/

namespace JobControl

open JobControl.Action (run_pure_iff run_pair_iff run_bind_iff run_bind_pair_iff run_ask_bind_iff)

/-- The request gives the terminal to a group or changes its modes. -/
def Call.changesTerminal : Call → Bool
  | .setTerminalGroup _ | .setModes _ => true
  | _ => false

/-- The request leaves the terminal alone and is no wait without end. -/
def Call.isAside : Call → Bool
  | .setTerminalGroup _ | .setModes _ => false
  | .wait _ flags => flags.noHang
  | _ => true

/-- Every event leaves the terminal alone and is no wait without end. -/
def Aside (events : List Event) : Prop := ∀ e ∈ events, e.call.isAside = true

/-- The request leaves the terminal alone; a wait without end is for a process of the job. -/
def Call.Attends (job : Job) (c : Call) : Prop :=
  c.isAside = true ∨ ∃ pid ∈ job.pids, ∃ flags, c = .wait pid flags

/-- Every event leaves the terminal alone, and waits without end are for processes of a job. -/
def Attends (job : Job) (events : List Event) : Prop := ∀ e ∈ events, e.call.Attends job

namespace Terminal

/-- The terminal is lent to a group, which the system may refuse. -/
inductive Lends : Terminal → Pid → List Event → Prop
  | detached {own group : Pid} : Lends (.detached own) group []
  | owned {own group : Pid} {modes : Option Modes} {answer : Except Errno Unit}
      {noted : List Event} : Aside noted →
      Lends (.owned own modes) group (⟨.setTerminalGroup group, answer⟩ :: noted)

/-- The modes of the terminal are restored if they are known. -/
inductive Restores : Option Modes → List Event → Prop
  | unknown : Restores none []
  | known {modes : Modes} {answer : Except Errno Unit} {noted : List Event} : Aside noted →
      Restores (some modes) (⟨.setModes modes, answer⟩ :: noted)

/-- The shell takes its terminal back and then restores the modes. -/
inductive Reclaims : Terminal → List Event → Prop
  | detached {own : Pid} : Reclaims (.detached own) []
  | owned {own : Pid} {modes : Option Modes} {answer : Except Errno Unit}
      {noted restoring : List Event} : Aside noted → Restores modes restoring →
      Reclaims (.owned own modes) (⟨.setTerminalGroup own, answer⟩ :: (noted ++ restoring))

/-- The terminal is lent to the group of a job, the job may be waited for, and the terminal is taken
back, once each. -/
inductive Loan (t : Terminal) (job : Job) : List Event → Prop
  | intro {lending during back after : List Event} : t.Lends job.pgid lending →
      Attends job during → t.Reclaims back → Aside after →
      Loan t job (lending ++ (during ++ (back ++ after)))

end Terminal

/-! ### Actions aside -/

@[simp] theorem aside_nil : Aside [] := List.forall_mem_nil _

@[simp] theorem aside_cons {e : Event} {events : List Event} :
    Aside (e :: events) ↔ e.call.isAside = true ∧ Aside events := List.forall_mem_cons

@[simp] theorem aside_append {events more : List Event} :
    Aside (events ++ more) ↔ Aside events ∧ Aside more := List.forall_mem_append

theorem Call.isAside_of_isOrdinary {c : Call} (h : c.isOrdinary = true) : c.isAside = true := by
  cases c with
  | wait _ _ | setTerminalGroup _ | setModes _ => cases h
  | _ => rfl

theorem Ordinary.aside {events : List Event} (h : Ordinary events) : Aside events :=
  fun e he => Call.isAside_of_isOrdinary (h e he)

theorem aside_announcement (outcome : Outcome) : Aside outcome.announcement := by
  unfold Outcome.announcement
  split
  · exact aside_cons.mpr ⟨rfl, aside_nil⟩
  · exact aside_nil

/-- An action that leaves the terminal alone and does not wait without end. -/
abbrev Action.IsAside {α : Type} (a : Action α) : Prop := a.Only fun c => c.isAside = true

theorem Action.Only.aside {α : Type} {a : Action α} (h : a.IsOrdinary) : a.IsAside :=
  h.mono fun _ => Call.isAside_of_isOrdinary

section Only

variable {P : Call → Prop}

/-- A wait that is made again makes no other request. -/
theorem only_waitFor {pid : Pid} {flags : WaitFlags} (h : P (.wait pid flags)) :
    (Inquiry.waitFor pid flags).Only P := by
  have rounds : ∀ n, (Inquiry.waitRounds pid flags n).Only P := by
    intro n
    induction n with
    | zero => exact fun _ => .unfinished
    | succ n ih =>
      refine .bind (.ask h) fun answer => ?_
      cases answer with
      | ok status => exact .pure _
      | error e =>
        dsimp only
        split
        · exact ih
        · exact .pure _
  exact fun n => rounds n n

/-- An inquiry waits for members and makes entries in the log. -/
theorem only_survey {q : Inquiry} {members : List Member} (logging : ∀ entry, P (.log entry))
    (waiting : ∀ member ∈ members, P (.wait member.pid q.flags)) : (q.survey members).Only P := by
  induction members with
  | nil => exact .pure _
  | cons member rest ih =>
    obtain ⟨first, others⟩ := List.forall_mem_cons.mp waiting
    rw [Inquiry.survey]
    split
    · refine .bind (only_waitFor first) fun answer => ?_
      cases answer with
      | ok status =>
        refine .bind (ih others) fun found => ?_
        split <;> exact .pure _
      | error errno =>
        exact .bind (.ask (logging _)) fun _ => .bind (ih others) fun _ => .pure _
    · exact .bind (ih others) fun _ => .pure _

theorem only_poll {job : Job} (logging : ∀ entry, P (.log entry))
    (waiting : ∀ pid, P (.wait pid .collect)) : job.poll.Only P :=
  .bind (only_survey logging fun member _ => waiting member.pid) fun _ => .pure _

theorem only_pollAll (logging : ∀ entry, P (.log entry))
    (waiting : ∀ pid, P (.wait pid .collect)) : ∀ jobs, (JobTable.pollAll jobs).Only P
  | [] => .pure _
  | _ :: jobs => .bind (only_poll logging waiting) fun _ =>
      .bind (only_pollAll logging waiting jobs) fun _ => .pure _

/-- Collecting what is to be reported asks without waiting, and says and logs what there is. -/
theorem only_reapBackground {shell : Shell} (logging : ∀ entry, P (.log entry))
    (saying : ∀ message, P (.say message)) (waiting : ∀ pid, P (.wait pid .collect)) :
    shell.reapBackground.Only P := by
  refine .bind (.bind (only_pollAll logging waiting _) fun kept => ?_) fun reaped => ?_
  · dsimp only
    split
    · exact .pure _
    · refine .bind (only_poll logging waiting) fun after => ?_
      split
      · exact .bind (.ask (logging _)) fun _ => .pure _
      · exact .pure _
  · obtain ⟨jobs, change⟩ := reaped
    cases change with
    | none => exact .pure _
    | some change =>
      exact .bind (.ask (logging _)) fun _ => .bind (.ask (saying _)) fun _ => .pure _

/-- Letting a group go on signals it, and logs that. -/
theorem only_resume {job : Job} (logging : ∀ entry, P (.log entry))
    (signalling : ∀ group signal, P (.signalGroup group signal)) : job.resume.Only P := by
  refine .bind (.ask (signalling _ _)) fun answer => ?_
  cases answer with
  | ok _ => exact .bind (.ask (logging _)) fun _ => .pure _
  | error e => exact .pure _

theorem only_hangUp {job : Job} (logging : ∀ entry, P (.log entry))
    (signalling : ∀ group signal, P (.signalGroup group signal)) : job.hangUp.Only P := by
  refine .bind (.ask (signalling _ _)) fun answer => ?_
  cases answer with
  | ok _ => exact only_resume logging signalling
  | error e => exact .pure _

theorem only_displace {job : Job} (logging : ∀ entry, P (.log entry))
    (signalling : ∀ group signal, P (.signalGroup group signal)) :
    (JobTable.displace job).Only P := by
  refine .bind (.ask (logging _)) fun _ => ?_
  split
  · refine .bind (only_hangUp logging signalling) fun answer => ?_
    cases answer with
    | ok _ => exact .pure _
    | error e => exact .bind (.ask (logging _)) fun _ => .pure _
  · exact .pure _

/-- Putting a job into the background signals the job that was there, and logs that. -/
theorem only_setBackground {t : JobTable} {job : Job} (logging : ∀ entry, P (.log entry))
    (signalling : ∀ group signal, P (.signalGroup group signal)) :
    (t.setBackground job).Only P := by
  unfold JobTable.setBackground
  dsimp only
  split
  · exact .pure _
  · exact .bind (only_displace logging signalling) fun _ => .pure _

theorem only_leaveForeground {t : JobTable} (logging : ∀ entry, P (.log entry))
    (signalling : ∀ group signal, P (.signalGroup group signal)) : t.leaveForeground.Only P := by
  unfold JobTable.leaveForeground
  split
  · exact .pure _
  · dsimp only
    split
    · exact .bind (.ask (logging _)) fun _ => .pure _
    · exact .bind (.ask (logging _)) fun _ => only_setBackground logging signalling

end Only

theorem aside_log (entry : LogEntry) : (Action.log entry).IsAside := .ask rfl

theorem aside_say (message : Message) : (Action.say message).IsAside := .ask rfl

theorem aside_resume (job : Job) : job.resume.IsAside := only_resume (fun _ => rfl) fun _ _ => rfl

theorem aside_setBackground (t : JobTable) (job : Job) : (t.setBackground job).IsAside :=
  only_setBackground (fun _ => rfl) fun _ _ => rfl

theorem aside_leaveForeground (t : JobTable) : t.leaveForeground.IsAside :=
  only_leaveForeground (fun _ => rfl) fun _ _ => rfl

theorem aside_reapBackground (shell : Shell) : shell.reapBackground.IsAside :=
  only_reapBackground (fun _ => rfl) (fun _ => rfl) fun _ => rfl

theorem aside_launchBackground (shell : Shell) (job : Job) :
    (shell.launchBackground job).IsAside :=
  .bind (aside_say _) fun _ => .bind (aside_setBackground _ _) fun _ => .pure _

theorem aside_resumeBackground (shell : Shell) : shell.resumeBackground.IsAside := by
  unfold Shell.resumeBackground
  split
  · exact .pure _
  · next job _ =>
    split
    · exact .pure _
    · refine .bind (aside_resume job) fun resumed => ?_
      cases resumed with
      | ok job => exact .bind (aside_say _) fun _ => .pure _
      | error e => exact .pure _

theorem aside_stages (list : List Stage) (incoming : Option Fd) (started : List Pid) :
    (Spawn.stages incoming started list).IsAside :=
  Spawn.only_stages (P := fun c => c.isAside = true) rfl (fun _ => rfl) (fun _ _ => rfl)
    (fun _ => rfl) list incoming started

/-! ### Lending and taking back -/

variable {terminal : Terminal} {shell shell' : Shell} {job : Job} {rounds : Nat}
  {events : List Event}

theorem lends_of_run {group : Pid} {value : Unit}
    (h : (terminal.handTo group rounds).Run events value) : terminal.Lends group events := by
  cases terminal with
  | detached own =>
    obtain ⟨rfl, -⟩ := run_pure_iff.mp h
    exact .detached
  | owned own modes =>
    obtain ⟨answer, noted, rfl, hnoted⟩ := run_ask_bind_iff.mp h
    refine .owned ?_
    cases answer with
    | ok _ => exact (run_pure_iff.mp hnoted).1 ▸ aside_nil
    | error e => exact (aside_log _).of_run hnoted

theorem reclaims_of_run {value : Unit} (h : (terminal.reclaim rounds).Run events value) :
    terminal.Reclaims events := by
  obtain ⟨handing, restoring, _, rfl, hhand, hrestore⟩ := run_bind_iff.mp h
  have lends := lends_of_run hhand
  cases terminal with
  | detached own =>
    cases lends
    obtain ⟨rfl, -⟩ := run_pure_iff.mp hrestore
    exact .detached
  | owned own modes =>
    cases lends with
    | owned noted =>
      rw [List.cons_append]
      refine .owned noted ?_
      cases modes with
      | none => exact (run_pure_iff.mp hrestore).1 ▸ .unknown
      | some modes =>
        obtain ⟨answer, said, rfl, hsaid⟩ := run_ask_bind_iff.mp hrestore
        refine .known ?_
        cases answer with
        | ok _ => exact (run_pure_iff.mp hsaid).1 ▸ aside_nil
        | error e => exact (aside_log _).of_run hsaid

/-- Waiting in the foreground waits for members of the job there, if it waits without end. -/
theorem attends_waitForeground (t : JobTable) (job : Job) :
    (t.waitForeground job).Only (·.Attends job) := by
  have aside : ∀ {α : Type} {a : Action α}, a.IsAside → a.Only (·.Attends job) :=
    fun h => h.mono fun _ => .inl
  have wait : ({ job with foreground := true } : Job).wait.Only (·.Attends job) := by
    refine .bind (only_survey (fun _ => .inl rfl) fun member hmember => ?_) fun found => ?_
    · exact .inr ⟨member.pid, List.mem_map_of_mem hmember, _, rfl⟩
    · dsimp only
      split <;> exact .pure _
  refine .bind (.bind wait fun waited => ?_) fun t' => ?_
  · obtain ⟨after, result⟩ := waited
    cases result with
    | ok _ => exact .pure _
    | error failure => exact .bind (.ask (.inl rfl)) fun _ => .pure _
  · exact .bind (aside (aside_leaveForeground t')) fun _ => .pure _

/-- After the wait for a job the terminal is taken back, whatever has become of the job. -/
theorem taken_back_of_run {outcome : Outcome}
    (h : (shell.waitAndReclaim job rounds).Run events (shell', outcome)) :
    shell'.terminal = shell.terminal ∧ ∃ during back after, events = during ++ (back ++ after) ∧
      Attends job during ∧ shell.terminal.Reclaims back ∧ Aside after := by
  obtain ⟨during, back, jobs, rfl, rfl, hwait, hreclaim⟩ := waited_of_run h
  exact ⟨rfl, during, back, outcome.announcement, rfl, (attends_waitForeground _ _).of_run hwait,
    reclaims_of_run hreclaim, aside_announcement outcome⟩

/-- **A job that runs in the foreground has the terminal lent to it, once.** -/
theorem loan_of_runForeground {outcome : Outcome}
    (h : (shell.runForeground job rounds).Run events (shell', outcome)) :
    shell'.terminal = shell.terminal ∧ shell.terminal.Loan job events := by
  obtain ⟨lending, others, _, rfl, hhand, hothers⟩ := run_bind_iff.mp h
  obtain ⟨kept, during, back, after, rfl, waited, reclaimed, aside⟩ := taken_back_of_run hothers
  exact ⟨kept, .intro (lends_of_run hhand) waited reclaimed aside⟩

theorem Terminal.Loan.append {t : Terminal} {more : List Event} (h : t.Loan job events)
    (aside : Aside more) : t.Loan job (events ++ more) := by
  obtain ⟨lends, attends, reclaims, after⟩ := h
  rw [List.append_assoc, List.append_assoc, List.append_assoc]
  exact .intro lends attends reclaims (aside_append.mpr ⟨after, aside⟩)

/-- **The background job that is brought to the foreground has the terminal lent to it, once, even
if it cannot go on.** -/
theorem loan_of_resumeForeground {result : Except Errno (Option Outcome)}
    (h : (shell.resumeForeground rounds).Run events (shell', result)) :
    shell'.terminal = shell.terminal ∧
      (events = [] ∨
        ∃ job, shell.jobs.background = some job ∧ shell.terminal.Loan job events) := by
  cases foregrounded_of_run h with
  | noJob => exact ⟨rfl, .inl rfl⟩
  | @refused job _ _ _ _ _ _ hbackground hhand hresume hreclaim hplace =>
    have signalled : Attends job _ := fun e he => .inl ((aside_resume job).of_run hresume e he)
    exact ⟨rfl, .inr ⟨job, hbackground, .intro (lends_of_run hhand) signalled
      (reclaims_of_run hreclaim) ((aside_setBackground _ _).of_run hplace)⟩⟩
  | @waited job resumed _ resuming _ _ _ hbackground hhand hresume hwait =>
    obtain ⟨kept, during, back, after, rfl, attended, reclaimed, aside⟩ := taken_back_of_run hwait
    -- the job that goes on has the members that it had
    have same : resumed.pids = job.pids := by rw [eq_resumed_of_run hresume, Job.pids_resumed]
    have attended : Attends job (resuming ++ during) := by
      refine List.forall_mem_append.mpr
        ⟨fun e he => .inl ((aside_resume job).of_run hresume e he), fun e he => ?_⟩
      have := attended e he
      rwa [Call.Attends, same] at this
    rw [← List.append_assoc resuming]
    exact ⟨kept, .inr ⟨job, hbackground, .intro (lends_of_run hhand) attended reclaimed aside⟩⟩

/-! ### Lines -/

/-- What a line does with the terminal: nothing, or it lends it once, to the job of the processes
that it started or to what is left of the job that was in the background. -/
inductive Line.Custody (shell : Shell) : List String → Report → List Event → Prop
  | aside {tokens : List String} {report : Report} {events : List Event} : Aside events →
      (∀ outcome, report ≠ .foreground outcome) → Custody shell tokens report events
  | launched {name : String} {arguments : List String} {outcome : Outcome} {job : Job}
      {before lent : List Event} : Builtin.ofName? name = none → Aside before →
      Job.ofPids? (forks before) true = some job → shell.terminal.Loan job lent →
      Custody shell (name :: arguments) (.foreground outcome) (before ++ lent)
  | resumed {name : String} {arguments : List String} {status : Nat} {job previous : Job}
      {before lent : List Event} : Builtin.ofName? name = some .foreground → Aside before →
      shell.jobs.background = some previous → job.Descends previous →
      shell.terminal.Loan job lent →
      Custody shell (name :: arguments) (.builtin status) (before ++ lent)

/-- The background job after the collecting is what is left of the one before. -/
theorem descends_reapBackground (h : (shell.reapBackground rounds).Run events shell')
    (hjob : shell'.jobs.background = some job) :
    ∃ previous, shell.jobs.background = some previous ∧ job.Descends previous := by
  obtain ⟨reaping, change, jobs, rfl, rfl, collected⟩ := collected_of_run h
  cases collected with
  | idle hbackground _ => cases hbackground.symm.trans hjob
  | ended => cases hjob
  | going hbackground _ hpoll _ =>
    obtain ⟨found, hsurvey, rfl⟩ := run_poll hpoll
    exact ⟨_, hbackground, Option.some.inj hjob ▸ Job.descends_record hsurvey⟩

/-- What a line does with the terminal, seen from before the collecting that precedes it. -/
theorem Line.Custody.after_reaping {tokens : List String} {report : Report} {reaping : List Event}
    (reaped : (shell.reapBackground rounds).Run reaping shell')
    (h : Line.Custody shell' tokens report events) :
    Line.Custody shell tokens report (reaping ++ events) := by
  have aside : Aside reaping := (aside_reapBackground shell).of_run reaped
  have none_started : forks reaping = [] := by
    have only : shell.reapBackground.Only fun c => ∀ child, c ≠ .fork child :=
      only_reapBackground (fun _ => nofun) (fun _ => nofun) fun _ => nofun
    exact forks_eq_nil (only.of_run reaped)
  have terminal_eq : shell'.terminal = shell.terminal := (run_reapBackground reaped).1
  cases h with
  | aside others quiet => exact .aside (aside_append.mpr ⟨aside, others⟩) quiet
  | launched hname before started loan =>
    rw [← List.append_assoc]
    refine .launched hname (aside_append.mpr ⟨aside, before⟩) ?_ (terminal_eq ▸ loan)
    rw [forks_append, none_started, List.nil_append, started]
  | resumed hname before hbackground descends loan =>
    rw [← List.append_assoc]
    obtain ⟨previous, hprevious, earlier⟩ := descends_reapBackground reaped hbackground
    exact .resumed hname (aside_append.mpr ⟨aside, before⟩) hprevious (descends.trans earlier)
      (terminal_eq ▸ loan)

/-- What was started for a line gets the terminal if it is followed in the foreground. -/
theorem loan_of_track {started : List Pid} {background : Bool} {report : Report}
    (h : (Line.track shell started background rounds).Run events (shell', report)) :
    shell'.terminal = shell.terminal ∧
      ((Aside events ∧ ∀ outcome, report ≠ .foreground outcome) ∨
        ∃ job outcome, Job.ofPids? started true = some job ∧ shell.terminal.Loan job events ∧
          report = .foreground outcome) := by
  cases hjob : Job.ofPids? started !background with
  | none =>
    rw [Line.track, hjob] at h
    obtain ⟨rfl, rfl, rfl⟩ := run_pair_iff.mp h
    exact ⟨rfl, .inl ⟨aside_nil, fun outcome heq => by cases heq⟩⟩
  | some job =>
    cases tracks_of_run hjob h with
    | background hlaunch _ =>
      have placed : Aside events := (aside_launchBackground shell job).of_run hlaunch
      obtain ⟨_, placing, rfl, hplacing⟩ := run_ask_bind_iff.mp hlaunch
      obtain ⟨jobs, -, rfl, -⟩ := run_bind_pair_iff.mp hplacing
      exact ⟨rfl, .inl ⟨placed, fun outcome heq => by cases heq⟩⟩
    | foreground hrun =>
      obtain ⟨kept, loan⟩ := loan_of_runForeground hrun
      exact ⟨kept, .inr ⟨job, _, hjob, loan, rfl⟩⟩

/-- **The pipeline of a line gets the terminal if it is launched in the foreground.** -/
theorem custody_of_evaluate {name : String} {arguments : List String} {report : Report}
    (hname : Builtin.ofName? name = none)
    (h : (Line.evaluate shell (name :: arguments) rounds).Run events (shell', report)) :
    shell'.terminal = shell.terminal ∧
      Line.Custody shell (name :: arguments) report events := by
  have prepared : ∀ {pipeline preparing prepared},
      (Stage.prepare pipeline rounds).Run preparing prepared → Ordinary preparing :=
    fun hprepare => (ordinary_prepare _).of_run hprepare
  have said : ∀ {cause : Rejection}, Aside [⟨.say (.rejected cause), ()⟩] := by
    simp [Call.isAside]
  cases evaluated_of_run h with
  | malformed => exact ⟨rfl, .aside said nofun⟩
  | unprepared _ hprepare =>
    exact ⟨rfl, .aside (aside_append.mpr ⟨(prepared hprepare).aside, said⟩) nofun⟩
  | unlaunched _ hprepare hlaunch =>
    have launched : Aside _ := (aside_stages _ _ _).of_run hlaunch
    exact ⟨rfl, .aside (aside_append.mpr
      ⟨(prepared hprepare).aside, aside_append.mpr ⟨launched, said⟩⟩) nofun⟩
  | @launched _ _ preparing launching _ started failure _ _ _ hprepare hlaunch _ htrack =>
    have before : Aside (preparing ++ launching ++ complaint failure) :=
      aside_append.mpr ⟨aside_append.mpr ⟨(prepared hprepare).aside,
        (aside_stages _ _ _).of_run hlaunch⟩, (ordinary_complaint failure).aside⟩
    have forks_before : forks (preparing ++ launching ++ complaint failure) = started := by
      rw [forks_append, forks_append, forks_of_quiet (prepared hprepare).quiet,
        (Spawn.started_of_run hlaunch).forks_eq, forks_of_quiet (ordinary_complaint failure).quiet,
        List.nil_append, List.append_nil]
    rw [← List.append_assoc, ← List.append_assoc]
    obtain ⟨kept, ⟨aside, quiet⟩ | ⟨job, outcome, hjob, loan, rfl⟩⟩ := loan_of_track htrack
    · exact ⟨kept, .aside (aside_append.mpr ⟨before, aside⟩) quiet⟩
    · exact ⟨kept, .launched hname before (forks_before.symm ▸ hjob) loan⟩

theorem terminal_of_resumeBackground {result : Except Errno (Option Pid)}
    (h : (shell.resumeBackground rounds).Run events (shell', result)) :
    shell'.terminal = shell.terminal := by
  cases backgrounded_of_run h <;> rfl

/-- **In every run of a line the terminal is left alone, or lent once and taken back.** -/
theorem custody_of_execute {tokens : List String} {report : Report}
    (h : (Line.execute shell tokens rounds).Run events (shell', report)) :
    shell'.terminal = shell.terminal ∧ Line.Custody shell tokens report events := by
  obtain ⟨reaping, rest, middle, rfl, hreap, executed⟩ := executed_of_run h
  suffices shell'.terminal = middle.terminal ∧ Line.Custody middle tokens report rest from
    ⟨this.1.trans (run_reapBackground hreap).1, this.2.after_reaping hreap⟩
  cases executed with
  | empty => exact ⟨rfl, .aside aside_nil nofun⟩
  | pipeline hname hevaluate => exact custody_of_evaluate hname hevaluate
  | exit _ hrun =>
    cases ran_of_run hrun with
    | ordinary _ _ ordinary => exact ⟨rfl, .aside ordinary.aside nofun⟩
  | builtin hname hrun =>
    cases ran_of_run hrun with
    | ordinary _ _ ordinary => exact ⟨rfl, .aside ordinary.aside nofun⟩
    | background hresume rest =>
      have resuming : Aside _ := (aside_resumeBackground middle).of_run hresume
      exact ⟨terminal_of_resumeBackground hresume,
        .aside (aside_append.mpr ⟨resuming, rest.aside⟩) nofun⟩
    | @foreground resuming rest _ _ _ hresume _ hrest =>
      obtain ⟨kept, rfl | ⟨job, hjob, loan⟩⟩ := loan_of_resumeForeground hresume
      · exact ⟨kept, .aside hrest.aside nofun⟩
      · rw [← List.nil_append (resuming ++ rest)]
        exact ⟨kept, .resumed hname aside_nil hjob (.refl job) (loan.append hrest.aside)⟩

/-! ### The owner of the terminal -/

/-- The owner of the terminal after an event, if nobody else gives it away. -/
def Event.owner (owner : Pid) : Event → Pid
  | ⟨.setTerminalGroup group, .ok _⟩ => group
  | _ => owner

/-- The owner of the terminal after some events, if nobody else gives it away. -/
def ownerAfter (owner : Pid) (events : List Event) : Pid := events.foldl Event.owner owner

/-- Taking the terminal back succeeds each time. -/
def AlwaysReclaims (own : Pid) (events : List Event) : Prop :=
  ∀ answer, ⟨.setTerminalGroup own, answer⟩ ∈ events → answer = .ok ()

variable {own owner : Pid} {modes : Option Modes} {tokens : List String} {report : Report}

theorem ownerAfter_append (events more : List Event) :
    ownerAfter owner (events ++ more) = ownerAfter (ownerAfter owner events) more :=
  List.foldl_append

theorem Event.owner_eq {e : Event} (h : ∀ group, e.call ≠ .setTerminalGroup group) :
    e.owner owner = owner := by
  obtain ⟨call, answer⟩ := e
  cases call with
  | setTerminalGroup group => exact absurd rfl (h group)
  | _ => rfl

theorem ownerAfter_eq (h : ∀ e ∈ events, ∀ group, e.call ≠ .setTerminalGroup group) :
    ownerAfter owner events = owner := by
  induction events with
  | nil => rfl
  | cons e events ih =>
    obtain ⟨he, h⟩ := List.forall_mem_cons.mp h
    rw [ownerAfter, List.foldl_cons, Event.owner_eq he]
    exact ih h

theorem Call.ne_setTerminalGroup_of_isAside {c : Call} (h : c.isAside = true) (group : Pid) :
    c ≠ .setTerminalGroup group := by
  rintro rfl
  cases h

theorem ownerAfter_of_aside (h : Aside events) : ownerAfter owner events = owner :=
  ownerAfter_eq fun e he => Call.ne_setTerminalGroup_of_isAside (h e he)

theorem ownerAfter_of_attends (h : Attends job events) : ownerAfter owner events = owner := by
  refine ownerAfter_eq fun e he group hcall => ?_
  rcases h e he with aside | ⟨pid, -, flags, hwait⟩
  · exact Call.ne_setTerminalGroup_of_isAside aside group hcall
  · cases hcall.symm.trans hwait

theorem ownerAfter_of_restores (h : Terminal.Restores modes events) :
    ownerAfter owner events = owner := by
  cases h with
  | unknown => rfl
  | known noted => exact (ownerAfter_of_aside noted : ownerAfter owner _ = owner)

/-- Whoever owned the terminal before, after a loan the shell owns it. -/
theorem Terminal.Loan.ownerAfter_eq (h : (Terminal.owned own modes).Loan job events)
    (reclaims : AlwaysReclaims own events) : ownerAfter owner events = own := by
  obtain ⟨_, attends, back, after⟩ := h
  cases back with
  | @owned _ _ answer _ _ noted restores =>
    obtain rfl : answer = .ok () := reclaims answer (by simp)
    rw [ownerAfter_append, ownerAfter_append, ownerAfter_of_attends attends, ownerAfter_append,
      ownerAfter_of_aside after, ← List.singleton_append, ownerAfter_append, ownerAfter_append,
      ownerAfter_of_restores restores, ownerAfter_of_aside noted]
    rfl

theorem AlwaysReclaims.of_append {more : List Event} (h : AlwaysReclaims own (events ++ more)) :
    AlwaysReclaims own events ∧ AlwaysReclaims own more :=
  ⟨fun answer he => h answer (List.mem_append_left _ he),
    fun answer he => h answer (List.mem_append_right _ he)⟩

/-- A shell that owns its terminal before a line owns it after the line. -/
theorem Line.Custody.ownerAfter_eq (h : Line.Custody shell tokens report events)
    (owned : shell.terminal = .owned own modes) (reclaims : AlwaysReclaims own events) :
    ownerAfter own events = own := by
  cases h with
  | aside others _ => exact ownerAfter_of_aside others
  | launched _ before _ loan | resumed _ before _ _ loan =>
    rw [owned] at loan
    rw [ownerAfter_append, ownerAfter_of_aside before, loan.ownerAfter_eq reclaims.of_append.2]

theorem Call.changesTerminal_of_isAside {c : Call} (h : c.isAside = true) :
    c.changesTerminal = false := by
  cases c with
  | setTerminalGroup _ | setModes _ => cases h
  | _ => rfl

/-- A detached terminal is left alone. -/
theorem Line.Custody.spares_detached (h : Line.Custody shell tokens report events)
    (detached : shell.terminal = .detached own) : ∀ e ∈ events, e.call.changesTerminal = false := by
  have spared : ∀ {before lent : List Event} {job : Job}, Aside before →
      (Terminal.detached own).Loan job lent →
      ∀ e ∈ before ++ lent, e.call.changesTerminal = false := by
    rintro before lent job aside ⟨lends, attends, back, after⟩ e he
    cases lends
    cases back
    simp only [List.nil_append, List.mem_append] at he
    rcases he with he | he | he
    · exact Call.changesTerminal_of_isAside (aside e he)
    · rcases attends e he with h | ⟨pid, -, flags, hwait⟩
      · exact Call.changesTerminal_of_isAside h
      · rw [hwait]
        rfl
    · exact Call.changesTerminal_of_isAside (after e he)
  cases h with
  | aside others _ => exact fun e he => Call.changesTerminal_of_isAside (others e he)
  | launched _ before _ loan | resumed _ before _ _ loan => exact spared before (detached ▸ loan)

/-- The line needs no terminal: it is empty, rejected, launched in the background, or a builtin that
brings no job to the foreground. -/
def Line.NeedsNoTerminal (tokens : List String) (report : Report) : Prop :=
  tokens = [] ∨ (∃ cause, report = .rejected cause) ∨ (∃ group, report = .background group) ∨
    ∃ name arguments builtin, tokens = name :: arguments ∧
      Builtin.ofName? name = some builtin ∧ builtin ≠ .foreground

theorem Line.Custody.aside_of_needsNoTerminal (h : Line.Custody shell tokens report events)
    (needless : Line.NeedsNoTerminal tokens report) : Aside events := by
  cases h with
  | aside others _ => exact others
  | launched hname _ _ _ | resumed hname _ _ _ _ =>
    rcases needless with h | ⟨cause, h⟩ | ⟨group, h⟩ | ⟨_, _, builtin, h, hbuiltin, hne⟩
    · cases h
    · cases h
    · cases h
    · cases h
      rw [hname] at hbuiltin
      cases hbuiltin <;> exact absurd rfl hne

theorem Session.terminal_eq {lines : List (List Event)} (h : Session terminal lines shell) :
    shell.terminal = terminal := h.course.terminal_eq

/-- A shell that owns its terminal at first owns it between any two lines. -/
theorem Session.ownerAfter_eq {lines : List (List Event)}
    (h : Session (.owned own modes) lines shell) (reclaims : AlwaysReclaims own lines.flatten) :
    ownerAfter own lines.flatten = own := by
  induction h with
  | fresh => rfl
  | line before run ih =>
    rw [List.flatten_append, List.flatten_singleton] at reclaims ⊢
    rw [ownerAfter_append, ih reclaims.of_append.1]
    exact (custody_of_execute run).2.ownerAfter_eq before.terminal_eq reclaims.of_append.2

/-- **In every run of a line by a shell that owns its terminal, a job is waited for without end only
while it has the terminal, which is lent to it once and taken back, with its modes, once after that;
lines that need no terminal leave it alone.  So the shell owns the terminal between any two lines,
if it owned it at first and taking it back never fails.  A detached shell never touches the
terminal.** -/
theorem terminal_lent_and_taken_back :
    (∀ own modes shell tokens rounds events shell' report, shell.terminal = .owned own modes →
      (Line.execute shell tokens rounds).Run events (shell', report) →
      shell'.terminal = .owned own modes ∧ Line.Custody shell tokens report events ∧
        (Line.NeedsNoTerminal tokens report → Aside events)) ∧
    (∀ own modes lines shell, Session (.owned own modes) lines shell →
      AlwaysReclaims own lines.flatten → ownerAfter own lines.flatten = own) ∧
    ∀ own shell tokens rounds events shell' report, shell.terminal = .detached own →
      (Line.execute shell tokens rounds).Run events (shell', report) →
      shell'.terminal = .detached own ∧ ∀ e ∈ events, e.call.changesTerminal = false := by
  refine ⟨fun own modes shell tokens rounds events shell' report owned run => ?_,
    fun own modes lines shell h => h.ownerAfter_eq,
    fun own shell tokens rounds events shell' report detached run => ?_⟩
  · obtain ⟨kept, custody⟩ := custody_of_execute run
    exact ⟨kept.trans owned, custody, custody.aside_of_needsNoTerminal⟩
  · obtain ⟨kept, custody⟩ := custody_of_execute run
    exact ⟨kept.trans detached, custody.spares_detached detached⟩

namespace Sample

/-- A shell on a terminal, with some jobs. -/
def onTerminal (jobs : JobTable) : Shell := { terminal := .owned 1 (some .initial), jobs }

/-- Group 7 in the background, stopped. -/
def stopped : JobTable where
  background := some ⟨7, [⟨7, .stopped .tstp⟩], false, some (.stopped .tstp)⟩

/-- The line `/a` is launched in the foreground, and its process stops. -/
def suspending : List Event := [
  ⟨.environment "PATH", none⟩, ⟨.metadata (Text.toBytes "/a"), .ok ⟨.regular, 0o755, 0⟩⟩,
  ⟨.fork ⟨program, none, none, none⟩, .ok 7⟩, ⟨.setGroup 7 7, .ok ()⟩,
  ⟨.setTerminalGroup 7, .ok ()⟩, ⟨.wait 7 .untilStopped, .ok (.stopped .tstp)⟩,
  ⟨.log (.movedToBackground 7), ()⟩,
  ⟨.setTerminalGroup 1, .ok ()⟩, ⟨.setModes .initial, .ok ()⟩, ⟨.say (.changed 7 .stopped), ()⟩]

/-- The line `fg` lends the terminal to a group that cannot go on. -/
def refusing : List Event := [
  ⟨.wait 7 .collect, .ok .stillAlive⟩, ⟨.setTerminalGroup 7, .ok ()⟩,
  ⟨.signalGroup 7 .cont, .error .eperm⟩,
  ⟨.setTerminalGroup 1, .ok ()⟩, ⟨.setModes .initial, .ok ()⟩,
  ⟨.say (.complaint "fg" Errno.eperm.symbolic), ()⟩]

theorem run_suspending : (Line.execute (onTerminal {}) ["/a"] 2).Run suspending
    (onTerminal stopped, .foreground ⟨7, .stopped, some (.stopped .tstp)⟩) :=
  .ask (.ask (.ask (.ask (.ask (.ask (.ask (.ask (.ask (.ask (.done _))))))))))

theorem run_refusing : (Line.execute (onTerminal stopped) ["fg"] 2).Run refusing
    (onTerminal stopped, .builtin 1) :=
  .ask (.ask (.ask (.ask (.ask (.ask (.done _))))))

end Sample

/-- After a job has stopped and could not be made to go on, the shell owns the terminal; the second
loan is for the job that the first line left in the background. -/
theorem terminal_back_after_refusal :
    ownerAfter 1 [Sample.suspending, Sample.refusing].flatten = 1 ∧
      Line.Custody (Sample.onTerminal Sample.stopped) ["fg"] (.builtin 1) Sample.refusing := by
  obtain ⟨lines, owner, -⟩ := terminal_lent_and_taken_back
  have session : Session (.owned 1 (some .initial)) [Sample.suspending, Sample.refusing]
      (Sample.onTerminal Sample.stopped) :=
    .line (.line .fresh Sample.run_suspending) Sample.run_refusing
  refine ⟨owner _ _ _ _ session ?_, (lines _ _ _ _ _ _ _ _ rfl Sample.run_refusing).2.1⟩
  intro answer hanswer
  simpa [Sample.suspending, Sample.refusing] using hanswer

end JobControl
