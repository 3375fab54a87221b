import JobControl.Proofs.Launch

/-!
# The ways of a line

What the parts of a line come to, one case for each way: a job brought to the foreground or let go
on in the background, a builtin, a pipeline that is launched, and the line itself.  What is proved
of a line is proved by cases on these.

## Main definitions

* `Ordinary events` — events that change neither a process nor the terminal, and announce no job.
* `Shell.Foregrounded`, `Shell.Backgrounded` — how the background job is made to go on.
* `Builtin.Ran` — how a builtin is carried out.
* `Line.Tracks` — how a job just launched is followed.
* `Line.Evaluated` — how the pipeline of a line is launched.
* `Line.Executed` — how a line is carried out, once it was collected what is to be reported.

## Main results

* `foregrounded_of_run`, `backgrounded_of_run`, `ran_of_run`, `tracks_of_run`, `evaluated_of_run`,
  `executed_of_run` — every run is of one of these forms.
-/

namespace JobControl

open JobControl.Action (run_pure_iff run_pair_iff run_bind_iff run_bind_pure_iff run_bind_pair_iff
  run_ask_bind_iff)

variable {shell shell' : Shell} {job : Job} {rounds : Nat} {events more : List Event}

/-- Every event is an ordinary one. -/
def Ordinary (events : List Event) : Prop := ∀ e ∈ events, e.call.isOrdinary = true

@[simp] theorem ordinary_nil : Ordinary [] := List.forall_mem_nil _

@[simp] theorem ordinary_cons {e : Event} :
    Ordinary (e :: events) ↔ e.call.isOrdinary = true ∧ Ordinary events := List.forall_mem_cons

theorem Ordinary.quiet (h : Ordinary events) : Quiet events :=
  fun e he => Call.isQuiet_of_isOrdinary (h e he)

/-! ### Going on -/

/-- What is said of a job that was waited for: that it stopped, unless it is done. -/
def Outcome.announcement (outcome : Outcome) : List Event :=
  if outcome.state ≠ .done then [⟨.say (.changed outcome.pgid .stopped), ()⟩] else []

theorem Outcome.quiet_announcement (outcome : Outcome) : Quiet outcome.announcement := by
  unfold Outcome.announcement
  split
  · exact quiet_cons.mpr ⟨rfl, quiet_nil⟩
  · exact quiet_nil

/-- A job is waited for, the terminal is taken back, and it is said if the job stopped. -/
theorem waited_of_run {outcome : Outcome}
    (h : (shell.waitAndReclaim job rounds).Run events (shell', outcome)) :
    ∃ waiting back jobs, events = waiting ++ (back ++ outcome.announcement) ∧
      shell' = { shell with jobs } ∧
      (shell.jobs.waitForeground job rounds).Run waiting (jobs, outcome) ∧
      (shell.terminal.reclaim rounds).Run back () := by
  obtain ⟨waiting, others, ⟨jobs, ended⟩, rfl, hwait, hothers⟩ := run_bind_iff.mp h
  obtain ⟨back, last, _, rfl, hreclaim, hlast⟩ := run_bind_iff.mp hothers
  by_cases hdone : ended.state ≠ .done
  · rw [if_pos hdone] at hlast
    obtain ⟨_, ending, rfl, hending⟩ := run_ask_bind_iff.mp hlast
    obtain ⟨rfl, rfl, rfl⟩ := run_pair_iff.mp hending
    exact ⟨waiting, back, jobs, by rw [Outcome.announcement, if_pos hdone], rfl, hwait, hreclaim⟩
  · rw [if_neg hdone] at hlast
    obtain ⟨rfl, rfl, rfl⟩ := run_pair_iff.mp hlast
    exact ⟨waiting, back, jobs, by rw [Outcome.announcement, if_neg hdone], rfl, hwait, hreclaim⟩

/-- How the background job is brought to the foreground. -/
inductive Shell.Foregrounded (shell : Shell) (rounds : Nat) :
    List Event → Shell → Except Errno (Option Outcome) → Prop
  | noJob : shell.jobs.background = none → Foregrounded shell rounds [] shell (.ok none)
  /-- The job cannot go on, and is put back. -/
  | refused {job : Job} {lending resuming back placing : List Event} {errno : Errno}
      {jobs : JobTable} : shell.jobs.background = some job →
      (shell.terminal.handTo job.pgid rounds).Run lending () →
      (job.resume rounds).Run resuming (.error errno) →
      (shell.terminal.reclaim rounds).Run back () →
      (JobTable.setBackground { shell.jobs with background := none } job rounds).Run placing jobs →
      Foregrounded shell rounds (lending ++ (resuming ++ (back ++ placing))) { shell with jobs }
        (.error errno)
  /-- The job goes on and is waited for. -/
  | waited {job resumed : Job} {lending resuming waiting : List Event} {after : Shell}
      {outcome : Outcome} : shell.jobs.background = some job →
      (shell.terminal.handTo job.pgid rounds).Run lending () →
      (job.resume rounds).Run resuming (.ok resumed) →
      (Shell.waitAndReclaim { shell with jobs := { shell.jobs with background := none } } resumed
        rounds).Run waiting (after, outcome) →
      Foregrounded shell rounds (lending ++ (resuming ++ waiting)) after (.ok (some outcome))

theorem foregrounded_of_run {result : Except Errno (Option Outcome)}
    (h : (shell.resumeForeground rounds).Run events (shell', result)) :
    shell.Foregrounded rounds events shell' result := by
  cases hbackground : shell.jobs.background with
  | none =>
    simp only [Shell.resumeForeground, hbackground] at h
    obtain ⟨rfl, rfl, rfl⟩ := run_pair_iff.mp h
    exact .noJob hbackground
  | some job =>
    simp only [Shell.resumeForeground, hbackground] at h
    obtain ⟨lending, others, _, rfl, hhand, hothers⟩ := run_bind_iff.mp h
    obtain ⟨resuming, rest, resumed, rfl, hresume, hrest⟩ := run_bind_iff.mp hothers
    cases resumed with
    | error e =>
      obtain ⟨back, placing, _, rfl, hreclaim, hplacing⟩ := run_bind_iff.mp hrest
      obtain ⟨jobs, hplace, rfl, rfl⟩ := run_bind_pair_iff.mp hplacing
      exact .refused hbackground hhand hresume hreclaim hplace
    | ok resumed =>
      obtain ⟨⟨waited, outcome⟩, hwait, rfl, rfl⟩ := run_bind_pair_iff.mp hrest
      exact .waited hbackground hhand hresume hwait

/-- How the background job is let go on where it is. -/
inductive Shell.Backgrounded (shell : Shell) (rounds : Nat) :
    List Event → Shell → Except Errno (Option Pid) → Prop
  | noJob : shell.jobs.background = none → Backgrounded shell rounds [] shell (.ok none)
  | running {job : Job} : shell.jobs.background = some job → job.state ≠ .stopped →
      Backgrounded shell rounds [] shell (.ok (some job.pgid))
  | refused {job : Job} {resuming : List Event} {errno : Errno} :
      shell.jobs.background = some job → job.state = .stopped →
      (job.resume rounds).Run resuming (.error errno) →
      Backgrounded shell rounds resuming shell (.error errno)
  | resumed {job resumed : Job} {resuming : List Event} :
      shell.jobs.background = some job → job.state = .stopped →
      (job.resume rounds).Run resuming (.ok resumed) →
      Backgrounded shell rounds (resuming ++ [⟨.say (.changed resumed.pgid .running), ()⟩])
        { shell with jobs := { shell.jobs with background := some resumed } }
        (.ok (some resumed.pgid))

theorem backgrounded_of_run {result : Except Errno (Option Pid)}
    (h : (shell.resumeBackground rounds).Run events (shell', result)) :
    shell.Backgrounded rounds events shell' result := by
  cases hbackground : shell.jobs.background with
  | none =>
    simp only [Shell.resumeBackground, hbackground] at h
    obtain ⟨rfl, rfl, rfl⟩ := run_pair_iff.mp h
    exact .noJob hbackground
  | some job =>
    simp only [Shell.resumeBackground, hbackground] at h
    split at h
    · next running =>
      obtain ⟨rfl, rfl, rfl⟩ := run_pair_iff.mp h
      exact .running hbackground running
    · next stopped =>
      have stopped := Decidable.not_not.mp stopped
      obtain ⟨resuming, rest, resumed, rfl, hresume, hrest⟩ := run_bind_iff.mp h
      cases resumed with
      | error e =>
        obtain ⟨rfl, rfl, rfl⟩ := run_pair_iff.mp hrest
        rw [List.append_nil]
        exact .refused hbackground stopped hresume
      | ok resumed =>
        obtain ⟨_, last, rfl, hlast⟩ := run_ask_bind_iff.mp hrest
        obtain ⟨rfl, rfl, rfl⟩ := run_pair_iff.mp hlast
        exact .resumed hbackground stopped hresume

/-! ### Builtins -/

/-- How a builtin is carried out: only two concern a job, and each of these carries out one
operation and then complains if that failed.  The status of a job that was waited for is that of the
line. -/
inductive Builtin.Ran (shell : Shell) (rounds : Nat) :
    Builtin → List Event → Shell → BuiltinResult → Prop
  | ordinary {builtin : Builtin} {events : List Event} {result : BuiltinResult} :
      builtin ≠ .foreground → builtin ≠ .background → Ordinary events →
      Ran shell rounds builtin events shell result
  | foreground {resuming rest : List Event} {after : Shell}
      {answer : Except Errno (Option Outcome)} {status : Nat} :
      (shell.resumeForeground rounds).Run resuming (after, answer) →
      (∀ outcome, answer = .ok (some outcome) → status = (outcome.code % 256).toNat) →
      Ordinary rest →
      Ran shell rounds .foreground (resuming ++ rest) after (.status status)
  | background {resuming rest : List Event} {after : Shell} {answer : Except Errno (Option Pid)}
      {status : Nat} :
      (shell.resumeBackground rounds).Run resuming (after, answer) → Ordinary rest →
      Ran shell rounds .background (resuming ++ rest) after (.status status)

/-- An ordinary action whose value goes with an unchanged shell. -/
theorem run_ordinary_with {α : Type} {a : Action α} (ordinary : a.IsOrdinary) {value : α}
    (h : ((do return (shell, ← a) : Action (Shell × α)) rounds).Run events (shell', value)) :
    Ordinary events ∧ shell' = shell := by
  obtain ⟨_, hask, kept, -⟩ := run_bind_pair_iff.mp h
  exact ⟨ordinary.of_run hask, kept⟩

/-- A complaint is made with an unchanged shell, and is a status. -/
theorem run_complain_with {name cause : String} {status : Nat} {result : BuiltinResult}
    (h : ((do return (shell, ← Builtin.complain name cause status) :
      Action (Shell × BuiltinResult)) rounds).Run events (shell', result)) :
    Ordinary events ∧ shell' = shell ∧ result = .status status := by
  obtain ⟨answer, hcomplain, kept, rfl⟩ := run_bind_pair_iff.mp h
  obtain ⟨_, last, rfl, hlast⟩ := run_ask_bind_iff.mp hcomplain
  obtain ⟨rfl, rfl⟩ := run_pure_iff.mp hlast
  exact ⟨ordinary_cons.mpr ⟨rfl, ordinary_nil⟩, kept, rfl⟩

theorem ran_of_run {builtin : Builtin} {arguments : List String} {result : BuiltinResult}
    (h : (builtin.run shell arguments rounds).Run events (shell', result)) :
    builtin.Ran shell rounds events shell' result := by
  have ordinary : ∀ {b : Builtin}, b ≠ .foreground → b ≠ .background →
      Ordinary events ∧ shell' = shell → b.Ran shell rounds events shell' result := by
    rintro b hforeground hbackground ⟨events_ordinary, rfl⟩
    exact .ordinary hforeground hbackground events_ordinary
  cases builtin with
  | help =>
    obtain ⟨_, last, rfl, hlast⟩ := run_ask_bind_iff.mp h
    obtain ⟨rfl, kept, -⟩ := run_pair_iff.mp hlast
    exact ordinary nofun nofun ⟨ordinary_cons.mpr ⟨rfl, ordinary_nil⟩, kept⟩
  | exit => exact ordinary nofun nofun (run_ordinary_with (ordinary_leave _) h)
  | changeDirectory => exact ordinary nofun nofun (run_ordinary_with (ordinary_goTo _) h)
  | workingDirectory => exact ordinary nofun nofun (run_ordinary_with ordinary_showDirectory h)
  | foreground =>
    obtain ⟨resuming, rest, ⟨after, answer⟩, rfl, hresume, hrest⟩ := run_bind_iff.mp h
    rcases answer with e | _ | outcome
    · obtain ⟨complaining, rfl, rfl⟩ := run_complain_with hrest
      exact .foreground hresume nofun complaining
    · obtain ⟨complaining, rfl, rfl⟩ := run_complain_with hrest
      exact .foreground hresume nofun complaining
    · obtain ⟨rfl, rfl, rfl⟩ := run_pair_iff.mp hrest
      refine .foreground hresume (fun waited heq => ?_) ordinary_nil
      rw [Option.some.inj (Except.ok.inj heq)]
  | background =>
    obtain ⟨resuming, rest, ⟨after, answer⟩, rfl, hresume, hrest⟩ := run_bind_iff.mp h
    rcases answer with e | _ | group
    · obtain ⟨complaining, rfl, rfl⟩ := run_complain_with hrest
      exact .background hresume complaining
    · obtain ⟨complaining, rfl, rfl⟩ := run_complain_with hrest
      exact .background hresume complaining
    · obtain ⟨rfl, rfl, rfl⟩ := run_pair_iff.mp hrest
      exact .background hresume ordinary_nil
  | foregroundGroup => exact ordinary nofun nofun (run_ordinary_with (ordinary_showGroup _) h)
  | backgroundGroup => exact ordinary nofun nofun (run_ordinary_with (ordinary_showGroup _) h)
  | terminalGroup =>
    obtain ⟨answer, rest, rfl, hrest⟩ := run_ask_bind_iff.mp h
    have ends : Ordinary rest ∧ shell' = shell := by
      cases answer with
      | ok group => exact run_ordinary_with (ordinary_showGroup _) hrest
      | error e => exact run_ordinary_with (ordinary_complain _ _ _) hrest
    exact ordinary nofun nofun ⟨ordinary_cons.mpr ⟨rfl, ends.1⟩, ends.2⟩

/-! ### Launching -/

/-- A job launched in the background is the background job. -/
theorem background_of_launchBackground {group : Pid}
    (h : (shell.launchBackground job rounds).Run events (shell', group)) :
    group = job.pgid ∧ shell'.jobs.background = some { job with foreground := false } := by
  obtain ⟨_, placing, -, hplacing⟩ := run_ask_bind_iff.mp h
  obtain ⟨jobs, hplace, rfl, rfl⟩ := run_bind_pair_iff.mp hplacing
  refine ⟨rfl, ?_⟩
  obtain ⟨terminal, foreground, background, disowned⟩ := shell
  cases background with
  | none =>
    obtain ⟨-, rfl⟩ := run_pure_iff.mp hplace
    rfl
  | some previous =>
    obtain ⟨_, -, rfl⟩ := run_bind_pure_iff.mp hplace
    rfl

/-- A job just launched is put into the background, or run in the foreground. -/
inductive Line.Tracks (shell : Shell) (rounds : Nat) (job : Job) :
    Bool → List Event → Shell → Report → Prop
  | background {tracking : List Event} {after : Shell} :
      (shell.launchBackground job rounds).Run tracking (after, job.pgid) →
      after.jobs.background = some job →
      Tracks shell rounds job true tracking after (.background job.pgid)
  | foreground {tracking : List Event} {after : Shell} {outcome : Outcome} :
      (shell.runForeground job rounds).Run tracking (after, outcome) →
      Tracks shell rounds job false tracking after (.foreground outcome)

/-- What was started is followed as one job, where the line asked for it. -/
theorem tracks_of_run {started : List Pid} {background : Bool} {report : Report}
    (hjob : Job.ofPids? started (!background) = some job)
    (h : (Line.track shell started background rounds).Run events (shell', report)) :
    Line.Tracks shell rounds job background events shell' report := by
  rw [Line.track, hjob] at h
  cases background with
  | true =>
    obtain ⟨⟨after, group⟩, hlaunch, rfl, rfl⟩ := run_bind_pair_iff.mp h
    obtain ⟨rfl, placed⟩ := background_of_launchBackground hlaunch
    have marked : ({ job with foreground := false } : Job) = job := by
      cases started with
      | nil => cases hjob
      | cons pid pids => cases hjob; rfl
    exact .background hlaunch (marked ▸ placed)
  | false =>
    obtain ⟨⟨after, outcome⟩, hrun, rfl, rfl⟩ := run_bind_pair_iff.mp h
    exact .foreground hrun

/-- What is said of the stages that could not be started. -/
def complaint (failure : Option LaunchError) : List Event :=
  failure.toList.map fun e => ⟨.say (.incomplete e), ()⟩

theorem ordinary_complaint (failure : Option LaunchError) : Ordinary (complaint failure) := by
  cases failure with
  | none => exact ordinary_nil
  | some e => exact ordinary_cons.mpr ⟨rfl, ordinary_nil⟩

/-- How the pipeline that the words of a line spell is launched. -/
inductive Line.Evaluated (shell : Shell) (tokens : List String) (rounds : Nat) :
    List Event → Shell → Report → Prop
  /-- The words spell no pipeline. -/
  | malformed {e : SyntaxError} : Pipeline.ofTokens tokens = .error e →
      Evaluated shell tokens rounds [⟨.say (.rejected (.malformed e)), ()⟩] shell
        (.rejected (.malformed e))
  /-- A program is not found, or a file cannot be opened. -/
  | unprepared {pipeline : Pipeline} {preparing : List Event} {cause : Rejection} :
      Pipeline.ofTokens tokens = .ok pipeline →
      (Stage.prepare pipeline rounds).Run preparing (.error cause) →
      Evaluated shell tokens rounds (preparing ++ [⟨.say (.rejected cause), ()⟩]) shell
        (.rejected cause)
  /-- Nothing could be started. -/
  | unlaunched {pipeline : Pipeline} {stages : List Stage} {preparing launching : List Event}
      {e : LaunchError} : Pipeline.ofTokens tokens = .ok pipeline →
      (Stage.prepare pipeline rounds).Run preparing (.ok stages) →
      (Spawn.stages none [] stages rounds).Run launching ([], some e) →
      Evaluated shell tokens rounds
        (preparing ++ (launching ++ [⟨.say (.rejected (.launch e)), ()⟩])) shell
        (.rejected (.launch e))
  /-- What could be started is followed as one job. -/
  | launched {pipeline : Pipeline} {stages : List Stage} {preparing launching tracking : List Event}
      {started : List Pid} {failure : Option LaunchError} {after : Shell} {report : Report} :
      Pipeline.ofTokens tokens = .ok pipeline →
      (Stage.prepare pipeline rounds).Run preparing (.ok stages) →
      (Spawn.stages none [] stages rounds).Run launching (started, failure) →
      (started = [] → failure = none) →
      (Line.track shell started pipeline.background rounds).Run tracking (after, report) →
      Evaluated shell tokens rounds (preparing ++ (launching ++ (complaint failure ++ tracking)))
        after report

theorem run_reject {cause : Rejection} {report : Report}
    (h : (Line.reject shell cause rounds).Run events (shell', report)) :
    events = [⟨.say (.rejected cause), ()⟩] ∧ shell' = shell ∧ report = .rejected cause := by
  obtain ⟨_, last, rfl, hlast⟩ := run_ask_bind_iff.mp h
  obtain ⟨rfl, rfl, rfl⟩ := run_pair_iff.mp hlast
  exact ⟨rfl, rfl, rfl⟩

theorem evaluated_of_run {tokens : List String} {report : Report}
    (h : (Line.evaluate shell tokens rounds).Run events (shell', report)) :
    Line.Evaluated shell tokens rounds events shell' report := by
  cases parsed : Pipeline.ofTokens tokens with
  | error e =>
    simp only [Line.evaluate, parsed] at h
    obtain ⟨rfl, rfl, rfl⟩ := run_reject h
    exact .malformed parsed
  | ok pipeline =>
    simp only [Line.evaluate, parsed] at h
    obtain ⟨preparing, others, prepared, rfl, hprepare, hothers⟩ := run_bind_iff.mp h
    cases prepared with
    | error cause =>
      obtain ⟨rfl, rfl, rfl⟩ := run_reject hothers
      exact .unprepared parsed hprepare
    | ok stages =>
      obtain ⟨launching, last, ⟨started, failure⟩, rfl, hlaunch, hlast⟩ := run_bind_iff.mp hothers
      cases failure with
      | none => cases started <;> exact .launched parsed hprepare hlaunch (fun _ => rfl) hlast
      | some e =>
        cases started with
        | nil =>
          obtain ⟨rfl, rfl, rfl⟩ := run_reject hlast
          exact .unlaunched parsed hprepare hlaunch
        | cons pid pids =>
          obtain ⟨_, tracking, rfl, htrack⟩ := run_ask_bind_iff.mp hlast
          exact .launched parsed hprepare hlaunch nofun htrack

/-! ### Lines -/

/-- How a line is carried out, once it was collected what is to be reported. -/
inductive Line.Executed (shell : Shell) (rounds : Nat) :
    List String → List Event → Shell → Report → Prop
  | empty : Executed shell rounds [] [] shell .empty
  | pipeline {name : String} {arguments : List String} {events : List Event} {after : Shell}
      {report : Report} : Builtin.ofName? name = none →
      (Line.evaluate shell (name :: arguments) rounds).Run events (after, report) →
      Executed shell rounds (name :: arguments) events after report
  | builtin {name : String} {arguments : List String} {builtin : Builtin} {events : List Event}
      {after : Shell} {status : Nat} : Builtin.ofName? name = some builtin →
      (builtin.run shell arguments rounds).Run events (after, .status status) →
      Executed shell rounds (name :: arguments) events after (.builtin status)
  | exit {name : String} {arguments : List String} {builtin : Builtin} {events : List Event}
      {after : Shell} {code : Int} : Builtin.ofName? name = some builtin →
      (builtin.run shell arguments rounds).Run events (after, .exit code) →
      Executed shell rounds (name :: arguments) events after (.exit code)

/-- **A line collects what is to be reported, and is then carried out in one of these ways.** -/
theorem executed_of_run {tokens : List String} {report : Report}
    (h : (Line.execute shell tokens rounds).Run events (shell', report)) :
    ∃ reaping rest middle, events = reaping ++ rest ∧
      (shell.reapBackground rounds).Run reaping middle ∧
      Line.Executed middle rounds tokens rest shell' report := by
  obtain ⟨reaping, rest, middle, rfl, hreap, hrest⟩ := run_bind_iff.mp h
  refine ⟨reaping, rest, middle, rfl, hreap, ?_⟩
  cases tokens with
  | nil =>
    obtain ⟨rfl, rfl, rfl⟩ := run_pair_iff.mp hrest
    exact .empty
  | cons name arguments =>
    cases hname : Builtin.ofName? name with
    | none =>
      simp only [hname] at hrest
      exact .pipeline hname hrest
    | some builtin =>
      simp only [hname] at hrest
      obtain ⟨running, last, ⟨after, result⟩, rfl, hrun, hlast⟩ := run_bind_iff.mp hrest
      cases result with
      | status status =>
        obtain ⟨rfl, rfl, rfl⟩ := run_pair_iff.mp hlast
        rw [List.append_nil]
        exact .builtin hname hrun
      | exit code =>
        obtain ⟨rfl, rfl, rfl⟩ := run_pair_iff.mp hlast
        rw [List.append_nil]
        exact .exit hname hrun

end JobControl
