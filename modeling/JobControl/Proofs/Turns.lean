import JobControl.Proofs.Reports

/-!
# What a line does to its jobs, and tells of it

After it has collected what is to be reported, a line leaves the jobs alone, takes the background
job from its place, changes its state, or puts the job that it has started there.  What the user is
told goes with it, whatever the system answers, as long as a wait without end is not answered with
news of a running process.

## Main definitions

* `announced events` — the groups and states that the user is told, in order.
* `Patient events` — a wait without end tells of a process that ended or stopped.
* `Job.From pids` — the job is what is left of some processes just started.
* `JobTable.Turns` — what a line does to the jobs after it has collected what is to be reported.

## Main results

* `Inquiry.Surveyed.stopped_of_alive` — a job that was waited for patiently is done or stopped.
* `turns_of_executed` — **every line is of the form that `JobTable.Turns` tells.**
-/

namespace JobControl

open JobControl.Action (run_bind_iff run_bind_pair_iff run_pair_iff run_ask_bind_iff)
open JobTable

/-! ### What the user is told -/

/-- The group of a job and its state, if an event tells of one.  A job just launched is running. -/
def Event.announcement? : Event → Option (Pid × State)
  | ⟨.say (.launched group), _⟩ => some (group, .running)
  | ⟨.say (.changed group state), _⟩ => some (group, state)
  | _ => none

/-- The groups and states that the user is told, in order. -/
def announced (events : List Event) : List (Pid × State) := events.filterMap Event.announcement?

/-- The request tells the user of a job. -/
def Call.announces : Call → Bool
  | .say (.launched _) | .say (.changed _ _) => true
  | _ => false

/-- An action that tells nothing of jobs. -/
abbrev Action.IsSilent {α : Type} (a : Action α) : Prop := a.Only fun c => c.announces = false

/-- A wait without end is answered when the process has ended or stopped. -/
def Patient (events : List Event) : Prop :=
  ∀ pid flags status, ⟨.wait pid flags, .ok status⟩ ∈ events → flags.noHang = false →
    status.state ≠ .running

variable {shell shell' : Shell} {job : Job} {rounds : Nat} {events more : List Event}

@[simp] theorem announced_append :
    announced (events ++ more) = announced events ++ announced more :=
  List.filterMap_append

theorem announced_eq_nil (h : ∀ e ∈ events, e.call.announces = false) : announced events = [] := by
  refine List.filterMap_eq_nil_iff.mpr fun e he => ?_
  have silent := h e he
  obtain ⟨call, answer⟩ := e
  cases call with
  | say message =>
    cases message with
    | launched _ | changed _ _ => cases silent
    | _ => rfl
  | _ => rfl

theorem Action.Only.announced_eq {α : Type} {a : Action α} {value : α} (h : a.IsSilent)
    (run : (a rounds).Run events value) : announced events = [] :=
  announced_eq_nil (h.of_run run)

theorem Ordinary.announced_eq (h : Ordinary events) : announced events = [] := by
  refine announced_eq_nil fun e he => ?_
  have ordinary := h e he
  obtain ⟨call, answer⟩ := e
  cases call with
  | say message =>
    cases message with
    | launched _ | changed _ _ => cases ordinary
    | _ => rfl
  | _ => rfl

theorem Complains.announced_eq (h : Complains events) : announced events = [] := by
  refine announced_eq_nil fun e he => ?_
  obtain ⟨failure, hcall⟩ := h e he
  rw [hcall]
  rfl

theorem Outcome.announced_of_done {outcome : Outcome} (h : outcome.state = .done) :
    announced outcome.announcement = [] := by
  rw [announcement, if_neg (not_not.mpr h)]
  rfl

theorem Outcome.announced_of_alive {outcome : Outcome} (h : outcome.state ≠ .done) :
    announced outcome.announcement = [(outcome.pgid, .stopped)] := by
  rw [announcement, if_pos h]
  rfl

theorem announced_announcement (change : Option (Pid × State)) :
    announced (announcement change) = change.toList := by
  cases change <;> rfl

theorem Patient.of_append (h : Patient (events ++ more)) : Patient events ∧ Patient more :=
  ⟨fun pid flags status he => h pid flags status (List.mem_append_left _ he),
    fun pid flags status he => h pid flags status (List.mem_append_right _ he)⟩

theorem Patient.of_cons {e : Event} (h : Patient (e :: events)) : Patient events :=
  fun pid flags status he => h pid flags status (List.mem_cons_of_mem _ he)

/-! ### Actions that tell nothing -/

theorem silent_resume (job : Job) : job.resume.IsSilent := only_resume (fun _ => rfl) fun _ _ => rfl

theorem silent_displace (job : Job) : (displace job).IsSilent :=
  only_displace (fun _ => rfl) fun _ _ => rfl

theorem silent_handTo (terminal : Terminal) (group : Pid) : (terminal.handTo group).IsSilent :=
  only_handTo (fun _ => rfl) fun _ => rfl

theorem silent_reclaim (terminal : Terminal) : terminal.reclaim.IsSilent :=
  only_reclaim (fun _ => rfl) (fun _ => rfl) fun _ => rfl

theorem silent_poll (job : Job) : job.poll.IsSilent := only_poll (fun _ => rfl) fun _ => rfl

theorem silent_stages (list : List Stage) (incoming : Option Fd) (started : List Pid) :
    (Spawn.stages incoming started list).IsSilent :=
  Spawn.only_stages (P := fun c => c.announces = false) rfl (fun _ => rfl) (fun _ _ => rfl)
    (fun _ => rfl) list incoming started

theorem JobTable.Takes.announced_eq {t t' : JobTable} (h : t.Takes job rounds events t') :
    announced events = [] := by
  cases h with
  | free _ => rfl
  | displacing _ hdisplace => exact (silent_displace _).announced_eq hdisplace

theorem Inquiry.Surveyed.announced_eq {q : Inquiry} {members : List Member} {found : Findings}
    (h : q.Surveyed members events found) : announced events = [] := by
  refine announced_eq_nil fun e he => ?_
  rcases h.asks e he with ⟨entry, hcall⟩ | ⟨member, -, -, hcall⟩
  · rw [hcall]
    rfl
  · rw [hcall]
    rfl

theorem Polled.announced_eq {polled kept : List Job} (h : Polled rounds polled events kept) :
    announced events = [] := by
  induction h with
  | nil => rfl
  | ended run _ _ ih | going run _ _ ih =>
    rw [announced_append, ih, (silent_poll _).announced_eq run]
    rfl

theorem JobTable.Collected.announced_eq {t t' : JobTable} {change : Option (Pid × State)}
    (h : t.Collected rounds events t' change) : announced events = [] := by
  cases h with
  | idle _ polled => exact polled.announced_eq
  | ended _ polled hpoll _ =>
    rw [announced_append, announced_append, polled.announced_eq, (silent_poll _).announced_eq hpoll]
    rfl
  | going _ polled hpoll _ =>
    rw [announced_append, polled.announced_eq, (silent_poll _).announced_eq hpoll]
    rfl

/-! ### Waiting in the foreground -/

/-- A member that was waited for patiently is not running, unless it could not be waited for. -/
theorem Inquiry.Surveyed.failed_of_running {members : List Member} {found : Findings}
    (h : Inquiry.blocking.Surveyed members events found) (patient : Patient events) :
    ∀ member ∈ found.members, member.status.state = .running →
      member.pid ∈ found.failures.map (·.pid) := by
  induction h with
  | nil => exact List.forall_mem_nil _
  | passed hpassed _ ih =>
    exact List.forall_mem_cons.mpr
      ⟨fun running => absurd running (of_decide_eq_false hpassed), ih patient⟩
  | interrupted _ _ ih => exact ih patient.of_cons
  | @recorded member _ _ _ status _ _ _ ih =>
    have answered := patient member.pid .untilStopped status List.mem_cons_self rfl
    exact List.forall_mem_cons.mpr
      ⟨fun running => absurd running answered, ih patient.of_cons⟩
  | unchanged _ hcounts _ _ => cases hcounts
  | failed _ _ _ ih =>
    have others := ih patient.of_cons.of_cons
    refine List.forall_mem_cons.mpr ⟨fun _ => List.mem_cons_self, fun member hmember running => ?_⟩
    exact List.mem_cons_of_mem _ (others member hmember running)

/-- **A job that was waited for patiently is done or stopped.** -/
theorem Inquiry.Surveyed.stopped_of_alive {found : Findings}
    (h : Inquiry.blocking.Surveyed job.members events found) (patient : Patient events)
    (alive : (job.record found).state ≠ .done) : (job.record found).state = .stopped := by
  cases hstate : (job.record found).state with
  | running =>
    -- members that could not be waited for are dropped
    obtain ⟨member, hmember, running⟩ := Job.state_eq_running_iff.mp hstate
    obtain ⟨hmember, kept⟩ := List.mem_filter.mp hmember
    have failed := h.failed_of_running patient member hmember running
    rw [List.contains_iff_mem.mpr failed] at kept
    cases kept
  | stopped => rfl
  | done => exact absurd hstate alive

/-- **A job that was waited for has ended, of which nothing is told, or it has stopped, which is
told, and is in the background.** -/
theorem told_of_waitAndReclaim {outcome : Outcome}
    (h : (shell.waitAndReclaim job rounds).Run events (shell', outcome))
    (free : shell.jobs.foreground = none) (patient : Patient events) :
    (shell'.jobs = shell.jobs ∧ announced events = []) ∨
      ∃ after placing, after.Descends job ∧ after.state = .stopped ∧
        shell.jobs.Takes after rounds placing shell'.jobs ∧
        announced events = [(after.pgid, after.state)] := by
  obtain ⟨waiting, back, jobs, rfl, rfl, hwait, hreclaim⟩ := waited_of_run h
  have unmoved : { shell.jobs with foreground := none } = shell.jobs := by rw [← free]
  have reclaimed := (silent_reclaim _).announced_eq hreclaim
  cases waited_of_waitForeground hwait with
  | @ended _ _ found hsurvey complains hdone =>
    have untold := @Outcome.announced_of_done (job.record found).outcome hdone
    refine .inl ⟨unmoved, ?_⟩
    simp only [announced_append, hsurvey.announced_eq, complains.announced_eq, reclaimed, untold,
      List.nil_append, List.append_nil]
    rfl
  | @moved _ _ placing found _ hsurvey complains halive takes =>
    have stopped := hsurvey.stopped_of_alive patient.of_append.1.of_append.1 halive
    have told := @Outcome.announced_of_alive (job.record found).outcome halive
    have logged : announced (⟨.log (.movedToBackground job.pgid), ()⟩ :: placing) = [] :=
      takes.announced_eq
    rw [unmoved] at takes
    refine .inr ⟨job.record found, placing, Job.descends_record hsurvey, stopped, takes, ?_⟩
    simp only [announced_append, hsurvey.announced_eq, complains.announced_eq, logged, reclaimed,
      told, List.nil_append, stopped]
    rfl

/-! ### What a line does to the jobs -/

/-- The job is what is left of some processes just started. -/
def Job.From (job : Job) (pids : List Pid) : Prop :=
  pids.head? = some job.pgid ∧ job.pids.Sublist pids

theorem Job.From.descends {job' : Job} {pids : List Pid} (h : job.From pids)
    (later : job'.Descends job) : job'.From pids :=
  ⟨later.1 ▸ h.1, later.2.trans h.2⟩

theorem from_of_ofPids? {pids : List Pid} {foreground : Bool}
    (h : Job.ofPids? pids foreground = some job) : job.From pids := by
  obtain ⟨hhead, hpids⟩ := mem_ofPids?_toList (Option.mem_toList.mpr h)
  exact ⟨hhead, hpids ▸ .refl _⟩

/-- What a line that starts some processes does to a table, after it has collected what is to be
reported, and what it tells of that. -/
inductive JobTable.Turns (pids : List Pid) (t : JobTable) : List (Pid × State) → JobTable → Prop
  | stays : Turns pids t [] t
  /-- The job in the background is brought to the foreground, and ends there. -/
  | leaves : Turns pids t [] { t with background := none }
  /-- The job in the background goes on or stops. -/
  | changes {job after : Job} : t.background = some job → after.Descends job → after.state ≠ .done →
      Turns pids t [(after.pgid, after.state)] { t with background := some after }
  /-- The job of the processes started is in the background. -/
  | takes {job : Job} {rounds : Nat} {placing : List Event} {t' : JobTable} : job.From pids →
      job.state ≠ .done → t.Takes job rounds placing t' →
      Turns pids t [(job.pgid, job.state)] t'

theorem turns_of_track {started : List Pid} {background : Bool} {report : Report}
    (h : (Line.track shell started background rounds).Run events (shell', report))
    (settled : shell.jobs.Settled) (patient : Patient events) :
    shell.jobs.Turns started (announced events) shell'.jobs := by
  cases hjob : Job.ofPids? started !background with
  | none =>
    rw [Line.track, hjob] at h
    obtain ⟨rfl, rfl, -⟩ := run_pair_iff.mp h
    exact .stays
  | some job =>
    have launched := from_of_ofPids? hjob
    cases tracks_of_run hjob h with
    | background hlaunch _ =>
      obtain ⟨_, placing, rfl, hplacing⟩ := run_ask_bind_iff.mp hlaunch
      obtain ⟨jobs, hplace, rfl, -⟩ := run_bind_pair_iff.mp hplacing
      have takes := takes_of_run hplace
      have told : announced (⟨.say (.launched job.pgid), ()⟩ :: placing) =
          [(job.pgid, job.state)] := by
        rw [running_of_ofPids? hjob]
        exact congrArg (List.cons (job.pgid, State.running)) takes.announced_eq
      rw [told]
      exact .takes launched (alive_of_ofPids? hjob) takes
    | foreground hrun =>
      obtain ⟨handing, waiting, _, rfl, hhand, hwait⟩ := run_bind_iff.mp hrun
      rw [announced_append, (silent_handTo _ _).announced_eq hhand, List.nil_append]
      rcases told_of_waitAndReclaim hwait settled.free patient.of_append.2 with
        ⟨kept, told⟩ | ⟨after, placing, descends, stopped, takes, told⟩
      · rw [kept, told]
        exact .stays
      · rw [told]
        refine .takes (launched.descends descends) ?_ takes
        rw [stopped]
        decide

/-- **A job brought to the foreground ends there, of which nothing is told; or it stops, which is
told, and is in the background again; or it could not go on.** -/
theorem turns_of_resumeForeground {result : Except Errno (Option Outcome)} {pids : List Pid}
    (h : (shell.resumeForeground rounds).Run events (shell', result))
    (settled : shell.jobs.Settled) (patient : Patient events) :
    shell.jobs.Turns pids (announced events) shell'.jobs := by
  cases foregrounded_of_run h with
  | noJob _ => exact .stays
  | @refused job _ _ _ _ _ jobs hbackground hhand hresume hreclaim hplace =>
    have takes := takes_of_run hplace
    simp only [announced_append, (silent_handTo _ _).announced_eq hhand,
      (silent_resume _).announced_eq hresume, (silent_reclaim _).announced_eq hreclaim,
      takes.announced_eq, List.nil_append]
    -- the job is put back as it was
    have same : jobs = shell.jobs := by
      obtain ⟨-, -, -, placed⟩ := settled.take hbackground
      cases takes with
      | free _ => rw [← placed, ← hbackground]
      | displacing none _ => cases none
    rw [same]
    exact .stays
  | @waited job _ _ _ _ _ _ hbackground hhand hresume hwait =>
    obtain rfl := eq_resumed_of_run hresume
    rw [announced_append, announced_append, (silent_handTo _ _).announced_eq hhand,
      (silent_resume _).announced_eq hresume, List.nil_append, List.nil_append]
    have patient := patient.of_append.2.of_append.2
    rcases told_of_waitAndReclaim hwait settled.free patient with
      ⟨kept, told⟩ | ⟨after, placing, descends, stopped, takes, told⟩
    · rw [kept, told]
      exact .leaves
    · rw [told]
      generalize shell'.jobs = jobs at takes ⊢
      cases takes with
      | free _ =>
        refine @JobTable.Turns.changes _ _ _ { after with foreground := false } hbackground
          (descends.trans job.descends_resumed) ?_
        rw [show ({ after with foreground := false } : Job).state = after.state from rfl, stopped]
        nofun
      | displacing none _ => cases none

/-- **A stopped job that goes on in the background is announced as running.** -/
theorem turns_of_resumeBackground {result : Except Errno (Option Pid)} {pids : List Pid}
    (h : (shell.resumeBackground rounds).Run events (shell', result)) :
    shell.jobs.Turns pids (announced events) shell'.jobs := by
  cases backgrounded_of_run h with
  | noJob _ | running _ _ => exact .stays
  | refused _ _ hresume =>
    rw [(silent_resume _).announced_eq hresume]
    exact .stays
  | @resumed job _ _ hbackground stopped hresume =>
    obtain rfl := eq_resumed_of_run hresume
    have running := Job.state_resumed (by rw [stopped]; nofun)
    have told : announced [⟨.say (.changed job.resumed.pgid .running), ()⟩] =
        [(job.resumed.pgid, job.resumed.state)] := by
      rw [running]
      rfl
    rw [announced_append, (silent_resume _).announced_eq hresume, List.nil_append, told]
    refine .changes hbackground job.descends_resumed ?_
    rw [running]
    nofun

/-- **Every line does one of these things to the jobs, after it has collected what is to be
reported.** -/
theorem turns_of_executed {tokens : List String} {report : Report}
    (h : Line.Executed shell rounds tokens events shell' report) (settled : shell.jobs.Settled)
    (patient : Patient events) :
    shell.jobs.Turns (forks events) (announced events) shell'.jobs := by
  have ran : ∀ {builtin : Builtin} {result : BuiltinResult},
      builtin.Ran shell rounds events shell' result →
      shell.jobs.Turns (forks events) (announced events) shell'.jobs := by
    intro builtin result ran
    cases ran with
    | ordinary _ _ ordinary =>
      rw [ordinary.announced_eq]
      exact .stays
    | foreground hresume _ rest =>
      rw [announced_append, rest.announced_eq, List.append_nil]
      exact turns_of_resumeForeground hresume settled patient.of_append.1
    | background hresume rest =>
      rw [announced_append, rest.announced_eq, List.append_nil]
      exact turns_of_resumeBackground hresume
  have prepares : ∀ {pipeline preparing prepared},
      (Stage.prepare pipeline rounds).Run preparing prepared → announced preparing = [] := by
    intro pipeline preparing prepared hprepare
    have ordinary : Ordinary preparing := (ordinary_prepare pipeline).of_run hprepare
    exact ordinary.announced_eq
  cases h with
  | empty => exact .stays
  | builtin _ hrun => exact ran (ran_of_run hrun)
  | exit _ hrun => exact ran (ran_of_run hrun)
  | pipeline _ hevaluate =>
    cases evaluated_of_run hevaluate with
    | malformed _ => exact .stays
    | unprepared _ hprepare =>
      rw [announced_append, prepares hprepare]
      exact .stays
    | unlaunched _ hprepare hlaunch =>
      rw [announced_append, announced_append, prepares hprepare,
        (silent_stages _ _ _).announced_eq hlaunch]
      exact .stays
    | @launched _ _ _ _ _ _ failure _ _ _ hprepare hlaunch _ htrack =>
      rw [forks_of_launch hprepare hlaunch htrack, announced_append, announced_append,
        announced_append, prepares hprepare, (silent_stages _ _ _).announced_eq hlaunch,
        (ordinary_complaint failure).announced_eq]
      exact turns_of_track htrack settled patient.of_append.2.of_append.2.of_append.2

end JobControl
