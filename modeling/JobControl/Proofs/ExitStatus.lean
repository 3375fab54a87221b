import JobControl.Proofs.Reports

/-!
# The status of a line that sees the end of its job

A job that is waited for in the foreground may stop there, and go on later, so that its members are
collected over several lines; each wait asks only those that have not ended.  The status of the line
that sees the last of them end is the code of the last one it had to wait for, in the order of the
pipeline.  That is the last stage if this had not been collected before, as in the line that
launched the job.

## Main definitions

* `Unfailing events` — no wait fails.
* `Line.Launches line pids` — what a line started for the stages of a pipeline.
* `Line.SeesEnd` — a line sees the end of a job that it launched or brought to the foreground.
* `Job.EndsWith job past events member status later` — how a job comes to its end.

## Main results

* `Inquiry.Surveyed.last` — the last report of a wait is about the last running member.
* `Course.ended` — every end that is recorded was the answer to a wait.
* `Session.whole` — as long as no wait fails, a job has all processes that were started for it.
* `status_of_last_awaited` — **the status of a line that sees the end of a job.**
-/

namespace JobControl

open Roster JobTable

/-- No wait fails, except that signals may interrupt one, which is then made again. -/
def Unfailing (events : List Event) : Prop :=
  ∀ pid flags errno, ⟨.wait pid flags, .error errno⟩ ∈ events → errno = .eintr

variable {events more : List Event} {rounds : Nat} {job : Job} {shell shell' : Shell}

theorem Unfailing.of_append (h : Unfailing (events ++ more)) : Unfailing events ∧ Unfailing more :=
  ⟨fun pid flags errno he => h pid flags errno (List.mem_append_left _ he),
    fun pid flags errno he => h pid flags errno (List.mem_append_right _ he)⟩

theorem Unfailing.of_cons {e : Event} (h : Unfailing (e :: events)) : Unfailing events :=
  fun pid flags errno he => h pid flags errno (List.mem_cons_of_mem _ he)

/-! ### Inquiries -/

namespace Inquiry

variable {q : Inquiry} {members : List Member} {found : Findings}

theorem Surveyed.failures_eq_nil (h : q.Surveyed members events found)
    (unfailing : Unfailing events) : found.failures = [] := by
  induction h with
  | nil => rfl
  | passed _ _ ih => exact ih unfailing
  | interrupted _ _ ih | recorded _ _ _ ih | unchanged _ _ _ ih => exact ih unfailing.of_cons
  | failed _ hne _ _ => exact absurd (unfailing _ _ _ List.mem_cons_self) hne

/-- No member is dropped. -/
theorem Surveyed.kept_eq (h : q.Surveyed members events found) (unfailing : Unfailing events) :
    found.kept = found.members := by
  rw [Findings.kept, h.failures_eq_nil unfailing]
  exact List.filter_eq_self.mpr fun _ _ => rfl

/-- **The last report of a wait is the answer about the last running member.** -/
theorem Surveyed.last (h : Inquiry.blocking.Surveyed members events found)
    (unfailing : Unfailing events) (running : ∃ member ∈ members, member.status.state = .running) :
    ∃ before member after status, members = before ++ member :: after ∧
      member.status.state = .running ∧ ⟨.wait member.pid .untilStopped, .ok status⟩ ∈ events ∧
      found.reports.getLast? = some status ∧
      ∃ earlier, found.members = earlier ++ { member with status } :: after := by
  -- an answer is the last one unless a later member is running too
  induction h with
  | nil => simp at running
  | passed hpassed _ ih =>
    obtain ⟨m, hm, hrunning⟩ := running
    rcases List.mem_cons.mp hm with rfl | hm
    · exact absurd hrunning (of_decide_eq_false hpassed)
    · obtain ⟨before, member, after, status, rfl, alive, asked, reported, earlier, heq⟩ :=
        ih unfailing ⟨m, hm, hrunning⟩
      exact ⟨_ :: before, member, after, status, rfl, alive, asked, reported, _ :: earlier,
        congrArg (List.cons _) heq⟩
  | interrupted _ _ ih =>
    obtain ⟨before, member, after, status, split, alive, asked, rest⟩ :=
      ih unfailing.of_cons running
    exact ⟨before, member, after, status, split, alive, List.mem_cons_of_mem _ asked, rest⟩
  | @recorded first rest events found answer due _ survey ih =>
    by_cases later : ∃ member ∈ rest, member.status.state = .running
    · obtain ⟨before, member, after, status, rfl, alive, asked, reported, earlier, heq⟩ :=
        ih unfailing.of_cons later
      refine ⟨first :: before, member, after, status, rfl, alive, List.mem_cons_of_mem _ asked, ?_,
        _ :: earlier, congrArg (List.cons _) heq⟩
      rw [List.getLast?_cons, reported]
      rfl
    · -- the members that follow are not asked any more
      obtain ⟨same, silent⟩ := survey.idle fun member hmember =>
        decide_eq_false fun running => later ⟨member, hmember, running⟩
      refine ⟨[], first, rest, answer, rfl, of_decide_eq_true due, List.mem_cons_self, ?_, [], ?_⟩
      · rw [silent]
        rfl
      · rw [same]
        rfl
  | unchanged _ hcounts _ _ => cases hcounts
  | failed _ hne _ _ => exact absurd (unfailing _ _ _ List.mem_cons_self) hne

end Inquiry

/-! ### What is recorded of a job -/

theorem Job.pids_record {q : Inquiry} {found : Findings} (h : q.Surveyed job.members events found)
    (unfailing : Unfailing events) : (job.record found).pids = job.pids := by
  rw [pids, record, h.kept_eq unfailing]
  exact h.pids_eq

/-- Letting a job go on changes no member that has ended. -/
theorem Job.mem_of_resumed {member : Member} (h : member ∈ job.resumed.members)
    (hdone : member.status.state = .done) : member ∈ job.members := by
  obtain ⟨before, hbefore, rfl⟩ := List.mem_map.mp h
  split at hdone
  · cases hdone
  · next stopped =>
    rw [if_neg stopped]
    exact hbefore

/-- The end of a member is the answer to a wait. -/
def Ended (events : List Event) (member : Member) : Prop :=
  member.status.state = .done ∧ ∃ flags, ⟨.wait member.pid flags, .ok member.status⟩ ∈ events

theorem Ended.mono {member : Member} (h : Ended events member) (sub : events ⊆ more) :
    Ended more member := ⟨h.1, h.2.imp fun _ hmem => sub hmem⟩

section Steps

variable {q : Inquiry} {job' : Job}

theorem Job.Becomes.pids_eq (h : job.Becomes q events job') (unfailing : Unfailing events) :
    job'.pids = job.pids := by
  cases h with
  | same | placed _ => rfl
  | resumed => exact job.pids_resumed
  | recorded hsurvey => exact pids_record hsurvey unfailing

/-- A member that has ended had ended before, or its end has just been answered. -/
theorem Job.Becomes.ended {member : Member} (h : job.Becomes q events job')
    (hmember : member ∈ job'.members) (hdone : member.status.state = .done) :
    member ∈ job.members ∨ Ended events member := by
  cases h with
  | same | placed _ => exact .inl hmember
  | resumed => exact .inl (mem_of_resumed hmember hdone)
  | recorded hsurvey =>
    exact (hsurvey.mem_or_answered member (List.mem_of_mem_filter hmember)).imp_right
      fun answer => ⟨hdone, q.flags, answer⟩

end Steps

/-! ### All that a line has started -/

section Whole

variable {own : Pid} {first last : Multiset Job}

theorem Roster.Spans.whole (h : Spans own first events last) (unfailing : Unfailing events) :
    ∀ job' ∈ last, ∃ job ∈ first, job'.pids = job.pids := by
  refine h.preserves (fun history later => Unfailing history →
    ∀ job' ∈ later, ∃ job ∈ first, job'.pids = job.pids) ?_ [] (fun _ job hjob => ⟨job, hjob, rfl⟩)
    unfailing
  intro q history _ events _ _ step ih unfailing later hlater
  obtain ⟨middle, hmiddle, becomes⟩ := step.becomes later hlater
  obtain ⟨job, hjob, hpids⟩ := ih unfailing.of_append.1 middle hmiddle
  exact ⟨job, hjob, (becomes.pids_eq unfailing.of_append.2).trans hpids⟩

/-- As long as no wait fails, a job after an operation is as it was before, or is all that was
started. -/
theorem Roster.Evolves.whole (h : Evolves own first events last) (unfailing : Unfailing events) :
    ∀ job' ∈ last, (∃ job ∈ first, job'.pids = job.pids) ∨
      (job'.pids = forks events ∧ forks events ≠ []) := by
  obtain ⟨foreground, before, launch, after⟩ := h
  obtain ⟨unfailing, unfailing'⟩ := unfailing.of_append
  intro later hlater
  obtain ⟨job, hjob, hlater⟩ := after.whole unfailing' later hlater
  rw [forks_append, forks_append, (Spans.steps before).forks_eq, after.forks_eq, List.append_nil,
    List.nil_append]
  rcases Multiset.mem_add.mp hjob with hjob | hjob
  · obtain ⟨hhead, hpids⟩ := mem_ofPids?_toList hjob
    rw [launch.forks_eq, List.nil_append] at hhead hpids
    exact .inr ⟨hlater.trans hpids, List.ne_nil_of_mem (List.mem_of_mem_head? hhead)⟩
  · obtain ⟨earlier, hearlier, hjob⟩ := (Spans.steps before).whole unfailing.of_append.1 job hjob
    exact .inl ⟨earlier, hearlier, hlater.trans hjob⟩

end Whole

/-- A line has started the processes for the stages of a pipeline, in order; for all stages, unless
it met with a failure. -/
def Line.Launches (line : List Event) (pids : List Pid) : Prop :=
  ∃ (pipeline : Pipeline) (stages : List Stage) (rounds : Nat) (failure : Option LaunchError)
    (before preparing launching after : List Event),
    line = before ++ (preparing ++ (launching ++ after)) ∧
    (Stage.prepare pipeline rounds).Run preparing (.ok stages) ∧
    (Spawn.stages none [] stages rounds).Run launching (pids, failure) ∧
    forks line = pids

/-- A line that starts something does so for the stages of its pipeline. -/
theorem launches_of_execute {tokens : List String} {report : Report}
    (run : (Line.execute shell tokens rounds).Run events (shell', report))
    (something : forks events ≠ []) : Line.Launches events (forks events) := by
  obtain ⟨reaping, rest, middle, rfl, hreap, executed⟩ := executed_of_run run
  rw [forks_append, forks_of_reapBackground hreap, List.nil_append] at something ⊢
  cases executed with
  | empty => exact absurd rfl something
  | builtin _ hrun | exit _ hrun => exact absurd (ran_of_run hrun).unforked.1 something
  | pipeline _ hevaluate =>
    have evaluated := evaluated_of_run hevaluate
    have decided := decided_of_evaluated evaluated
    cases evaluated with
    | malformed _ | unprepared _ _ | unlaunched _ _ _ =>
      exact absurd (decided.rejected_iff.mp rfl) something
    | @launched pipeline stages _ _ _ _ failure _ _ _ hprepare hlaunch _ htrack =>
      have started := forks_of_launch hprepare hlaunch htrack
      rw [started]
      refine ⟨pipeline, stages, rounds, failure, reaping, _, _, _, rfl, hprepare, hlaunch, ?_⟩
      rw [forks_append, forks_of_reapBackground hreap, List.nil_append, started]

section Sessions

variable {terminal : Terminal} {history : List Event} {lines : List (List Event)}

/-- **As long as no wait fails, a job has all processes that some line has started for it.** -/
theorem Session.whole (h : Session terminal lines shell) (unfailing : Unfailing lines.flatten) :
    ∀ job ∈ shell.jobs.roster, ∃ line ∈ lines, Line.Launches line job.pids := by
  induction h with
  | fresh => nofun
  | @line lines _ _ _ _ events _ before run ih =>
    rw [List.flatten_append, List.flatten_singleton] at unfailing
    intro job hjob
    rcases (execute_advances run before.settled).evolves.whole unfailing.of_append.2 job hjob with
      ⟨earlier, hearlier, hpids⟩ | ⟨hpids, something⟩
    · obtain ⟨line, hline, launches⟩ := ih unfailing.of_append.1 earlier hearlier
      exact ⟨line, List.mem_append_left _ hline, hpids ▸ launches⟩
    · exact ⟨events, List.mem_append_right _ (List.mem_singleton_self _),
        hpids ▸ launches_of_execute run something⟩

/-- The same holds when the next line has collected what is to be reported. -/
theorem Session.whole_reaped {middle : Shell} (h : Session terminal lines shell)
    (hreap : (shell.reapBackground rounds).Run events middle)
    (unfailing : Unfailing (lines.flatten ++ events)) :
    ∀ job ∈ middle.jobs.roster, ∃ line ∈ lines, Line.Launches line job.pids := by
  obtain ⟨earlier, unfailing⟩ := unfailing.of_append
  obtain ⟨-, -, steps⟩ := steps_reapBackground hreap h.settled
  intro job hjob
  obtain ⟨before, hbefore, hpids⟩ := (Spans.steps steps).whole unfailing job hjob
  rw [hpids]
  exact h.whole earlier before hbefore

/-- **Every end that is recorded was the answer to a wait.** -/
theorem Course.ended (h : Course terminal history shell) :
    ∀ job ∈ shell.jobs.roster, ∀ member ∈ job.members, member.status.state = .done →
      Ended history member := by
  refine h.preserves (fun history jobs => ∀ job ∈ jobs, ∀ member ∈ job.members,
    member.status.state = .done → Ended history member) nofun ?_ ?_
  · intro q history first events last _ step ih job' hjob' member hmember hdone
    obtain ⟨job, hjob, becomes⟩ := step.becomes job' hjob'
    rcases becomes.ended hmember hdone with hmember | ended
    · exact (ih job hjob member hmember hdone).mono (List.subset_append_left _ _)
    · exact ended.mono (List.subset_append_right _ _)
  · intro history jobs events started foreground _ ih job hjob member hmember hdone
    rcases Multiset.mem_add.mp hjob with hjob | hjob
    -- a process just started has not ended
    · rw [status_of_ofPids? (Option.mem_toList.mp hjob) member hmember] at hdone
      cases hdone
    · exact (ih job hjob member hmember hdone).mono (List.subset_append_left _ _)

end Sessions

/-! ### The end of a job -/

theorem WaitStatus.code_of_done {status : WaitStatus} (h : status.state = .done) :
    ∃ code, status.code = some code := by
  cases status with
  | exited code => exact ⟨code, rfl⟩
  | signaled signal _ => exact ⟨128 + (signal.number : Int), rfl⟩
  | stopped _ | continued | stillAlive | traced => cases h

/-- **The outcome of a job that ends while it is waited for is the end of its last running
member.** -/
theorem Job.last_of_done {found : Findings}
    (h : Inquiry.blocking.Surveyed job.members events found) (unfailing : Unfailing events)
    (running : job.state = .running) (hdone : (job.record found).state = .done) :
    ∃ before member after status code, job.members = before ++ member :: after ∧
      member.status.state = .running ∧ (∀ later ∈ after, later.status.state = .done) ∧
      ⟨.wait member.pid .untilStopped, .ok status⟩ ∈ events ∧ status.state = .done ∧
      status.code = some code ∧ (job.record found).outcome.code = code := by
  obtain ⟨before, member, after, status, split, alive, asked, reported, earlier, heq⟩ :=
    h.last unfailing (state_eq_running_iff.mp running)
  have ended : ∀ m ∈ found.members, m.status.state = .done := by
    have := state_eq_done_iff.mp hdone
    rwa [record, h.kept_eq unfailing] at this
  rw [heq, List.forall_mem_append, List.forall_mem_cons] at ended
  obtain ⟨-, hstatus, hafter⟩ := ended
  obtain ⟨code, hcode⟩ := status.code_of_done hstatus
  refine ⟨before, member, after, status, code, split, alive, hafter, asked, hstatus, hcode, ?_⟩
  simp [Outcome.code, outcome, record, reported, hcode]

/-- The member of a job that goes on was one before, and those after it that have ended had ended
before. -/
theorem Job.split_resumed {before after : List Member} {member : Member}
    (h : job.resumed.members = before ++ member :: after) (alive : member.status.state ≠ .done)
    (ended : ∀ later ∈ after, later.status.state = .done) :
    ∃ earlier first others, job.members = earlier ++ first :: others ∧ first.pid = member.pid ∧
      first.status.state ≠ .done ∧ ∀ later ∈ others, later.status.state = .done := by
  obtain ⟨earlier, rest, heq, -, hrest⟩ := List.map_eq_append_iff.mp h
  obtain ⟨first, others, rfl, hfirst, hothers⟩ := List.map_eq_cons_iff.mp hrest
  refine ⟨earlier, first, others, heq, ?_, fun hdone => alive ?_, fun later hlater => ?_⟩
  · rw [← hfirst]
    split <;> rfl
  · rw [← hfirst, if_neg (by rw [hdone]; nofun), hdone]
  · -- a stopped member that goes on has not ended
    have hdone := ended _ (hothers ▸ List.mem_map_of_mem hlater)
    split at hdone
    · cases hdone
    · exact hdone

/-- A job comes to its end while it is waited for: `member` is the last of its members, in the order
of the pipeline, that had not ended before, and `status` is its end.  The ends of the `later`
members are in the past. -/
structure Job.EndsWith (job : Job) (past events : List Event) (member : Member)
    (status : WaitStatus) (later : List Member) : Prop where
  members_eq : ∃ earlier, job.members = earlier ++ member :: later
  alive : member.status.state ≠ .done
  awaited : ⟨.wait member.pid .untilStopped, .ok status⟩ ∈ events
  ended : status.state = .done
  past_ends : ∀ m ∈ later, Ended past m

/-- A job whose last member had not ended ends with that one. -/
theorem Job.EndsWith.later_eq_nil {past : List Event} {member last : Member} {status : WaitStatus}
    {later : List Member} (h : job.EndsWith past events member status later)
    (hlast : job.members.getLast? = some last) (alive : last.status.state ≠ .done) :
    later = [] := by
  obtain ⟨earlier, split⟩ := h.members_eq
  rcases List.eq_nil_or_concat later with rfl | ⟨others, m, rfl⟩
  · rfl
  · obtain rfl : m = last := by simpa [split, List.getLast?_cons] using hlast
    exact absurd (h.past_ends m (by simp)).1 alive

theorem Job.EndsWith.mono {past : List Event} {member : Member} {status : WaitStatus}
    {later : List Member} (h : job.EndsWith past events member status later)
    (sub : events ⊆ more) : job.EndsWith past more member status later :=
  { h with awaited := sub h.awaited }

/-- A line sees the end of a job: of the one that it has started, or of the one in the background
that it has brought to the foreground. -/
inductive Line.SeesEnd (tokens : List String) (before : Shell) (events : List Event)
    (after : Shell) : Report → Job → Prop
  | started {job : Job} {outcome : Outcome} : Job.ofPids? (forks events) true = some job →
      outcome.state = .done → SeesEnd tokens before events after (.foreground outcome) job
  | resumed {job : Job} {status : Nat} : Line.builtin? tokens = some .foreground →
      before.jobs.background = some job → after.jobs.background = none →
      SeesEnd tokens before events after (.builtin status) job

/-- A job that a line has started is waited for as a whole. -/
theorem endsWith_of_started {past : List Event} {outcome : Outcome}
    (h : Line.Starts events shell' (.foreground outcome)) (unfailing : Unfailing events)
    (hjob : Job.ofPids? (forks events) true = some job) (hdone : outcome.state = .done) :
    ∃ member status, job.EndsWith past events member status [] ∧
      status.code = some outcome.code := by
  cases h with
  | @foreground job' _ _ _ found hjob' hevents hsurvey =>
    obtain rfl := Option.some.inj (hjob'.symm.trans hjob)
    rw [hevents] at unfailing
    obtain ⟨earlier, member, after, status, code, split, running, later, asked, ended, hcode,
      heq⟩ := Job.last_of_done hsurvey unfailing.of_append.2.of_append.1
        (running_of_ofPids? hjob) hdone
    -- no process has ended that was just started
    have last : after = [] := by
      refine List.eq_nil_iff_forall_not_mem.mpr fun m hm => ?_
      have done := later m hm
      rw [status_of_ofPids? hjob m (by simp [split, hm])] at done
      cases done
    subst last
    refine ⟨member, status, ⟨⟨earlier, split⟩, by rw [running]; nofun, ?_, ended, nofun⟩,
      hcode.trans (congrArg some heq.symm)⟩
    simp [hevents, asked]

/-- A job that is brought to the foreground is waited for as far as it had not ended. -/
theorem endsWith_of_resumed {past : List Event} {answer : Except Errno (Option Outcome)}
    (h : (shell.resumeForeground rounds).Run events (shell', answer))
    (unfailing : Unfailing events) (hjob : shell.jobs.background = some job)
    (alive : job.state ≠ .done)
    (recorded : ∀ member ∈ job.members, member.status.state = .done → Ended past member)
    (gone : shell'.jobs.background = none) :
    ∃ member status later outcome, answer = .ok (some outcome) ∧
      job.EndsWith past events member status later ∧ status.code = some outcome.code := by
  cases foregrounded_of_run h with
  | noJob hnone => cases hnone.symm.trans hjob
  | refused _ _ _ _ hplace =>
    -- the job is in the background again
    cases (takes_of_run hplace).background_eq.symm.trans gone
  | waited hjob' hhand hresume hwait =>
    obtain rfl := Option.some.inj (hjob'.symm.trans hjob)
    obtain rfl := eq_resumed_of_run hresume
    obtain ⟨waiting, back, jobs, rfl, rfl, hwaiting, -⟩ := waited_of_run hwait
    cases waited_of_waitForeground hwaiting with
    | moved _ _ _ takes => cases takes.background_eq.symm.trans gone
    | ended hsurvey _ hdone =>
      have unfailing := unfailing.of_append.2.of_append.2.of_append.1.of_append.1
      obtain ⟨_, _, _, status, code, split, running, later, asked, ended, hcode, heq⟩ :=
        Job.last_of_done hsurvey unfailing (Job.state_resumed alive) hdone
      obtain ⟨earlier, member, others, split, same, open', later⟩ :=
        Job.split_resumed split (by rw [running]; nofun) later
      refine ⟨member, status, others, _, rfl, ⟨⟨earlier, split⟩, open', ?_, ended,
        fun m hm => recorded m (by simp [split, hm]) (later m hm)⟩,
        hcode.trans (congrArg some heq.symm)⟩
      rw [← same] at asked
      simp [asked]

/-- **If no wait has failed, a line that sees the end of a job has the status of the last of its
members, in the order of the pipeline, that had not ended before the line waited for them: the code
with which it exited, or that of the signal that killed it, whatever the order in which they ended.
This is the last stage if it had not ended before, and so for the line that launched the job.  The
members of the job are the processes that some line has started for the stages of a pipeline.** -/
theorem status_of_last_awaited {terminal : Terminal} {lines : List (List Event)}
    {tokens : List String} {report : Report} (session : Session terminal lines shell)
    (run : (Line.execute shell tokens rounds).Run events (shell', report))
    (unfailing : Unfailing (lines.flatten ++ events)) :
    ∃ reaping rest middle, events = reaping ++ rest ∧
      (shell.reapBackground rounds).Run reaping middle ∧
      ∀ job, Line.SeesEnd tokens middle rest shell' report job →
        (∃ line ∈ lines ++ [events], Line.Launches line job.pids) ∧
        ∃ member status later code,
          job.EndsWith (lines.flatten ++ reaping) rest member status later ∧
          status.code = some code ∧
          (∀ last, job.members.getLast? = some last → last.status.state ≠ .done → later = []) ∧
          (∀ outcome, report = .foreground outcome → later = [] ∧ outcome.code = code) ∧
          ∀ value, report = .builtin value → value = (code % 256).toNat := by
  obtain ⟨reaping, rest, middle, rfl, hreap, executed⟩ := executed_of_run run
  rw [← List.append_assoc] at unfailing
  obtain ⟨earlier, unfailing⟩ := unfailing.of_append
  refine ⟨reaping, rest, middle, rfl, hreap, fun job sees => ?_⟩
  cases sees with
  -- the job is that of the line itself
  | @started _ outcome hjob hdone =>
    cases executed with
    | pipeline _ hevaluate =>
      have decided := decided_of_evaluated (evaluated_of_run hevaluate)
      obtain ⟨member, status, ends, hcode⟩ :=
        endsWith_of_started (decided.starts rfl) unfailing hjob hdone
      obtain ⟨hhead, hpids⟩ := mem_ofPids?_toList (Option.mem_toList.mpr hjob)
      have all : forks (reaping ++ rest) = job.pids := by
        rw [forks_append, forks_of_reapBackground hreap, List.nil_append, hpids]
      have something : forks (reaping ++ rest) ≠ [] := by
        rw [all, hpids]
        exact List.ne_nil_of_mem (List.mem_of_mem_head? hhead)
      have launches := all ▸ launches_of_execute run something
      refine ⟨⟨_, List.mem_append_right _ (List.mem_singleton_self _), launches⟩, member, status,
        [], outcome.code, ends, hcode, fun _ _ _ => rfl, fun other heq => ⟨rfl, ?_⟩, nofun⟩
      rw [Report.foreground.inj heq]
  -- the job is that of an earlier line, with all its members
  | @resumed _ value hfg hjob gone =>
    obtain ⟨-, settled, -⟩ := steps_reapBackground hreap session.settled
    obtain ⟨-, roster_eq, alive, -⟩ := settled.take hjob
    have hroster : job ∈ middle.jobs.roster := by
      rw [roster_eq]
      exact Multiset.mem_cons_self _ _
    obtain ⟨line, hline, launches⟩ := session.whole_reaped hreap earlier job hroster
    have recorded := (session.course.operate (.reap _ hreap)).ended job hroster
    refine ⟨⟨line, List.mem_append_left _ hline, launches⟩, ?_⟩
    cases executed with
    | pipeline hname _ => cases hname.symm.trans hfg
    | builtin hname hrun =>
      obtain rfl := Option.some.inj (hname.symm.trans hfg)
      cases ran_of_run hrun with
      | ordinary notForeground _ _ => exact absurd rfl notForeground
      | foreground hresume shows _ =>
        obtain ⟨member, status, later, outcome, rfl, ends, hcode⟩ :=
          endsWith_of_resumed hresume unfailing.of_append.1 hjob alive recorded gone
        refine ⟨member, status, later, outcome.code, ends.mono (List.subset_append_left _ _), hcode,
          fun _ => ends.later_eq_nil, nofun, fun other heq => ?_⟩
        rw [← Report.builtin.inj heq]
        exact shows outcome rfl

/-! The line `/a | /a`, the first stage of which stops while the second ends; it is brought to the
foreground by the next line. -/

namespace Sample

/-- Both stages are started and waited for. -/
def parting : List Event := [
  ⟨.environment "PATH", none⟩, ⟨.metadata (Text.toBytes "/a"), .ok ⟨.regular, 0o755, 0⟩⟩,
  ⟨.environment "PATH", none⟩, ⟨.metadata (Text.toBytes "/a"), .ok ⟨.regular, 0o755, 0⟩⟩,
  ⟨.pipe, .ok (3, 4)⟩,
  ⟨.fork ⟨program, none, some 4, none⟩, .ok 7⟩, ⟨.setGroup 7 7, .ok ()⟩, ⟨.close 4, ()⟩,
  ⟨.fork ⟨program, some 3, none, some 7⟩, .ok 8⟩, ⟨.setGroup 8 7, .ok ()⟩, ⟨.close 3, ()⟩,
  ⟨.wait 7 .untilStopped, .ok (.stopped .stop)⟩, ⟨.wait 8 .untilStopped, .ok (.exited 3)⟩,
  ⟨.log (.movedToBackground 7), ()⟩, ⟨.say (.changed 7 .stopped), ()⟩]

/-- Nothing has changed before the next line. -/
def still : List Event := [⟨.wait 7 .collect, .ok .stillAlive⟩]

/-- The first stage goes on and ends. -/
def finishing : List Event := [
  ⟨.signalGroup 7 .cont, .ok ()⟩, ⟨.log (.continued 7), ()⟩,
  ⟨.wait 7 .untilStopped, .ok (.exited 5)⟩, ⟨.log (.finished 7), ()⟩]

/-- The job between the two lines. -/
def halved : Job := ⟨7, [⟨7, .stopped .stop⟩, ⟨8, .exited 3⟩], false, some (.exited 3)⟩

/-- A detached shell with some jobs. -/
def detached (jobs : JobTable) : Shell := { terminal := .detached 1, jobs }

theorem run_parting : (Line.execute (detached {}) ["/a", "|", "/a"] 2).Run parting
    (detached { background := some halved }, .foreground ⟨7, .stopped, some (.exited 3)⟩) :=
  .ask (.ask (.ask (.ask (.ask (.ask (.ask (.ask (.ask (.ask (.ask (.ask (.ask (.ask
    (.ask (.done _)))))))))))))))

theorem run_still : ((detached { background := some halved }).reapBackground 2).Run still
    (detached { background := some halved }) :=
  .ask (.done _)

theorem run_finishing : (Line.execute (detached { background := some halved }) ["fg"] 2).Run
    (still ++ finishing) (detached {}, .builtin 5) :=
  .ask (.ask (.ask (.ask (.ask (.done _)))))

theorem session_parting :
    Session (.detached 1) [parting] (detached { background := some halved }) :=
  .line .fresh run_parting

theorem unfailing_parting : Unfailing ([parting].flatten ++ (still ++ finishing)) := by
  intro pid flags errno he
  simp [parting, still, finishing] at he

end Sample

/-- The second stage had ended before, so that the line has the status of the first. -/
theorem status_after_last_stage_ended : ∃ member status later code,
    Sample.halved.EndsWith ([Sample.parting].flatten ++ Sample.still) Sample.finishing member status
      later ∧ status.code = some code ∧ 5 = (code % 256).toNat := by
  obtain ⟨reaping, rest, middle, split, hreap, ends⟩ :=
    status_of_last_awaited Sample.session_parting Sample.run_finishing Sample.unfailing_parting
  obtain ⟨rfl, rfl⟩ := hreap.unique Sample.run_still split.symm
  obtain rfl := List.append_cancel_left split
  obtain ⟨-, member, status, later, code, ends, hcode, -, -, shown⟩ :=
    ends Sample.halved (.resumed rfl rfl rfl)
  exact ⟨member, status, later, code, ends, hcode, shown 5 rfl⟩

/-- The last stage exits with 3 and no wait fails, yet the line that sees the end of the job has the
status 5. -/
theorem status_of_first_stage :
    Session (.detached 1) [Sample.parting] (Sample.detached { background := some Sample.halved }) ∧
      forks Sample.parting = Sample.halved.pids ∧
      ((Sample.detached { background := some Sample.halved }).reapBackground 2).Run Sample.still
        (Sample.detached { background := some Sample.halved }) ∧
      (Line.execute (Sample.detached { background := some Sample.halved }) ["fg"] 2).Run
        (Sample.still ++ Sample.finishing) (Sample.detached {}, .builtin 5) ∧
      Unfailing ([Sample.parting].flatten ++ (Sample.still ++ Sample.finishing)) ∧
      Line.SeesEnd ["fg"] (Sample.detached { background := some Sample.halved }) Sample.finishing
        (Sample.detached {}) (.builtin 5) Sample.halved ∧
      Sample.halved.members.getLast? = some ⟨8, .exited 3⟩ ∧
      ⟨.wait 8 .untilStopped, .ok (.exited 3)⟩ ∈ Sample.parting ∧
      (WaitStatus.exited 3).code ≠ some (Report.builtin 5).status :=
  ⟨Sample.session_parting, rfl, Sample.run_still, Sample.run_finishing, Sample.unfailing_parting,
    .resumed rfl rfl rfl, rfl, by simp [Sample.parting], by decide⟩

end JobControl
