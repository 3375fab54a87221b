import JobControl.Proofs.Grammar
import JobControl.Proofs.Preparing
import JobControl.Proofs.Tending

/-!
# What a line reports

A line that names no builtin is rejected or it starts something.  It is rejected exactly if not a
single process was started, and then it has changed nothing; what was started is one job, where the
line asked for it.  A malformed line, a program that is not found and a file that cannot be opened
reject the line as a whole, in whatever stage they are.

## Main definitions

* `Line.builtin? tokens` — the builtin that a line names.
* `Line.Starts events after report` — what was started is the job that the report is about.
* `Line.Decided tokens before events after report` — a line that names no builtin is rejected or
  starts something.

## Main results

* `decided_of_evaluated` — every launch of a pipeline is decided in this way.
* `rejected_or_started` — **what each line reports, after collecting what is to be reported.**
-/

namespace JobControl

variable {shell shell' : Shell} {rounds : Nat} {events : List Event} {report : Report}
  {tokens : List String}

namespace Report

/-- The line was carried out by the shell itself. -/
def isBuiltin : Report → Bool
  | builtin _ | exit _ => true
  | _ => false

/-- Nothing of the line was started. -/
def isRejected : Report → Bool
  | rejected _ => true
  | _ => false

/-- What was started is not waited for. -/
def isBackground : Report → Bool
  | background _ => true
  | _ => false

end Report

/-- The builtin that the first word of a line names. -/
def Line.builtin? (tokens : List String) : Option Builtin := tokens.head?.bind Builtin.ofName?

/-- What was started for a line is one job: it is in the background, or its members were waited
for. -/
inductive Line.Starts (events : List Event) (after : Shell) : Report → Prop
  | background {job : Job} : Job.ofPids? (forks events) false = some job →
      after.jobs.background = some job → Starts events after (.background job.pgid)
  | foreground {job : Job} {before asked later : List Event} {found : Findings} :
      Job.ofPids? (forks events) true = some job → events = before ++ (asked ++ later) →
      Inquiry.blocking.Surveyed job.members asked found →
      Starts events after (.foreground (job.record found).outcome)

/-- What a line that names no builtin comes to: it is rejected and has changed nothing, or what it
started is a job. -/
structure Line.Decided (tokens : List String) (before : Shell) (events : List Event) (after : Shell)
    (report : Report) : Prop where
  rejected_iff : report.isRejected = true ↔ forks events = []
  untouched : report.isRejected = true →
    after = before ∧ ∀ e ∈ events, e.call.changesTerminal = false
  background_iff : report.isRejected = false →
    (report.isBackground = true ↔ tokens.getLast? = some "&")
  starts : report.isRejected = false → Line.Starts events after report
  /-- The words spell no pipeline. -/
  malformed : ∀ e, Pipeline.ofTokens tokens = .error e → report = .rejected (.malformed e)
  /-- The program of some stage is not found, or a file of it not opened. -/
  unprepared : ∀ pipeline, Pipeline.ofTokens tokens = .ok pipeline →
    ¬ Line.Prepared pipeline.commands events → report.isRejected = true
  /-- A request for a file was refused. -/
  refused : (∃ e ∈ events, e.refusesFile = true) → report.isRejected = true

/-! ### Rejected lines -/

/-- A line that is rejected aside of its jobs is decided, if a malformed one is called that. -/
theorem decided_of_rejected {cause : Rejection}
    (named : ∀ e, Pipeline.ofTokens tokens = .error e → cause = .malformed e)
    (unforked : forks events = []) (aside : Aside events) :
    Line.Decided tokens shell events shell (.rejected cause) where
  rejected_iff := iff_of_true rfl unforked
  untouched _ := ⟨rfl, fun e he => Call.changesTerminal_of_isAside (aside e he)⟩
  background_iff := nofun
  starts := nofun
  malformed e he := by rw [named e he]
  unprepared _ _ _ := rfl
  refused _ := rfl

theorem aside_rejected (cause : Rejection) : Aside [⟨.say (.rejected cause), ()⟩] :=
  List.forall_mem_singleton.mpr rfl

/-! ### Lines that start something -/

theorem Grammar.commands_ne_nil {pipeline : Pipeline}
    (h : Pipeline.ofTokens tokens = .ok pipeline) : pipeline.commands ≠ [] := by
  obtain ⟨phrases, nonempty, -, hcommands⟩ := stages_eq_ok_iff.mp (ofTokens_eq_ok.mp h).1
  rw [← hcommands]
  simpa using nonempty

theorem Grammar.background_eq_true_iff {pipeline : Pipeline}
    (h : Pipeline.ofTokens tokens = .ok pipeline) :
    pipeline.background = true ↔ tokens.getLast? = some "&" := by
  rw [(ofTokens_eq_ok.mp h).2]
  by_cases marked : tokens.getLast? = some "&"
  · rw [splitBackground_of_marked marked]
    exact iff_of_true rfl marked
  · rw [splitBackground_of_unmarked marked]
    exact iff_of_false Bool.false_ne_true marked

/-- A request that tends jobs prepares nothing. -/
theorem Call.isPreparing_of_isTending {c : Call} (h : c.isTending = true) :
    c.isPreparing = false := by
  cases c with
  | environment _ | metadata _ | openInput _ | openOutput _ => cases h
  | _ => rfl

theorem unprepared_stages (list : List Stage) (incoming : Option Fd) (started : List Pid) :
    (Spawn.stages incoming started list).Only fun c => c.isPreparing = false :=
  Spawn.only_stages (P := fun c => c.isPreparing = false) rfl (fun _ => rfl) (fun _ _ => rfl)
    (fun _ => rfl) list incoming started

theorem tending_complaint (failure : Option LaunchError) :
    ∀ e ∈ complaint failure, e.call.isTending = true := by
  intro e he
  obtain ⟨error, -, rfl⟩ := List.mem_map.mp he
  rfl

/-- The processes that a line starts are those of its launch. -/
theorem forks_of_launch {pipeline : Pipeline} {prepared : Except Rejection (List Stage)}
    {stages : List Stage} {started : List Pid} {failure : Option LaunchError} {background : Bool}
    {preparing launching tracking : List Event}
    (hprepare : (Stage.prepare pipeline rounds).Run preparing prepared)
    (hlaunch : (Spawn.stages none [] stages rounds).Run launching (started, failure))
    (htrack : (Line.track shell started background rounds).Run tracking (shell', report)) :
    forks (preparing ++ (launching ++ (complaint failure ++ tracking))) = started := by
  have prepares : Ordinary preparing := (ordinary_prepare pipeline).of_run hprepare
  have hstarted : started = [] ++ forks launching := (Spawn.started_of_run hlaunch).forks_eq
  have tends := (tending_track shell started background).of_run htrack
  rw [forks_append, forks_append, forks_append, forks_of_quiet prepares.quiet,
    forks_of_quiet (ordinary_complaint failure).quiet, forks_of_tending tends, List.append_nil,
    List.append_nil, ← hstarted]

/-- **What is started for a line is one job, and it starts something unless a stage is refused.** -/
theorem starts_of_tracks {job : Job} {background : Bool} {before tracking : List Event}
    (hjob : Job.ofPids? (forks (before ++ tracking)) (!background) = some job)
    (h : Line.Tracks shell rounds job background tracking shell' report) :
    report.isRejected = false ∧ (report.isBackground = true ↔ background = true) ∧
      Line.Starts (before ++ tracking) shell' report := by
  cases h with
  | background _ placed => exact ⟨rfl, iff_of_true rfl rfl, .background hjob placed⟩
  | @foreground _ _ outcome hrun =>
    obtain ⟨lending, others, _, rfl, -, hothers⟩ := Action.run_bind_iff.mp hrun
    obtain ⟨waiting, back, jobs, rfl, rfl, hwait, -⟩ := waited_of_run hothers
    -- among the events are those of the wait, whatever becomes of the job after it
    have starts : ∃ asked later found, waiting = asked ++ later ∧
        Inquiry.blocking.Surveyed job.members asked found ∧
        outcome = (job.record found).outcome := by
      cases waited_of_waitForeground hwait with
      | ended hsurvey _ _ => exact ⟨_, _, _, rfl, hsurvey, rfl⟩
      | moved hsurvey _ _ _ => exact ⟨_, _, _, rfl, hsurvey, rfl⟩
    obtain ⟨asked, later, found, rfl, hsurvey, rfl⟩ := starts
    refine ⟨rfl, iff_of_false Bool.false_ne_true Bool.false_ne_true, ?_⟩
    refine @Line.Starts.foreground _ _ _ (before ++ lending) asked
      (later ++ (back ++ (job.record found).outcome.announcement)) found hjob ?_ hsurvey
    simp only [List.append_assoc]

/-- **Every launch of a pipeline is decided: it is rejected or it starts something.** -/
theorem decided_of_evaluated (h : Line.Evaluated shell tokens rounds events shell' report) :
    Line.Decided tokens shell events shell' report := by
  have prepares : ∀ {pipeline preparing prepared},
      (Stage.prepare pipeline rounds).Run preparing prepared → Ordinary preparing :=
    fun hprepare => (ordinary_prepare _).of_run hprepare
  cases h with
  | malformed parsed =>
    refine decided_of_rejected (fun e he => ?_) rfl (aside_rejected _)
    rw [Except.error.inj (parsed.symm.trans he)]
  | @unprepared _ preparing cause parsed hprepare =>
    refine decided_of_rejected (fun e he => nomatch parsed.symm.trans he) ?_
      (aside_append.mpr ⟨(prepares hprepare).aside, aside_rejected cause⟩)
    rw [forks_append, forks_of_quiet (prepares hprepare).quiet]
    rfl
  | @unlaunched _ _ preparing launching e parsed hprepare hlaunch =>
    have launched : Aside launching := (aside_stages _ _ _).of_run hlaunch
    have unforked : [] = [] ++ forks launching := (Spawn.started_of_run hlaunch).forks_eq
    refine decided_of_rejected (fun e he => nomatch parsed.symm.trans he) ?_
      (aside_append.mpr ⟨(prepares hprepare).aside,
        aside_append.mpr ⟨launched, aside_rejected _⟩⟩)
    rw [forks_append, forks_append, forks_of_quiet (prepares hprepare).quiet, ← List.nil_append
      (forks launching), ← unforked]
    rfl
  | @launched pipeline stages preparing launching tracking started failure _ _ parsed hprepare
      hlaunch unfailing htrack =>
    obtain ⟨hlength, searches, openings, hpreparing, found, granted⟩ := prepared_of_run hprepare
    have trace := Spawn.launched_of_run hlaunch
    have hstarted : started = forks launching := by rw [trace.forks_eq, List.nil_append]
    -- a pipeline has a stage: if no process was started, a request was refused
    have something : started ≠ [] := by
      intro hnone
      have all := trace.length_eq_iff.mpr (unfailing hnone)
      rw [← hstarted, hnone, List.length_nil] at all
      have := List.length_pos_iff.mpr (Grammar.commands_ne_nil parsed)
      omega
    have tends := (tending_track shell started pipeline.background).of_run htrack
    have all_forks := forks_of_launch hprepare hlaunch htrack
    obtain ⟨leader, others, hothers⟩ := List.exists_cons_of_ne_nil something
    obtain ⟨job, hjob⟩ : ∃ job, Job.ofPids? started (!pipeline.background) = some job :=
      ⟨_, hothers ▸ ofPids?_cons leader others _⟩
    have hjob' : Job.ofPids? (forks (preparing ++ launching ++ complaint failure ++ tracking))
        (!pipeline.background) = some job := by
      simpa only [List.append_assoc, all_forks] using hjob
    obtain ⟨unrejected, inBackground, starts⟩ :=
      starts_of_tracks hjob' (tracks_of_run hjob htrack)
    have prepared : Line.Prepared pipeline.commands
        (preparing ++ (launching ++ (complaint failure ++ tracking))) := by
      refine ⟨searches, openings, launching ++ (complaint failure ++ tracking), ?_, found, granted,
        List.forall_mem_append.mpr ⟨(unprepared_stages _ _ _).of_run hlaunch,
          List.forall_mem_append.mpr ⟨fun e he => ?_, fun e he => ?_⟩⟩⟩
      · rw [hpreparing, List.append_assoc]
      · exact Call.isPreparing_of_isTending (tending_complaint failure e he)
      · exact Call.isPreparing_of_isTending (tends e he)
    constructor
    · rw [unrejected, all_forks]
      exact iff_of_false Bool.false_ne_true something
    · rw [unrejected]
      nofun
    · intro _
      exact inBackground.trans (Grammar.background_eq_true_iff parsed)
    · intro _
      simpa only [List.append_assoc] using starts
    · exact fun e he => nomatch parsed.symm.trans he
    · intro pipeline' parsed' unprepared
      obtain rfl := Except.ok.inj (parsed.symm.trans parsed')
      exact absurd prepared unprepared
    · rintro ⟨e, he, refuses⟩
      rw [prepared.accepts e he] at refuses
      cases refuses

/-! ### Lines -/

/-- A builtin starts no process, and only two of them concern a job. -/
theorem Builtin.Ran.unforked {builtin : Builtin} {result : BuiltinResult}
    (h : builtin.Ran shell rounds events shell' result) :
    forks events = [] ∧ (builtin ≠ .foreground → builtin ≠ .background → shell' = shell) := by
  cases h with
  | ordinary _ _ ordinary => exact ⟨forks_of_quiet ordinary.quiet, fun _ _ => rfl⟩
  | foreground hresume _ rest =>
    have tends := (tending_resumeForeground shell).of_run hresume
    rw [forks_append, forks_of_tending tends, forks_of_quiet rest.quiet]
    exact ⟨rfl, fun h => absurd rfl h⟩
  | background hresume rest =>
    have tends := (tending_resumeBackground shell).of_run hresume
    rw [forks_append, forks_of_tending tends, forks_of_quiet rest.quiet]
    exact ⟨rfl, fun _ h => absurd rfl h⟩

theorem forks_of_reapBackground (h : (shell.reapBackground rounds).Run events shell') :
    forks events = [] := by
  have only : shell.reapBackground.Only fun c => c.isTending = true :=
    only_reapBackground (fun _ => rfl) (fun _ => rfl) fun _ => rfl
  exact forks_of_tending (only.of_run h)

/-- A line that is rejected or starts something is not empty, and no builtin. -/
theorem Line.Decided.notBuiltin (h : Line.Decided tokens shell events shell' report) :
    report ≠ .empty ∧ report.isBuiltin = false := by
  cases report with
  | rejected _ | foreground _ | background _ => exact ⟨nofun, rfl⟩
  | empty | builtin _ | exit _ => cases h.starts rfl

/-- **A line first collects what is to be reported, which starts nothing.  Then it is empty exactly
if it has no words; it is carried out by the shell exactly if its first word names a builtin, which
starts no process and leaves the jobs alone unless it is `fg` or `bg`; and any other line is
rejected and has changed nothing, or has started the job that it reports.** -/
theorem rejected_or_started
    (run : (Line.execute shell tokens rounds).Run events (shell', report)) :
    ∃ reaping rest middle, events = reaping ++ rest ∧
      (shell.reapBackground rounds).Run reaping middle ∧ forks reaping = [] ∧
      (report = .empty ↔ tokens = []) ∧
      (report.isBuiltin = true ↔ (Line.builtin? tokens).isSome = true) ∧
      (∀ builtin, Line.builtin? tokens = some builtin → forks rest = [] ∧
        (builtin ≠ .foreground → builtin ≠ .background → shell'.jobs = middle.jobs)) ∧
      (tokens ≠ [] → Line.builtin? tokens = none →
        Line.Decided tokens middle rest shell' report) := by
  obtain ⟨reaping, rest, middle, rfl, hreap, executed⟩ := executed_of_run run
  refine ⟨reaping, rest, middle, rfl, hreap, forks_of_reapBackground hreap, ?_⟩
  have carriedOut : ∀ {builtin result}, Line.builtin? tokens = some builtin →
      builtin.Ran middle rounds rest shell' result →
      (∀ b, Line.builtin? tokens = some b → forks rest = [] ∧
        (b ≠ .foreground → b ≠ .background → shell'.jobs = middle.jobs)) ∧
      (tokens ≠ [] → Line.builtin? tokens = none →
        Line.Decided tokens middle rest shell' report) := by
    intro builtin result named ran
    refine ⟨fun b hb => ?_, fun _ unnamed => nomatch named.symm.trans unnamed⟩
    obtain rfl := Option.some.inj (named.symm.trans hb)
    exact ⟨ran.unforked.1, fun hf hb => by rw [ran.unforked.2 hf hb]⟩
  cases executed with
  | empty => exact ⟨iff_of_true rfl rfl, iff_of_false nofun nofun, nofun, fun h => absurd rfl h⟩
  | @pipeline name arguments _ _ _ hname hevaluate =>
    have decided := decided_of_evaluated (evaluated_of_run hevaluate)
    have unnamed : Line.builtin? (name :: arguments) = none := hname
    refine ⟨iff_of_false decided.notBuiltin.1 nofun, ?_, ?_, fun _ _ => decided⟩
    · rw [decided.notBuiltin.2, unnamed]
      exact iff_of_false Bool.false_ne_true Bool.false_ne_true
    · exact fun builtin named => nomatch unnamed.symm.trans named
  | builtin hname hrun =>
    exact ⟨iff_of_false nofun nofun, iff_of_true rfl (Option.isSome_of_eq_some hname),
      carriedOut hname (ran_of_run hrun)⟩
  | exit hname hrun =>
    exact ⟨iff_of_false nofun nofun, iff_of_true rfl (Option.isSome_of_eq_some hname),
      carriedOut hname (ran_of_run hrun)⟩

/-! The line `/a | /b`, the second program of which is missing. -/

namespace Sample

def searching : List Event := [
  ⟨.environment "PATH", none⟩, ⟨.metadata (Text.toBytes "/a"), .ok ⟨.regular, 0o755, 0⟩⟩,
  ⟨.environment "PATH", none⟩, ⟨.metadata (Text.toBytes "/b"), .error .enoent⟩,
  ⟨.say (.rejected (.programNotFound "/b")), ()⟩]

theorem run_searching : (Line.execute { terminal := .detached 1 } ["/a", "|", "/b"] 0).Run
    searching ({ terminal := .detached 1 }, .rejected (.programNotFound "/b")) :=
  .ask (.ask (.ask (.ask (.ask (.done _)))))

end Sample

/-- The first stage is not started either. -/
theorem rejected_for_second_program : ∃ reaping rest middle, Sample.searching = reaping ++ rest ∧
    forks reaping = [] ∧ Line.Decided ["/a", "|", "/b"] middle rest { terminal := .detached 1 }
      (.rejected (.programNotFound "/b")) := by
  obtain ⟨reaping, rest, middle, split, -, unforked, -, -, -, decided⟩ :=
    rejected_or_started Sample.run_searching
  exact ⟨reaping, rest, middle, split, unforked, decided (List.cons_ne_nil _ _) rfl⟩

end JobControl
