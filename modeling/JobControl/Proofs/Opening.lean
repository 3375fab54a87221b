import Mathlib.Algebra.GroupWithZero.Nat
import JobControl.Proofs.Holding

/-!
# Opening the files of a pipeline

The files of all redirections are opened before anything is started: stage after stage, the input of
a stage before its output.

## Main definitions

* `Opens`, `Opened` — the file of a redirection is opened, and the files of some stages.
* `redirections commands` — how many redirections some commands have.

## Main results

* `opened_of_prepare` — **a pipeline is prepared by opening the files of its commands, in order.**
* `Opened.holds` — these are open then, and nothing else besides what was open before.
* `Opened.stage` — which file belongs to which stage.
-/

namespace JobControl

open JobControl.Action (run_pure_iff run_bind_iff)

/-- The file of a redirection is opened, if there is one. -/
inductive Opens (redirection : Redirection) (h : Holding) :
    Option String → Option Fd → Holding → Prop
  | absent : Opens redirection h none none h
  | present {path : String} {fd : Fd} : h.shell.lookup fd = none →
      Opens redirection h (some path) (some fd) (h.opened redirection path fd)

/-- The files of some stages are opened, in order. -/
inductive Opened : Holding → List (Program × Command) → List Stage → Holding → Prop
  | nil {h : Holding} : Opened h [] [] h
  | cons {h h₁ h₂ h₃ : Holding} {program : Program} {command : Command} {input output : Option Fd}
      {rows : List (Program × Command)} {stages : List Stage} :
      Opens .input h command.input input h₁ → Opens .output h₁ command.output output h₂ →
      Opened h₂ rows stages h₃ →
      Opened h ((program, command) :: rows) (⟨program, input, output⟩ :: stages) h₃

section Runs

variable {rounds : Nat} {events : List Event} {h : Holding}

theorem run_openFile {request : String → Action (Except Errno Fd)} {path : Option String}
    {file : Option Fd} (run : (Stage.openFile request path rounds).Run events (.ok file)) :
    (path = none ∧ file = none ∧ events = []) ∨
      ∃ name fd, path = some name ∧ file = some fd ∧ (request name rounds).Run events (.ok fd) := by
  cases path with
  | none =>
    obtain ⟨rfl, hfile⟩ := run_pure_iff.mp run
    cases hfile
    exact .inl ⟨rfl, rfl, rfl⟩
  | some name =>
    rw [Stage.openFile] at run
    split at run
    · cases (run_pure_iff.mp run).2
    · obtain ⟨asking, last, answer, rfl, hask, hlast⟩ := run_bind_iff.mp run
      cases answer with
      | error e => cases (run_pure_iff.mp hlast).2
      | ok fd =>
        obtain ⟨rfl, hfile⟩ := run_pure_iff.mp hlast
        cases hfile
        rw [List.append_nil]
        exact .inr ⟨name, fd, rfl, rfl, hask⟩

/-- The request for the file of a redirection. -/
def Redirection.request : Redirection → String → Action (Except Errno Fd)
  | .input => Action.openInput
  | .output => Action.openOutput

theorem opens_of_run (redirection : Redirection) {path : Option String} {file : Option Fd}
    (run : (Stage.openFile redirection.request path rounds).Run events (.ok file))
    (granted : h.Granted events) : Opens redirection h path file (h.afterAll events) := by
  rcases run_openFile run with ⟨rfl, rfl, rfl⟩ | ⟨name, fd, rfl, rfl, hask⟩
  · exact .absent
  · cases redirection with
    | input | output =>
      obtain ⟨answer, rest, rfl, hrest⟩ := Dialogue.run_ask_iff.mp hask
      obtain ⟨rfl, rfl⟩ := Dialogue.run_done_iff.mp hrest
      exact .present granted.1

/-- The input of a stage is opened before its output. -/
theorem run_openFiles {program : Program} {command : Command} {stage : Stage}
    (run : (Stage.openFiles program command rounds).Run events (.ok stage)) :
    ∃ reading writing input output, events = reading ++ writing ∧ stage = ⟨program, input, output⟩ ∧
      (Stage.openFile Action.openInput command.input rounds).Run reading (.ok input) ∧
      (Stage.openFile Action.openOutput command.output rounds).Run writing (.ok output) := by
  obtain ⟨reading, more, input, rfl, hinput, hmore⟩ := run_bind_iff.mp run
  cases input with
  | error e => cases (run_pure_iff.mp hmore).2
  | ok input =>
    obtain ⟨writing, last, output, rfl, houtput, hlast⟩ := run_bind_iff.mp hmore
    cases output with
    | error e =>
      obtain ⟨_, _, _, -, -, hend⟩ := run_bind_iff.mp hlast
      cases (run_pure_iff.mp hend).2
    | ok output =>
      obtain ⟨rfl, hstage⟩ := run_pure_iff.mp hlast
      cases hstage
      rw [List.append_nil]
      exact ⟨reading, writing, input, output, rfl, rfl, hinput, houtput⟩

/-- The files of all stages are opened stage by stage. -/
theorem run_openAll_cons {program : Program} {command : Command} {rows : List (Program × Command)}
    {stages : List Stage}
    (run : (Stage.openAll ((program, command) :: rows) rounds).Run events (.ok stages)) :
    ∃ opening others stage rest, events = opening ++ others ∧ stages = stage :: rest ∧
      (Stage.openFiles program command rounds).Run opening (.ok stage) ∧
      (Stage.openAll rows rounds).Run others (.ok rest) := by
  obtain ⟨opening, more, first, rfl, hopen, hmore⟩ := run_bind_iff.mp run
  cases first with
  | error e => cases (run_pure_iff.mp hmore).2
  | ok stage =>
    obtain ⟨others, last, found, rfl, hothers, hlast⟩ := run_bind_iff.mp hmore
    cases found with
    | error e =>
      obtain ⟨_, _, _, -, -, hend⟩ := run_bind_iff.mp hlast
      cases (run_pure_iff.mp hend).2
    | ok rest =>
      obtain ⟨rfl, hstages⟩ := run_pure_iff.mp hlast
      cases hstages
      rw [List.append_nil]
      exact ⟨opening, others, stage, rest, rfl, rfl, hopen, hothers⟩

theorem opens_files {program : Program} {command : Command} {stage : Stage}
    (run : (Stage.openFiles program command rounds).Run events (.ok stage))
    (granted : h.Granted events) : ∃ input output middle, stage = ⟨program, input, output⟩ ∧
      Opens .input h command.input input middle ∧
      Opens .output middle command.output output (h.afterAll events) := by
  obtain ⟨reading, writing, input, output, rfl, rfl, hinput, houtput⟩ := run_openFiles run
  obtain ⟨input_granted, output_granted⟩ := Holding.granted_append.mp granted
  rw [Holding.afterAll_append]
  exact ⟨_, _, _, rfl, opens_of_run .input hinput input_granted,
    opens_of_run .output houtput output_granted⟩

theorem opened_of_run {rows : List (Program × Command)} :
    ∀ {events : List Event} {stages : List Stage} {h : Holding},
      (Stage.openAll rows rounds).Run events (.ok stages) → h.Granted events →
      Opened h rows stages (h.afterAll events) := by
  induction rows with
  | nil =>
    intro events stages h run _
    obtain ⟨rfl, hstages⟩ := run_pure_iff.mp run
    cases hstages
    exact .nil
  | cons row rows ih =>
    intro events stages h run granted
    obtain ⟨opening, others, stage, rest, rfl, rfl, hopen, hothers⟩ := run_openAll_cons run
    obtain ⟨granted, others_granted⟩ := Holding.granted_append.mp granted
    obtain ⟨input, output, middle, rfl, hinput, houtput⟩ := opens_files hopen granted
    rw [Holding.afterAll_append]
    exact .cons hinput houtput (ih hothers others_granted)

/-- The programs are found one by one. -/
theorem run_findAll_cons {command : Command} {commands : List Command} {programs : List Program}
    (run : (Program.findAll (command :: commands) rounds).Run events (.ok programs)) :
    ∃ finding others program rest, events = finding ++ others ∧ programs = program :: rest ∧
      (Program.find command rounds).Run finding (.ok program) ∧
      (Program.findAll commands rounds).Run others (.ok rest) := by
  obtain ⟨finding, more, found, rfl, hfind, hmore⟩ := run_bind_iff.mp run
  cases found with
  | error e => cases (run_pure_iff.mp hmore).2
  | ok program =>
    obtain ⟨others, last, found, rfl, hothers, hlast⟩ := run_bind_iff.mp hmore
    cases found with
    | error e => cases (run_pure_iff.mp hlast).2
    | ok rest =>
      obtain ⟨rfl, hprograms⟩ := run_pure_iff.mp hlast
      cases hprograms
      rw [List.append_nil]
      exact ⟨finding, others, program, rest, rfl, rfl, hfind, hothers⟩

theorem length_of_findAll {commands : List Command} :
    ∀ {events : List Event} {programs : List Program},
      (Program.findAll commands rounds).Run events (.ok programs) →
      programs.length = commands.length := by
  induction commands with
  | nil =>
    intro events programs run
    cases (run_pure_iff.mp run).2
    rfl
  | cons command commands ih =>
    intro events programs run
    obtain ⟨_, _, program, rest, -, rfl, -, hothers⟩ := run_findAll_cons run
    rw [List.length_cons, List.length_cons, ih hothers]

/-- **A pipeline is prepared by opening the files of its commands, in order.** -/
theorem opened_of_prepare {pipeline : Pipeline} {stages : List Stage}
    (run : (Stage.prepare pipeline rounds).Run events (.ok stages)) (granted : h.Granted events) :
    ∃ programs : List Program, programs.length = pipeline.commands.length ∧
      Opened h (programs.zip pipeline.commands) stages (h.afterAll events) := by
  obtain ⟨finding, opening, found, rfl, hfind, hopen⟩ := run_bind_iff.mp run
  cases found with
  | error e => cases (run_pure_iff.mp hopen).2
  | ok programs =>
    have nothing := h.afterAll_of_lookup ((lookup_findAll _).of_run hfind)
    have granted := (Holding.granted_append.mp granted).2
    rw [nothing] at granted
    rw [Holding.afterAll_append, nothing]
    exact ⟨programs, length_of_findAll hfind, opened_of_run hopen granted⟩

end Runs

/-- How many redirections some commands have. -/
def redirections (commands : List Command) : Nat :=
  (commands.map fun c => c.input.toList.length + c.output.toList.length).sum

section Opened

variable {h h' : Holding} {own : Descriptors End} {fds : List Fd}

section One

variable {redirection : Redirection} {path : Option String} {file : Option Fd}

theorem Opens.holds (opens : Opens redirection h path file h') (holds : Holds own fds h.shell) :
    Holds own (file.toList ++ fds) h'.shell ∧
      ∀ fd ∈ fds, h'.shell.lookup fd = h.shell.lookup fd := by
  cases opens with
  | absent => exact ⟨holds, fun _ _ => rfl⟩
  | present unused => exact holds.insert unused _

theorem Opens.target (opens : Opens redirection h path file h') :
    file.map h'.shell.target? = path.map fun path => some (.file redirection path h.files) := by
  cases opens with
  | absent => rfl
  | present _ => simp [Holding.opened, Descriptors.target?, Descriptors.lookup_insert]

theorem Opens.files_eq (opens : Opens redirection h path file h') :
    h'.files = h.files + path.toList.length := by
  cases opens <;> rfl

theorem Opens.keeps (opens : Opens redirection h path file h') :
    h'.images = h.images ∧ h'.pipes = h.pipes := by
  cases opens <;> exact ⟨rfl, rfl⟩

end One

variable {rows : List (Program × Command)} {stages : List Stage}

theorem Opened.keeps (opened : Opened h rows stages h') :
    h'.images = h.images ∧ h'.pipes = h.pipes := by
  induction opened with
  | nil => exact ⟨rfl, rfl⟩
  | cons input output _ ih =>
    rw [ih.1, ih.2, output.keeps.1, output.keeps.2]
    exact input.keeps

theorem Opened.length_eq (opened : Opened h rows stages h') : stages.length = rows.length := by
  induction opened with
  | nil => rfl
  | cons _ _ _ ih => rw [List.length_cons, List.length_cons, ih]

/-- The files of the stages are open, and nothing else besides what was open before. -/
theorem Opened.holds (opened : Opened h rows stages h') :
    ∀ {fds : List Fd}, Holds own fds h.shell →
      Holds own ((stages.map Stage.files).flatten ++ fds) h'.shell ∧
        ∀ fd ∈ fds, h'.shell.lookup fd = h.shell.lookup fd := by
  induction opened with
  | nil => exact fun holds => ⟨holds, fun _ _ => rfl⟩
  | @cons _ _ _ _ program command input output _ stages hinput houtput _ ih =>
    intro fds holds
    obtain ⟨holds₁, same₁⟩ := hinput.holds holds
    obtain ⟨holds₂, same₂⟩ := houtput.holds holds₁
    obtain ⟨holds₃, same₃⟩ := ih holds₂
    refine ⟨holds₃.perm (List.perm_iff_count.mpr fun fd => ?_), fun fd hfd => ?_⟩
    · simp only [Stage.files, List.map_cons, List.flatten_cons, List.count_append]
      omega
    · rw [same₃ fd (List.mem_append_right _ (List.mem_append_right _ hfd)),
        same₂ fd (List.mem_append_right _ hfd), same₁ fd hfd]

/-- Each stage has the files of its command, which are numbered in the order of the pipeline. -/
theorem Opened.stage (opened : Opened h rows stages h') :
    ∀ {fds : List Fd}, Holds own fds h.shell → ∀ (i : Nat) (program : Program) (command : Command),
      rows[i]? = some (program, command) → ∃ stage, stages[i]? = some stage ∧
        stage.program = program ∧
        stage.input.map h'.shell.target? = command.input.map (fun path =>
          some (.file .input path (h.files + redirections ((rows.take i).map Prod.snd)))) ∧
        stage.output.map h'.shell.target? = command.output.map fun path =>
          some (.file .output path (h.files + redirections ((rows.take i).map Prod.snd)
            + command.input.toList.length)) := by
  induction opened with
  | nil => intro _ _ i program command hrow; cases hrow
  | @cons h₀ _ _ h' program command input output rows stages hinput houtput opened ih =>
    intro fds holds i program' command' hrow
    obtain ⟨holds₁, same₁⟩ := hinput.holds holds
    obtain ⟨holds₂, same₂⟩ := houtput.holds holds₁
    obtain ⟨-, same₃⟩ := opened.holds holds₂
    cases i with
    | zero =>
      cases hrow
      refine ⟨_, rfl, rfl, ?_, ?_⟩
      · refine (Option.map_congr fun fd hfd => Descriptors.target?_congr ?_).trans hinput.target
        have mine : fd ∈ input.toList := Option.mem_toList.mpr hfd
        rw [same₃ fd (by simp [mine]), same₂ fd (by simp [mine])]
      · refine (Option.map_congr fun fd hfd => Descriptors.target?_congr ?_).trans
          (houtput.target.trans ?_)
        · have mine : fd ∈ output.toList := Option.mem_toList.mpr hfd
          rw [same₃ fd (by simp [mine])]
        · rw [hinput.files_eq]
          rfl
    | succ i =>
      obtain ⟨stage, hstage, hprogram, hin, hout⟩ := ih holds₂ i program' command' hrow
      have count : ∀ n, h₀.files + redirections (command :: n) = h₀.files
          + command.input.toList.length + command.output.toList.length + redirections n := by
        intro n
        simp only [redirections, List.map_cons, List.sum_cons]
        omega
      rw [houtput.files_eq, hinput.files_eq, ← count] at hin hout
      exact ⟨stage, hstage, hprogram, hin, hout⟩

end Opened

end JobControl
