import JobControl.Proofs.Hosting
import JobControl.Proofs.Opening

/-!
# What preparing a pipeline does to the file tree

No file is opened unless all programs are found.  Then the redirections are opened in order, each in
the tree that those before it have left; the first that is refused ends it.  So a file is lost to a
line that is rejected only if it was to be written by a stage before the one at fault.

## Main definitions

* `Command.redirects c` — the redirections of a command, in the order in which they are opened.
* `Host.LeadsTo h r path target` — what the path of a redirection leads to.
* `Host.Opened h list targets h'` — some redirections are opened in order, and what was opened for
  writing.
* `Host.Refuses h r path cause` — the file of a redirection cannot be opened.
* `Host.Plain list h` — no redirection leads to a named pipe when it is opened.
* `Host.Alters h p targets h' p'` — the shell goes on on a machine whose file tree has changed so.
* `Host.FailsAt h command path cause` — a redirection of a command cannot be opened, and those
  before it can.

## Main results

* `Host.Ready.runs_openAll` — **the files of the stages are opened in order, up to the first that is
  refused.**
* `prepare_effects` — **what a pipeline that is prepared, or cannot be, has changed in the file
  tree.**
-/

namespace JobControl

/-! ### Processes -/

namespace Machine

variable {m : Machine} {pid : Pid} {change : Process → Process}

theorem process?_update : (m.update pid change).process? pid = (m.process? pid).map change := by
  unfold process? update
  induction m.processes with
  | nil => rfl
  | cons entry entries ih =>
    obtain ⟨number, p⟩ := entry
    by_cases h : number = pid
    · subst h
      simp
    · have h' : (pid == number) = false := beq_eq_false_iff_ne.mpr (Ne.symm h)
      simpa [h, List.lookup_cons, h'] using ih

theorem exists_of_update (same : ∀ p, (change p).image = p.image) :
    ∀ entry ∈ (m.update pid change).processes,
      ∃ before ∈ m.processes, before.2.image = entry.2.image := by
  intro entry hentry
  obtain ⟨before, hbefore, rfl⟩ := List.mem_map.mp hentry
  refine ⟨before, hbefore, ?_⟩
  split
  · exact (same _).symm
  · rfl

/-- The programs are known still if the tree has grown and no process has become another program. -/
theorem ImagesKnown.mono {m' : Machine} (known : m.ImagesKnown)
    (grown : m.files.nodes.size ≤ m'.files.nodes.size)
    (same : ∀ entry ∈ m'.processes, ∃ before ∈ m.processes, before.2.image = entry.2.image) :
    m'.ImagesKnown := by
  intro entry hentry ino himage
  obtain ⟨before, hbefore, heq⟩ := same entry hentry
  exact Nat.lt_of_lt_of_le (known before hbefore ino (heq ▸ himage)) grown

end Machine

/-! ### Redirections -/

/-- The redirections of a command, in the order in which they are opened. -/
def Command.redirects (c : Command) : List (Redirection × String) :=
  c.input.toList.map (Redirection.input, ·) ++ c.output.toList.map (Redirection.output, ·)

/-- What is opened for writing of the target of a redirection. -/
def Redirection.written : Redirection → Target → List Target
  | input, _ => []
  | output, target => [target]

/-- The permissions of a file that is created, but for those in a mask. -/
def FileTree.newMode (mask : Nat) : Nat := fileMode - (fileMode &&& mask)

theorem Redirection.effect_eq (r : Redirection) (mask : Nat) (t : FileTree) (target : Target) :
    r.effect mask t target = t.overwriteAll (FileTree.newMode mask) (r.written target) := by
  cases r <;> rfl

namespace FileTree

theorem overwriteAll_append (t : FileTree) (mode : Nat) (targets more : List Target) :
    t.overwriteAll mode (targets ++ more) = (t.overwriteAll mode targets).overwriteAll mode more :=
  List.foldl_append

end FileTree

namespace Host

variable {h h' h₁ : Host} {p : Process} {r : Redirection} {path : String}
  {list more : List (Redirection × String)} {targets : List Target}

/-- What the path of a redirection leads to. -/
def LeadsTo (h : Host) (r : Redirection) (path : String) (target : Target) : Prop :=
  ∃ p slash, h.machine.process? h.shell = some p ∧
    h.machine.resolve h.shell p r.ending (Text.toOctets path) = .ok (target, slash)

/-- Some redirections are opened in order, each on the machine that the one before has left.  The
targets are those of what was opened for writing. -/
inductive Opened : Host → List (Redirection × String) → List Target → Host → Prop
  | nil {h : Host} : Opened h [] [] h
  | cons {h h₁ h' : Host} {r : Redirection} {path : String} {fd : Fd} {target : Target}
      {list : List (Redirection × String)} {targets : List Target} :
      Text.hasNul path = false → Does (run (r.request path)) h (.ok fd) h₁ →
      h.LeadsTo r path target → Opened h₁ list targets h' →
      Opened h ((r, path) :: list) (r.written target ++ targets) h'

/-- The file of a redirection cannot be opened, and the machine is as it was. -/
inductive Refuses (h : Host) (r : Redirection) (path : String) : FileError → Prop
  | nul : Text.hasNul path = true → Refuses h r path .nulInPath
  | refused {errno : Errno} : Text.hasNul path = false →
      Does (run (r.request path)) h (.error errno) h → Refuses h r path (.refused errno)

/-- No redirection leads to a named pipe when it is opened. -/
def Plain : List (Redirection × String) → Host → Prop
  | [], _ => True
  | (r, path) :: list, h =>
    (∀ ino, h.LeadsTo r path (.node ino) → h.machine.files.node? ino ≠ some .fifo) ∧
      ∀ fd h₁, Does (run (r.request path)) h (.ok fd) h₁ → Plain list h₁

theorem Opened.append {middle : Host} (first : Opened h list targets middle) {others : List Target}
    (second : Opened middle more others h') : Opened h (list ++ more) (targets ++ others) h' := by
  induction first with
  | nil => exact second
  | cons clean opens leads _ ih =>
    rw [List.append_assoc]
    exact .cons clean opens leads (ih second)

/-! ### Requests -/

/-- The shell is ready still, and its file tree is what becomes of it when some targets are opened
for writing. -/
structure Alters (h : Host) (p : Process) (targets : List Target) (h' : Host) (p' : Process) :
    Prop where
  ready : h'.Ready p'
  mask : p'.mask = p.mask
  files : h'.machine.files = h.machine.files.overwriteAll (FileTree.newMode p.mask) targets

section Alters

variable {p' p₁ : Process}

theorem Ready.alters (ready : h.Ready p) : Alters h p [] h p := ⟨ready, rfl, rfl⟩

theorem Alters.trans {others : List Target} (first : Alters h p targets h₁ p₁)
    (second : Alters h₁ p₁ others h' p') : Alters h p (targets ++ others) h' p' where
  ready := second.ready
  mask := second.mask.trans first.mask
  files := by rw [second.files, first.files, first.mask, FileTree.overwriteAll_append]

theorem Alters.after (first : Alters h p targets h₁ p₁) (second : Alters h₁ p₁ [] h' p') :
    Alters h p targets h' p' := by
  have both := first.trans second
  rwa [List.append_nil] at both

end Alters

namespace Ready

/-- The shell has one more open file, and its file tree has grown or is the same. -/
theorem withOpen (ready : h.Ready p) {fd : Fd} {files : FileTree} {file : OpenFile}
    (grown : h.machine.files.nodes.size ≤ files.nodes.size) :
    Ready { h with machine := h.machine.withOpen h.shell fd files file }
      { p with descriptors := p.descriptors.insert fd ⟨h.machine.opened.size, true⟩ } where
  process := Machine.process?_update.trans (congrArg (Option.map _) ready.process)
  running := ready.running
  unharmed := ready.unharmed
  awake := ready.awake
  known := ready.known.mono grown (Machine.exists_of_update fun _ => rfl)

/-- **The file of a redirection is opened, and its target is what it is to become, or it is refused
and nothing has changed.** -/
theorem runs_request (ready : h.Ready p)
    (plain : ∀ ino, h.LeadsTo r path (.node ino) → h.machine.files.node? ino ≠ some .fifo) :
    (∃ errno, Runs (r.request path) h (.error errno) h) ∨
      ∃ fd target h₁ p₁, Runs (r.request path) h (.ok fd) h₁ ∧ h.LeadsTo r path target ∧
        Alters h p (r.written target) h₁ p₁ := by
  have opening := Machine.opening_openFile (r := r) ready.process ready.known
    fun ino slash hresolve => plain ino ⟨p, slash, ready.process, hresolve⟩
  have requests : ∀ {m : Machine} {value : Except Errno Fd},
      h.machine.openFile h.shell p (Text.toOctets path) r.mode r.permissions true =
        (m, .answer value) → Runs (r.request path) h value { h with machine := m } := by
    intro m value opens
    cases r with
    | input | output => exact .ask (ready.does_request opens)
  generalize hreply : h.machine.openFile h.shell p (Text.toOctets path) r.mode r.permissions true =
    reply at opening
  cases opening with
  | refused errno => exact .inl ⟨errno, requests hreply⟩
  | opened file hresolve =>
    exact .inr ⟨_, _, _, _, requests hreply, ⟨p, _, ready.process, hresolve⟩,
      ready.withOpen (r.overwritten_effect p.mask _ _), rfl, r.effect_eq p.mask _ _⟩

/-- Closing a descriptor changes no file. -/
theorem runs_close (ready : h.Ready p) (fd : Fd) :
    ∃ h₁ p₁, Runs (Action.close fd) h () h₁ ∧ Alters h p [] h₁ p₁ := by
  have closes : ∀ {m : Machine} {value : Except Errno Unit},
      h.machine.perform h.shell p (.close fd) = (m, .answer value) →
      Runs (Action.close fd) h () { h with machine := m } := fun performs =>
    .ask (does_bind_iff.mpr ⟨_, _, ready.does_request performs, does_pure_iff.mpr ⟨rfl, rfl⟩⟩)
  by_cases unused : (p.descriptors.target? fd).isNone = true
  · exact ⟨h, p, closes (if_pos unused), ready.alters⟩
  · refine ⟨_, { p with descriptors := p.descriptors.close fd }, closes (if_neg unused),
      ⟨?_, ready.running, ready.unharmed, ready.awake, ?_⟩, rfl, rfl⟩
    · exact Machine.process?_update.trans (congrArg (Option.map _) ready.process)
    · exact ready.known.mono (Nat.le_refl _) (Machine.exists_of_update fun _ => rfl)

theorem runs_closeAll (fds : List Fd) : ∀ {h : Host} {p : Process}, h.Ready p →
    ∃ h₁ p₁, Runs (Action.closeAll fds) h () h₁ ∧ Alters h p [] h₁ p₁ := by
  induction fds with
  | nil => exact fun {h p} ready => ⟨h, p, .pure (), ready.alters⟩
  | cons fd fds ih =>
    intro h p ready
    obtain ⟨h₁, p₁, closes, first⟩ := ready.runs_close fd
    obtain ⟨h₂, p₂, others, second⟩ := ih first.ready
    exact ⟨h₂, p₂, .bind closes others, first.after second⟩

end Ready

/-! ### Files -/

/-- A redirection of a command cannot be opened: its input, or its output when its input is open. -/
inductive FailsAt (h : Host) (command : Command) (path : String) (cause : FileError) : Prop
  | input : command.input = some path → h.Refuses .input path cause → FailsAt h command path cause
  | output {middle : Host} : command.output = some path →
      Opened h (command.input.toList.map (.input, ·)) [] middle →
      middle.Refuses .output path cause → FailsAt h command path cause

/-- A redirection of one of some commands cannot be opened, when those of the commands before it
were opened. -/
def FailsAmong (h : Host) (commands : List Command) (targets : List Target) (path : String)
    (cause : FileError) : Prop :=
  ∃ before command following middle, commands = before ++ command :: following ∧
    Opened h (before.flatMap Command.redirects) targets middle ∧ middle.FailsAt command path cause

/-- What comes of an attempt to open some files: they are open, or one is refused and that is
told. -/
inductive Attempted {α : Type} (opens : List Target → Host → Prop)
    (fails : List Target → String → FileError → Prop) :
    List Target → Except Rejection α → Host → Prop
  | opened {targets : List Target} {h' : Host} (a : α) : opens targets h' →
      Attempted opens fails targets (.ok a) h'
  | refused {targets : List Target} {path : String} {cause : FileError} (h' : Host) :
      fails targets path cause →
      Attempted opens fails targets (.error (.redirection path cause)) h'

/-- No input is opened for writing. -/
theorem Opened.of_inputs {paths : List String} :
    ∀ {h : Host} {targets : List Target}, Opened h (paths.map (.input, ·)) targets h' →
      targets = [] := by
  induction paths with
  | nil =>
    rintro h targets ⟨⟩
    rfl
  | cons path paths ih =>
    intro h targets opened
    cases opened with
    | cons _ _ _ opened => exact ih opened

/-- What comes later is opened on the machine that what came before has left. -/
theorem Plain.append (plain : Plain (list ++ more) h) :
    Plain list h ∧ ∀ targets h', Opened h list targets h' → Plain more h' := by
  induction list generalizing h with
  | nil =>
    refine ⟨trivial, fun targets h' opened => ?_⟩
    cases opened
    exact plain
  | cons row list ih =>
    obtain ⟨leads, plain⟩ := plain
    refine ⟨⟨leads, fun fd h₁ opens => (ih (plain fd h₁ opens)).1⟩, fun targets h' opened => ?_⟩
    cases opened with
    | cons _ opens _ opened => exact (ih (plain _ _ opens)).2 _ _ opened

namespace Ready

/-- The file of a redirection is opened, if there is one. -/
theorem runs_openFile (ready : h.Ready p) (r : Redirection) (file : Option String)
    (plain : Plain (file.toList.map (r, ·)) h) :
    ∃ result targets h₁ p₁, Runs (Stage.openFile r.request file) h result h₁ ∧
      Alters h p targets h₁ p₁ ∧ Attempted (Opened h (file.toList.map (r, ·)))
        (fun targets path cause => targets = [] ∧ file = some path ∧ h.Refuses r path cause)
        targets result h₁ := by
  cases file with
  | none => exact ⟨_, [], h, p, .pure _, ready.alters, .opened none .nil⟩
  | some path =>
    rw [Stage.openFile]
    split
    · next hnul =>
      exact ⟨_, [], h, p, .pure _, ready.alters, .refused h ⟨rfl, rfl, .nul hnul⟩⟩
    · next hnul =>
      have clean := Bool.eq_false_iff.mpr hnul
      rcases ready.runs_request plain.1 with ⟨errno, runs⟩ |
        ⟨fd, target, h₁, p₁, runs, leads, alters⟩
      · exact ⟨_, [], h, p, .bind runs (.pure _), ready.alters,
          .refused h ⟨rfl, rfl, .refused clean runs.does_run⟩⟩
      · refine ⟨_, r.written target, h₁, p₁, .bind runs (.pure _), alters, .opened (some fd) ?_⟩
        rw [← List.append_nil (r.written target)]
        exact .cons clean runs.does_run leads .nil

/-- The files of a stage are opened, unless one is refused; then none that it writes to is. -/
theorem runs_openFiles (ready : h.Ready p) (program : Program) (command : Command)
    (plain : Plain command.redirects h) :
    ∃ result targets h₁ p₁, Runs (Stage.openFiles program command) h result h₁ ∧
      Alters h p targets h₁ p₁ ∧ Attempted (Opened h command.redirects)
        (fun targets path cause => targets = [] ∧ h.FailsAt command path cause) targets result
        h₁ := by
  obtain ⟨input_plain, plain⟩ := plain.append
  obtain ⟨input, targets, h₁, p₁, reads, first, attempted⟩ :=
    ready.runs_openFile .input command.input input_plain
  cases attempted with
  | refused _ fails =>
    obtain ⟨rfl, hinput, refuses⟩ := fails
    exact ⟨_, [], h₁, p₁, .bind reads (.pure _), first, .refused h₁ ⟨rfl, .input hinput refuses⟩⟩
  | opened input opened =>
    obtain rfl := opened.of_inputs
    obtain ⟨output, others, h₂, p₂, writes, second, attempted⟩ :=
      first.ready.runs_openFile .output command.output (plain _ _ opened)
    cases attempted with
    | refused _ fails =>
      obtain ⟨rfl, houtput, refuses⟩ := fails
      obtain ⟨h₃, p₃, closes, third⟩ := runs_closeAll input.toList second.ready
      exact ⟨_, [], h₃, p₃, .bind reads (.bind writes (.bind closes (.pure _))),
        (first.trans second).trans third, .refused h₃ ⟨rfl, .output houtput opened refuses⟩⟩
    | opened output opened' =>
      have opened : Opened h command.redirects others h₂ := opened.append opened'
      exact ⟨_, others, h₂, p₂, .bind reads (.bind writes (.pure _)), first.trans second,
        .opened _ opened⟩

/-- **The files of the stages are opened in order, up to the first that is refused.** -/
theorem runs_openAll (rows : List (Program × Command)) :
    ∀ {h : Host} {p : Process}, h.Ready p →
      Plain ((rows.map Prod.snd).flatMap Command.redirects) h →
      ∃ result targets h₁ p₁, Runs (Stage.openAll rows) h result h₁ ∧ Alters h p targets h₁ p₁ ∧
        Attempted (Opened h ((rows.map Prod.snd).flatMap Command.redirects))
          (h.FailsAmong (rows.map Prod.snd)) targets result h₁ := by
  induction rows with
  | nil => exact fun {h p} ready _ => ⟨_, [], h, p, .pure _, ready.alters, .opened [] .nil⟩
  | cons row rows ih =>
    intro h p ready plain
    obtain ⟨program, command⟩ := row
    rw [List.map_cons, List.flatMap_cons] at plain ⊢
    obtain ⟨first_plain, plain⟩ := plain.append
    obtain ⟨stage, targets, h₁, p₁, opens, first, attempted⟩ :=
      ready.runs_openFiles program command first_plain
    cases attempted with
    | refused _ fails =>
      obtain ⟨rfl, fails⟩ := fails
      exact ⟨_, [], h₁, p₁, .bind opens (.pure _), first,
        .refused h₁ ⟨[], command, _, h, rfl, .nil, fails⟩⟩
    | opened stage opened =>
      obtain ⟨result, others, h₂, p₂, follows, second, attempted⟩ :=
        ih first.ready (plain _ _ opened)
      cases attempted with
      | refused _ fails =>
        obtain ⟨before, failing, following, middle, split, earlier, fails⟩ := fails
        obtain ⟨h₃, p₃, closes, third⟩ := runs_closeAll stage.files second.ready
        exact ⟨_, targets ++ others, h₃, p₃, .bind opens (.bind follows (.bind closes (.pure _))),
          (first.trans second).after third,
          .refused h₃ ⟨command :: before, failing, following, middle,
            congrArg (List.cons command) split, opened.append earlier, fails⟩⟩
      | opened stages opened' =>
        exact ⟨_, targets ++ others, h₂, p₂, .bind opens (.bind follows (.pure _)),
          first.trans second, .opened (stage :: stages) (opened.append opened')⟩

end Ready

end Host

namespace FileTree

variable {mode : Nat} {targets : List Target} {t t' : FileTree}

/-- Nothing that is opened for writing becomes a named pipe. -/
theorem Overwritten.no_fifo (h : Overwritten mode targets t t')
    (plain : ∀ ino, t.node? ino ≠ some .fifo) (ino : Ino) : t'.node? ino ≠ some .fifo := by
  intro hfifo
  obtain ⟨inode', hinode', hnode'⟩ := node?_eq_some_iff.mp hfifo
  by_cases new : t.nodes.size ≤ ino
  · exact nomatch (h.created ino inode' new hinode').1.symm.trans hnode'
  · have hold := Array.getElem?_eq_getElem (Nat.not_le.mp new)
    obtain ⟨inode'', hinode'', touched⟩ := h.old ino _ hold
    obtain rfl := Option.some.inj (hinode'.symm.trans hinode'')
    cases touched with
    | kept => exact plain ino (node?_eq_some_iff.mpr ⟨_, hold, hnode'⟩)
    | emptied => cases hnode'
    | extended => cases hnode'

end FileTree

/-- Where there is no named pipe, no redirection leads to one. -/
theorem Host.Ready.plain {h : Host} {p : Process} (ready : h.Ready p)
    (none : ∀ ino, h.machine.files.node? ino ≠ some .fifo) (list : List (Redirection × String)) :
    Plain list h := by
  induction list generalizing h p with
  | nil => exact trivial
  | cons row list ih =>
    refine ⟨fun ino _ => none ino, fun fd h₁ opens => ?_⟩
    rcases ready.runs_request fun ino _ => none ino with ⟨errno, runs⟩ |
      ⟨_, target, h₂, p₂, runs, -, alters⟩
    · exact nomatch (opens.unique runs.does_run).1
    · obtain rfl := (opens.unique runs.does_run).2
      exact ih alters.ready fun ino =>
        (alters.files ▸ FileTree.overwritten_overwriteAll _ _ _).no_fifo none ino

/-! ### Pipelines -/

open Host in
/-- **What a pipeline that is prepared, or cannot be, has changed in the file tree.**  If a program
is at fault, the first such fault is told and nothing has changed.  If not, the outputs that were
opened are those of all stages, or those of the stages before the first one with a redirection that
cannot be opened, which is told; these files are emptied or created, and no other node is
touched. -/
theorem prepare_effects {h : Host} {p : Process} (ready : h.Ready p) {pipeline : Pipeline}
    (plain : Plain (pipeline.commands.flatMap Command.redirects) h) :
    ∃ result targets h', Does (Host.run (Stage.prepare pipeline)) h result h' ∧
      h'.machine.files = h.machine.files.overwriteAll (FileTree.newMode p.mask) targets ∧
      FileTree.Overwritten (FileTree.newMode p.mask) targets h.machine.files h'.machine.files ∧
      (∀ cause, pipeline.commands.findSome? (h.fault? p) = some cause →
        result = .error cause ∧ targets = [] ∧ h' = h) ∧
      (pipeline.commands.findSome? (h.fault? p) = none →
        (∃ stages, result = .ok stages ∧
          h.Opened (pipeline.commands.flatMap Command.redirects) targets h') ∨
        ∃ path cause, result = .error (.redirection path cause) ∧
          h.FailsAmong pipeline.commands targets path cause) := by
  obtain ⟨found, finds, outcome, length_eq⟩ := ready.runs_findAll pipeline.commands
  generalize pipeline.commands.findSome? (h.fault? p) = fault at outcome
  cases outcome with
  | fault cause =>
    have runs : Runs (Stage.prepare pipeline) h (.error cause) h := .bind finds (.pure _)
    exact ⟨_, [], h, runs.does_run, rfl, FileTree.overwritten_overwriteAll _ _ [],
      fun _ heq => ⟨congrArg Except.error (Option.some.inj heq), rfl, rfl⟩, nofun⟩
  | found programs =>
    have commands_eq : (programs.zip pipeline.commands).map Prod.snd = pipeline.commands :=
      List.map_snd_zip (Nat.le_of_eq (length_eq programs rfl).symm)
    obtain ⟨result, targets, h', p', opens, alters, attempted⟩ :=
      ready.runs_openAll (programs.zip pipeline.commands) (commands_eq.symm ▸ plain)
    have runs : Runs (Stage.prepare pipeline) h result h' := .bind finds opens
    rw [commands_eq] at attempted
    refine ⟨result, targets, h', runs.does_run, alters.files,
      alters.files ▸ FileTree.overwritten_overwriteAll _ _ targets, nofun, fun _ => ?_⟩
    cases attempted with
    | opened stages opened => exact .inl ⟨stages, rfl, opened⟩
    | refused _ fails => exact .inr ⟨_, _, rfl, fails⟩

/-! The line `tool > /out | b` where there is no `b`: the file `/out` keeps its content. -/

namespace Sample

/-- A file `/out` that holds a letter, and a program `tool` in a directory whose name is no text. -/
def tree : FileTree where
  nodes := #[{ node := .directory 0 true [("\xff", 1), ("out", 2)], mode := 0o755 },
    { node := .directory 0 true [("tool", 3)], mode := 0o755 },
    { node := .regular (ByteArray.mk #[65]), mode := 0o644 },
    { node := .regular ByteArray.empty, mode := 0o755 }]

def owner : Process where
  parent := 1
  group := 2
  session := 2
  directory := 0
  descriptors := []
  name := "shell"
  environment := [("PATH", "/\xff")]
  task := .external

def host : Host where
  machine := { files := tree, programs := fun _ => none, processes := [(2, owner)], nextPid := 3 }
  shell := 2

def spoiled : Pipeline where
  commands := [{ argv := ["tool"], output := some "/out" }, { argv := ["b"] }]
  background := false

theorem ready_host : host.Ready owner where
  process := rfl
  running := rfl
  unharmed := rfl
  awake := rfl
  known := fun _ hentry => by
    obtain rfl := List.mem_singleton.mp hentry
    exact nofun

theorem tree_no_fifo : ∀ ino, tree.node? ino ≠ some .fifo
  | 0 | 1 | 2 | 3 | _ + 4 => nofun

end Sample

/-- Nothing is lost to a line whose last program is missing. -/
theorem output_kept_for_missing_program : ∃ h',
    Host.Does (Host.run (Stage.prepare Sample.spoiled)) Sample.host
      (.error (.programNotFound "b")) h' ∧
    h'.machine.files.node? 2 = some (.regular (ByteArray.mk #[65])) := by
  have missing : Sample.spoiled.commands.findSome? (Sample.host.fault? Sample.owner) =
      some (.programNotFound "b") := by decide
  obtain ⟨result, targets, h', does, -, -, fault, -⟩ :=
    prepare_effects Sample.ready_host (Sample.ready_host.plain Sample.tree_no_fifo _)
  obtain ⟨rfl, -, rfl⟩ := fault _ missing
  exact ⟨_, does, rfl⟩

end JobControl
