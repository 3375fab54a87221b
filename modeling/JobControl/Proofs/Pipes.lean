import JobControl.Proofs.Opening
import JobControl.Proofs.Session
import JobControl.Proofs.Wiring

/-!
# Pipelines and their pipes

A pipeline that is prepared and started as a whole: which image has which end of which pipe, and
what is left of them in the shell.

## Main definitions

* `Pipeline.found` — what the image of a stage is to find under a descriptor.
* `StandardOpen own`, `OwnOnly own` — the shell has the standard descriptors, and nothing foreign.

## Main results

* `pipeline_leaves_nothing` — the shell is left with the descriptors that it had before.
* `images_found` — the image of each stage finds what it is to find.
* `pipeline_wired` — **each end of a pipe is in the one image that uses it.**
-/

namespace JobControl

namespace Pipeline

/-- The file or the pipe end that a stage reads from, unless it reads what the shell reads. -/
def inputEnd (p : Pipeline) (i : Nat) (command : Command) : Option End :=
  match command.input with
  | some path => some (.file .input path (redirections (p.commands.take i)))
  | none => if i = 0 then none else some (.reading (i - 1))

/-- The file or the pipe end that a stage writes to, unless it writes where the shell writes. -/
def outputEnd (p : Pipeline) (i : Nat) (command : Command) : Option End :=
  match command.output with
  | some path => some (.file .output path
      (redirections (p.commands.take i) + command.input.toList.length))
  | none => if i + 1 < p.commands.length then some (.writing i) else none

section Ends

variable {p : Pipeline} {i pipe number : Nat} {command : Command} {redirection : Redirection}
  {path : String}

theorem inputEnd_ne_writing : p.inputEnd i command ≠ some (.writing pipe) := by
  unfold inputEnd
  split
  · nofun
  · split <;> nofun

theorem outputEnd_ne_reading : p.outputEnd i command ≠ some (.reading pipe) := by
  unfold outputEnd
  split
  · nofun
  · split <;> nofun

theorem inputEnd_eq_reading_iff :
    p.inputEnd i command = some (.reading pipe) ↔ i = pipe + 1 ∧ command.input = none := by
  unfold inputEnd
  cases command.input with
  | some path => simp
  | none => cases i <;> simp

theorem outputEnd_eq_writing_iff (hpipe : pipe + 1 < p.commands.length) :
    p.outputEnd i command = some (.writing pipe) ↔ i = pipe ∧ command.output = none := by
  unfold outputEnd
  cases command.output with
  | some path => simp
  | none =>
    simp only [Option.ite_none_right_eq_some, Option.some.injEq, End.writing.injEq, and_true]
    omega

theorem inputEnd_eq_file (h : p.inputEnd i command = some (.file redirection path number)) :
    command.input = some path ∧ number = redirections (p.commands.take i) := by
  unfold inputEnd at h
  split at h
  · next hinput =>
    cases h
    exact ⟨hinput, rfl⟩
  · split at h <;> cases h

theorem outputEnd_eq_file (h : p.outputEnd i command = some (.file redirection path number)) :
    command.output = some path ∧
      number = redirections (p.commands.take i) + command.input.toList.length := by
  unfold outputEnd at h
  split at h
  · next houtput =>
    cases h
    exact ⟨houtput, rfl⟩
  · split at h <;> cases h

end Ends

/-- What the image of a stage is to find under a descriptor, where programs find `own` of the
shell. -/
def found (p : Pipeline) (own : Descriptors End) (i : Nat) (command : Command) (fd : Fd) :
    Option End :=
  if fd = Fd.standardInput then (p.inputEnd i command).or (own.target? fd)
  else if fd = Fd.standardOutput then (p.outputEnd i command).or (own.target? fd)
  else own.target? fd

end Pipeline

theorem redirections_append (commands more : List Command) :
    redirections (commands ++ more) = redirections commands + redirections more := by
  rw [redirections, List.map_append, List.sum_append]
  rfl

theorem redirections_take_succ {commands : List Command} {i : Nat} {command : Command}
    (h : commands[i]? = some command) : redirections (commands.take (i + 1)) =
      redirections (commands.take i) + command.input.toList.length
        + command.output.toList.length := by
  rw [List.take_add_one, h, redirections_append, redirections]
  simp [redirections, Nat.add_assoc]

theorem redirections_take_mono (commands : List Command) {i j : Nat} (h : i ≤ j) :
    redirections (commands.take i) ≤ redirections (commands.take j) := by
  induction j, h using Nat.le_induction with
  | base => exact Nat.le_refl _
  | succ j _ ih =>
    rw [List.take_add_one, redirections_append]
    omega

/-- The table that the shell starts from holds nothing but what is its own. -/
def OwnOnly (own : Descriptors End) : Prop := ∀ entry ∈ own, ∃ number, entry.2.target = .own number

section Found

variable {own : Descriptors End} {p : Pipeline} {i j pipe : Nat} {command command' : Command}
  {fd fd' : Fd}

theorem OwnOnly.target (h : OwnOnly own) {e : End} (he : own.target? fd = some e) :
    ∃ number, e = .own number := by
  obtain ⟨slot, hslot, rfl⟩ := Option.map_eq_some_iff.mp he
  obtain ⟨before, after, rfl, -⟩ := List.lookup_eq_some_iff.mp hslot
  exact h (fd, slot) (by simp)

theorem OwnOnly.afterExecute (h : OwnOnly own) : OwnOnly own.afterExecute :=
  fun entry hentry => h entry (List.mem_of_mem_filter hentry)

/-- What is not of the shell is at one of two descriptors. -/
theorem OwnOnly.found_eq_iff (h : OwnOnly own) {e : End} (he : ∀ number, e ≠ .own number) :
    p.found own i command fd = some e ↔
      (fd = Fd.standardInput ∧ p.inputEnd i command = some e) ∨
        (fd = Fd.standardOutput ∧ p.outputEnd i command = some e) := by
  have own_ne : own.target? fd ≠ some e := fun heq => by
    obtain ⟨number, rfl⟩ := h.target heq
    exact he number rfl
  have or_iff : ∀ o : Option End, o.or (own.target? fd) = some e ↔ o = some e := by
    intro o
    cases o with
    | none => simpa using own_ne
    | some _ => simp
  rw [Pipeline.found]
  split
  · next hfd =>
    rw [or_iff]
    simp [hfd, Fd.standardInput, Fd.standardOutput]
  · next hfd =>
    split
    · next hfd' =>
      rw [or_iff]
      simp [hfd', Fd.standardInput, Fd.standardOutput]
    · next hfd' => simp [own_ne, hfd, hfd']

/-- The writing end of a pipe is standard output of one stage, unless that writes to a file. -/
theorem OwnOnly.found_writing (h : OwnOnly own) (hpipe : pipe + 1 < p.commands.length) :
    p.found own i command fd = some (.writing pipe) ↔
      i = pipe ∧ fd = Fd.standardOutput ∧ command.output = none := by
  rw [h.found_eq_iff (e := .writing pipe) nofun]
  simp only [Pipeline.inputEnd_ne_writing, Pipeline.outputEnd_eq_writing_iff hpipe, and_false,
    false_or]
  exact and_left_comm

/-- The reading end of a pipe is standard input of the next stage, unless that reads a file. -/
theorem OwnOnly.found_reading (h : OwnOnly own) :
    p.found own i command fd = some (.reading pipe) ↔
      i = pipe + 1 ∧ fd = Fd.standardInput ∧ command.input = none := by
  rw [h.found_eq_iff (e := .reading pipe) nofun]
  simp only [Pipeline.inputEnd_eq_reading_iff, Pipeline.outputEnd_ne_reading, and_false, or_false]
  exact and_left_comm

/-- The files that a stage finds are those of its command. -/
theorem OwnOnly.found_file (h : OwnOnly own) {redirection : Redirection} {path : String}
    {number : Nat} (hfile : p.found own i command fd = some (.file redirection path number)) :
    fd = Fd.standardInput ∧ command.input = some path ∧
        number = redirections (p.commands.take i) ∨
      fd = Fd.standardOutput ∧ command.output = some path ∧
        number = redirections (p.commands.take i) + command.input.toList.length :=
  ((h.found_eq_iff (e := .file redirection path number) nofun).mp hfile).imp
    (And.imp_right Pipeline.inputEnd_eq_file) (And.imp_right Pipeline.outputEnd_eq_file)

/-- The number of a file tells the stage. -/
theorem OwnOnly.number_lt (h : OwnOnly own) {redirection : Redirection} {path : String}
    {number : Nat} (hcommand : p.commands[i]? = some command)
    (hfile : p.found own i command fd = some (.file redirection path number)) :
    redirections (p.commands.take i) ≤ number ∧
      number < redirections (p.commands.take (i + 1)) := by
  rw [redirections_take_succ hcommand]
  rcases h.found_file hfile with ⟨-, hpath, rfl⟩ | ⟨-, hpath, rfl⟩
  · rw [hpath, Option.toList_some, List.length_singleton]
    omega
  · rw [hpath, Option.toList_some, List.length_singleton]
    omega

/-- A file is in one image, at one descriptor. -/
theorem OwnOnly.file_unique (h : OwnOnly own) {redirection redirection' : Redirection}
    {path path' : String} {number : Nat} (hcommand : p.commands[i]? = some command)
    (hcommand' : p.commands[j]? = some command')
    (hfile : p.found own i command fd = some (.file redirection path number))
    (hfile' : p.found own j command' fd' = some (.file redirection' path' number)) :
    i = j ∧ fd = fd' := by
  have same : i = j := by
    have bounds := h.number_lt hcommand hfile
    have bounds' := h.number_lt hcommand' hfile'
    rcases Nat.lt_trichotomy i j with hlt | heq | hlt
    · have := redirections_take_mono p.commands (by omega : i + 1 ≤ j)
      omega
    · exact heq
    · have := redirections_take_mono p.commands (by omega : j + 1 ≤ i)
      omega
  subst same
  obtain rfl : command = command' := Option.some.inj (hcommand.symm.trans hcommand')
  -- the input file of a stage is numbered before its output file
  refine ⟨rfl, ?_⟩
  rcases h.found_file hfile with ⟨rfl, hpath, hnumber⟩ | ⟨rfl, -, hnumber⟩ <;>
    rcases h.found_file hfile' with ⟨rfl, hpath', hnumber'⟩ | ⟨rfl, -, hnumber'⟩
  · rfl
  · rw [hpath, Option.toList_some, List.length_singleton] at hnumber'
    omega
  · rw [hpath', Option.toList_some, List.length_singleton] at hnumber
    omega
  · rfl

end Found

/-- What a shell holds at first. -/
def Holding.start (own : Descriptors End) : Holding := { shell := own }

section Whole

variable {pipeline : Pipeline} {stages : List Stage} {rounds rounds' : Nat}
  {preparing launching : List Event} {started : List Pid} {failure : Option LaunchError}
  {own : Descriptors End}

/-- What is held when a pipeline is prepared. -/
theorem prepared_holds (prepared : (Stage.prepare pipeline rounds).Run preparing (.ok stages))
    (granted : (Holding.start own).Granted preparing) :
    Holds own (Spawn.others stages none) ((Holding.start own).afterAll preparing).shell ∧
      ((Holding.start own).afterAll preparing).images = [] ∧
      ((Holding.start own).afterAll preparing).pipes = 0 := by
  obtain ⟨programs, -, opened⟩ := opened_of_prepare prepared granted
  exact ⟨(opened.holds (.refl own)).1, opened.keeps⟩

/-- **Whatever is refused, a pipeline leaves the shell with the descriptors that it had before the
files of the pipeline were opened.** -/
theorem pipeline_leaves_nothing
    (prepared : (Stage.prepare pipeline rounds).Run preparing (.ok stages))
    (launched : (Spawn.stages none [] stages rounds').Run launching (started, failure))
    (granted : (Holding.start own).Granted (preparing ++ launching)) :
    ((Holding.start own).afterAll (preparing ++ launching)).shell = own := by
  obtain ⟨preparing_granted, launching_granted⟩ := Holding.granted_append.mp granted
  rw [Holding.afterAll_append]
  exact (Spawn.launched_of_run launched).closes launching_granted
    (prepared_holds prepared preparing_granted).1

/-- What a stage is to find, if it has the files of its command. -/
theorem finds_eq_found {d : Descriptors End} {i : Nat} {stage : Stage} {command : Command}
    (input : stage.input.map d.target? = command.input.map fun path =>
      some (.file .input path (redirections (pipeline.commands.take i))))
    (output : stage.output.map d.target? = command.output.map fun path =>
      some (.file .output path
        (redirections (pipeline.commands.take i) + command.input.toList.length))) (fd : Fd) :
    stage.finds d own (Spawn.upstream none 0 i)
        (Spawn.downstream 0 pipeline.commands.length i) fd = pipeline.found own i command fd := by
  rw [Stage.finds, Pipeline.found, input, output]
  refine ite_congr rfl (fun _ => ?_) fun _ => ite_congr rfl (fun _ => ?_) fun _ => rfl
  · rw [Pipeline.inputEnd]
    cases command.input with
    | some path => rfl
    | none => cases i <;> simp [Spawn.upstream]
  · rw [Pipeline.outputEnd]
    cases command.output with
    | some path => rfl
    | none => simp [Spawn.downstream]

/-- The images of the stages that were started find what they are to find. -/
theorem images_found (standard : StandardOpen own)
    (prepared : (Stage.prepare pipeline rounds).Run preparing (.ok stages))
    (launched : (Spawn.stages none [] stages rounds').Run launching (started, failure))
    (granted : (Holding.start own).Granted (preparing ++ launching)) :
    stages.length = pipeline.commands.length ∧ ∃ images : List (Descriptors End),
      ((Holding.start own).afterAll (preparing ++ launching)).images = images.map some ∧
      images.length = started.length ∧
      ∀ i command image, pipeline.commands[i]? = some command → images[i]? = some image →
        ∀ fd, image.target? fd = pipeline.found own.afterExecute i command fd := by
  obtain ⟨preparing_granted, launching_granted⟩ := Holding.granted_append.mp granted
  obtain ⟨programs, hlength, opened⟩ := opened_of_prepare prepared preparing_granted
  obtain ⟨holds, himages, hpipes⟩ := prepared_holds prepared preparing_granted
  have trace := Spawn.launched_of_run launched
  obtain ⟨images, himages', hcount, wired⟩ :=
    trace.wired standard none launching_granted holds rfl
  have hstages : stages.length = pipeline.commands.length := by
    rw [opened.length_eq, List.length_zip, hlength, Nat.min_self]
  refine ⟨hstages, images, ?_, ?_, fun i command image hcommand himage fd => ?_⟩
  · rw [Holding.afterAll_append, himages', himages, List.nil_append]
  · rw [hcount, trace.forks_eq, List.nil_append]
  · have hi : i < programs.length := hlength ▸ (List.getElem?_eq_some_iff.mp hcommand).1
    have hrow : (programs.zip pipeline.commands)[i]? = some (programs[i], command) :=
      List.getElem?_zip_eq_some.mpr ⟨List.getElem?_eq_getElem hi, hcommand⟩
    obtain ⟨stage, hstage, -, input, output⟩ :=
      opened.stage (.refl own) i programs[i] command hrow
    have commands_eq : ((programs.zip pipeline.commands).take i).map Prod.snd =
        pipeline.commands.take i := by
      rw [List.map_take, List.map_snd_zip (Nat.le_of_eq hlength.symm)]
    rw [commands_eq] at input output
    simp only [Holding.start, Nat.zero_add] at input output
    rw [wired i stage image hstage himage fd, hpipes, hstages]
    exact finds_eq_found input output fd

/-- **When all stages of a pipeline are started there is a pipe between any two neighbours; each
image has for its standard input and output the files of its stage, or the ends of the pipes beside
it, or what the shell has, and nothing else that the shell opened; and the shell has none of all
that.  So an end of a pipe is in the one image that uses it, or in none if a file takes its place,
and a file is in the one image that it was opened for.** -/
theorem pipeline_wired (standard : StandardOpen own) (ownOnly : OwnOnly own)
    (prepared : (Stage.prepare pipeline rounds).Run preparing (.ok stages))
    (launched : (Spawn.stages none [] stages rounds').Run launching (started, none))
    (granted : (Holding.start own).Granted (preparing ++ launching)) :
    ∃ images : List (Descriptors End),
      ((Holding.start own).afterAll (preparing ++ launching)).images = images.map some ∧
      images.length = pipeline.commands.length ∧
      ((Holding.start own).afterAll (preparing ++ launching)).pipes =
        pipeline.commands.length - 1 ∧
      ((Holding.start own).afterAll (preparing ++ launching)).shell = own ∧
      (∀ i command image, pipeline.commands[i]? = some command → images[i]? = some image →
        ∀ fd, image.target? fd = pipeline.found own.afterExecute i command fd) ∧
      (∀ pipe, pipe + 1 < pipeline.commands.length → ∀ i command image fd,
        pipeline.commands[i]? = some command → images[i]? = some image →
        (image.target? fd = some (.writing pipe) ↔
          i = pipe ∧ fd = Fd.standardOutput ∧ command.output = none) ∧
        (image.target? fd = some (.reading pipe) ↔
          i = pipe + 1 ∧ fd = Fd.standardInput ∧ command.input = none)) ∧
      ∀ (i j : Nat) (image image' : Descriptors End) fd fd' redirection redirection' path path'
        number, images[i]? = some image → images[j]? = some image' →
        image.target? fd = some (.file redirection path number) →
        image'.target? fd' = some (.file redirection' path' number) → i = j ∧ fd = fd' := by
  obtain ⟨hstages, images, himages, hcount, found⟩ :=
    images_found standard prepared launched granted
  have trace := Spawn.launched_of_run launched
  obtain ⟨preparing_granted, -⟩ := Holding.granted_append.mp granted
  obtain ⟨-, -, hpipes⟩ := prepared_holds prepared preparing_granted
  have hstarted : started.length = stages.length := by
    rw [trace.forks_eq, List.nil_append]
    exact trace.length_eq_iff.mpr rfl
  have hlength : images.length = pipeline.commands.length := by rw [hcount, hstarted, hstages]
  have programs_find : OwnOnly own.afterExecute := ownOnly.afterExecute
  -- there is a command for each image
  have command_of : ∀ {i image}, images[i]? = some image →
      ∃ command, pipeline.commands[i]? = some command := fun {i image} himage => by
    have hi := (List.getElem?_eq_some_iff.mp himage).1
    exact ⟨_, List.getElem?_eq_getElem (hlength ▸ hi)⟩
  refine ⟨images, himages, hlength, ?_, pipeline_leaves_nothing prepared launched granted, found,
    fun pipe hpipe i command image fd hcommand himage => ?_,
    fun i j image image' fd fd' _ _ _ _ _ himage himage' hfile hfile' => ?_⟩
  · rw [Holding.afterAll_append, trace.pipes_eq rfl, hpipes, hstages, Nat.zero_add]
  · rw [found i command image hcommand himage fd]
    exact ⟨programs_find.found_writing hpipe, programs_find.found_reading⟩
  · obtain ⟨command, hcommand⟩ := command_of himage
    obtain ⟨command', hcommand'⟩ := command_of himage'
    rw [found i command image hcommand himage fd] at hfile
    rw [found j command' image' hcommand' himage' fd'] at hfile'
    exact programs_find.file_unique hcommand hcommand' hfile hfile'

end Whole

/-! The line `/a | /a > /out | /a`: a file takes the place of the second pipe. -/

namespace Sample

/-- A shell with nothing but the standard descriptors. -/
def standard : Descriptors End := [(0, ⟨.own 0, false⟩), (1, ⟨.own 1, false⟩), (2, ⟨.own 2, false⟩)]

def detour : Pipeline where
  commands := [⟨["/a"], none, none⟩, ⟨["/a"], none, some "/out"⟩, ⟨["/a"], none, none⟩]
  background := false

/-- The programs are found, and the file is opened. -/
def preparing : List Event := [
  ⟨.environment "PATH", none⟩, ⟨.metadata (Text.toBytes "/a"), .ok ⟨.regular, 0o755, 0⟩⟩,
  ⟨.environment "PATH", none⟩, ⟨.metadata (Text.toBytes "/a"), .ok ⟨.regular, 0o755, 0⟩⟩,
  ⟨.environment "PATH", none⟩, ⟨.metadata (Text.toBytes "/a"), .ok ⟨.regular, 0o755, 0⟩⟩,
  ⟨.openOutput "/out", .ok 3⟩]

def stages : List Stage := [⟨program, none, none⟩, ⟨program, none, some 3⟩, ⟨program, none, none⟩]

/-- The stages are started. -/
def starting : List Event := [
  ⟨.pipe, .ok (4, 5)⟩, ⟨.fork ⟨program, none, some 5, none⟩, .ok 7⟩, ⟨.setGroup 7 7, .ok ()⟩,
  ⟨.close 5, ()⟩,
  ⟨.pipe, .ok (5, 6)⟩, ⟨.fork ⟨program, some 4, some 3, some 7⟩, .ok 8⟩, ⟨.setGroup 8 7, .ok ()⟩,
  ⟨.close 6, ()⟩, ⟨.close 3, ()⟩, ⟨.close 4, ()⟩,
  ⟨.fork ⟨program, some 5, none, some 7⟩, .ok 9⟩, ⟨.setGroup 9 7, .ok ()⟩, ⟨.close 5, ()⟩]

theorem run_preparing : (Stage.prepare detour 0).Run preparing (.ok stages) :=
  .ask (.ask (.ask (.ask (.ask (.ask (.ask (.done _)))))))

theorem run_starting : (Spawn.stages none [] stages 0).Run starting ([7, 8, 9], none) :=
  .ask (.ask (.ask (.ask (.ask (.ask (.ask (.ask (.ask (.ask (.ask (.ask (.ask (.done _)))))))))))))

theorem granted : (Holding.start standard).Granted (preparing ++ starting) :=
  ⟨trivial, trivial, trivial, trivial, trivial, trivial, rfl,
    ⟨rfl, rfl, by decide⟩, trivial, trivial, trivial,
    ⟨rfl, rfl, by decide⟩, trivial, trivial, trivial, trivial, trivial, trivial, trivial, trivial,
    trivial⟩

theorem standardOpen : StandardOpen standard := by
  unfold StandardOpen
  decide

theorem ownOnly : OwnOnly standard := by simp [OwnOnly, standard]

end Sample

/-- Nobody can write to the second pipe, so that the last stage finds its input at an end. -/
theorem no_writer_behind_file :
    ∃ images : List (Descriptors End),
      ((Holding.start Sample.standard).afterAll (Sample.preparing ++ Sample.starting)).images =
        images.map some ∧
      ∀ (image : Descriptors End) (fd : Fd), image ∈ images →
        image.target? fd ≠ some (.writing 1) := by
  obtain ⟨images, himages, hlength, -, -, -, ends, -⟩ := pipeline_wired Sample.standardOpen
    Sample.ownOnly Sample.run_preparing Sample.run_starting Sample.granted
  refine ⟨images, himages, fun image fd himage hwriting => ?_⟩
  obtain ⟨i, hi, rfl⟩ := List.mem_iff_getElem.mp himage
  have hcommand : Sample.detour.commands[i]? = some (Sample.detour.commands[i]) :=
    List.getElem?_eq_getElem (hlength ▸ hi)
  obtain ⟨rfl, -, houtput⟩ :=
    (ends 1 (by decide) i _ _ fd hcommand (List.getElem?_eq_getElem hi)).1.mp hwriting
  cases houtput

end JobControl
