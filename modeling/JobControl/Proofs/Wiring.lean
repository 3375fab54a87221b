import JobControl.Proofs.Holding

/-!
# What the images of a launch find

A stage finds its files, else the ends of the pipes beside it, else what the shell has of its own.
What a launch was to hand on it closes, whether it succeeds or not.

## Main definitions

* `Stage.finds` — what the image of a stage finds under a descriptor.
* `Spawn.Wired list d own first pipes images` — some images are those of the first of some stages.

## Main results

* `Spawn.Launched.closes` — **a launch leaves nothing open that was opened for it.**
* `Spawn.Launched.wired` — **the images of the stages that were started, in order.**
-/

namespace JobControl

/-- What the image of a stage finds under a descriptor: the files of the stage in the table `d` of
the shell, else what the pipes give it, else what the shell has of its own. -/
def Stage.finds (stage : Stage) (d own : Descriptors End) (upstream downstream : Option End)
    (fd : Fd) : Option End :=
  if fd = Fd.standardInput then (stage.input.map d.target?).getD (upstream.or (own.target? fd))
  else if fd = Fd.standardOutput then
    (stage.output.map d.target?).getD (downstream.or (own.target? fd))
  else own.target? fd

/-- Only the files of the stage matter. -/
theorem Stage.finds_congr {stage : Stage} {d d' own : Descriptors End} {up down : Option End}
    {fd : Fd} (same : ∀ fd ∈ stage.files, d'.lookup fd = d.lookup fd) :
    stage.finds d' own up down fd = stage.finds d own up down fd := by
  have target_eq : ∀ fd ∈ stage.files, d'.target? fd = d.target? fd := fun fd hfd =>
    Descriptors.target?_congr (same fd hfd)
  have input : stage.input.map d'.target? = stage.input.map d.target? :=
    Option.map_congr fun fd hfd => target_eq fd (List.mem_append_left _ (Option.mem_toList.mpr hfd))
  have output : stage.output.map d'.target? = stage.output.map d.target? :=
    Option.map_congr fun fd hfd =>
      target_eq fd (List.mem_append_right _ (Option.mem_toList.mpr hfd))
  rw [finds, finds, input, output]

namespace Spawn

variable {own : Descriptors End} {h : Holding} {rest : List Stage} {ends : Option (Fd × Fd)}
  {incoming : Option Fd} {started started' : List Pid} {list : List Stage} {events : List Event}
  {failure : Option LaunchError} {fds : List Fd} {first : Option End}

/-- The ends of a pipe that was made are open besides what was open before. -/
theorem Piped.holds (piped : Piped rest events ends) (granted : h.Granted events)
    (holds : Holds own fds h.shell) :
    Holds own ((ends.map Prod.snd).toList ++ ((ends.map Prod.fst).toList ++ fds))
        (h.afterAll events).shell ∧
      ∀ fd ∈ fds, (h.afterAll events).shell.lookup fd = h.shell.lookup fd := by
  cases piped with
  | last => exact ⟨holds, fun _ _ => rfl⟩
  | @between _ _ ends =>
    obtain ⟨⟨reading, writing, hne⟩, -⟩ := granted
    obtain ⟨opened, same⟩ := holds.insert reading (.reading h.pipes)
    have unused : (h.shell.insert ends.1 ⟨.reading h.pipes, true⟩).lookup ends.2 = none := by
      rw [Descriptors.lookup_insert, if_neg hne.symm, writing]
    obtain ⟨opened', same'⟩ := opened.insert unused (.writing h.pipes)
    exact ⟨opened', fun fd hfd => (same' fd (List.mem_cons_of_mem _ hfd)).trans (same fd hfd)⟩

/-- What the new descriptors refer to. -/
theorem Piped.targets (piped : Piped rest events ends) (granted : h.Granted events) :
    (ends.map Prod.fst).map (h.afterAll events).shell.target? =
        (ends.map fun _ => End.reading h.pipes).map some ∧
      (ends.map Prod.snd).map (h.afterAll events).shell.target? =
        (ends.map fun _ => End.writing h.pipes).map some := by
  cases piped with
  | last => exact ⟨rfl, rfl⟩
  | @between _ _ ends =>
    obtain ⟨⟨reading, writing, hne⟩, -⟩ := granted
    simp [Holding.after, Holding.piped, Descriptors.target?, Descriptors.lookup_insert, hne]

theorem Piped.images_eq (piped : Piped rest events ends) :
    (h.afterAll events).images = h.images := by
  cases piped <;> rfl

theorem Piped.pipes_eq (piped : Piped rest events ends) :
    (h.afterAll events).pipes = h.pipes + ends.toList.length := by
  cases piped <;> rfl

/-- The descriptors that are closed once a stage was started, and those that are left. -/
theorem perm_others {stage : Stage} {reading writing : List Fd} (next : Option Fd)
    (hnext : next.toList = reading) :
    (writing ++ (reading ++ others (stage :: rest) incoming)).Perm
      ((writing ++ stage.files ++ incoming.toList) ++ others rest next) := by
  refine List.perm_iff_count.mpr fun fd => ?_
  simp only [others, List.map_cons, List.flatten_cons, List.count_append, hnext]
  omega

/-- **Whatever is refused, a launch leaves nothing open that was opened for it.** -/
theorem Launched.closes (launched : Launched incoming started list events started' failure) :
    ∀ {h : Holding}, h.Granted events → Holds own (others list incoming) h.shell →
      (h.afterAll events).shell = own := by
  induction launched with
  | @done incoming _ =>
    intro h _ holds
    rw [Holding.afterAll_closings]
    exact (holds.perm (.of_eq (List.append_nil _).symm)).closeAll.1.eq_own
  | noPipe =>
    intro h _ holds
    rw [Holding.afterAll_cons, Holding.afterAll_closings]
    refine (holds.perm (.of_eq ?_)).closeAll.1.eq_own
    simp [others]
  | noFork piped =>
    intro h granted holds
    obtain ⟨granted, -⟩ := Holding.granted_append.mp granted
    rw [Holding.afterAll_append, Holding.afterAll_cons, Holding.afterAll_closings]
    refine ((piped.holds granted holds).1.perm (.of_eq ?_)).closeAll.1.eq_own
    simp [others]
  | forked piped _ ih =>
    intro h granted holds
    obtain ⟨piping, granted⟩ := Holding.granted_append.mp granted
    rw [Holding.afterAll_append, Holding.afterAll_forked]
    exact ih (Holding.granted_forked granted)
      ((piped.holds piping holds).1.perm (perm_others _ rfl)).closeAll.1

/-- With every stage started, there is a pipe between any two neighbours. -/
theorem Launched.pipes_eq (launched : Launched incoming started list events started' failure) :
    ∀ {h : Holding}, failure = none → (h.afterAll events).pipes = h.pipes + (list.length - 1) := by
  induction launched with
  | done => intro h _; rw [Holding.afterAll_closings]; rfl
  | noPipe | noFork _ => intro h hfailure; cases hfailure
  | forked piped _ ih =>
    intro h hfailure
    rw [Holding.afterAll_append, Holding.afterAll_forked, ih hfailure, piped.pipes_eq]
    cases piped with
    | last => rfl
    | between => simp only [Option.toList_some, List.length_cons, List.length_nil]; omega

/-- What the pipes give a stage to read from; the first has `first`. -/
def upstream (first : Option End) (pipes : Nat) : Nat → Option End
  | 0 => first
  | i + 1 => some (.reading (pipes + i))

/-- What the pipes give a stage to write to, of `count` stages. -/
def downstream (pipes count i : Nat) : Option End :=
  if i + 1 < count then some (.writing (pipes + i)) else none

theorem map_some_getD {α : Type} (a b : Option α) : (a.map some).getD b = a.or b := by
  cases a <;> rfl

/-- A stage writes to the pipe that was made for it. -/
theorem Piped.downstream_eq (piped : Piped rest events ends) (pipes : Nat) :
    (ends.map fun _ => End.writing pipes) = downstream pipes (rest.length + 1) 0 := by
  cases piped with
  | last => rfl
  | between => simp [downstream]

/-- The image of a stage, when its pipe is made and it is started. -/
theorem Piped.image (piped : Piped rest events ends) {stage : Stage} (started : List Pid)
    (standard : StandardOpen own) (granted : h.Granted events)
    (holds : Holds own (others (stage :: rest) incoming) h.shell)
    (reads : incoming.map h.shell.target? = first.map some) :
    ∃ image, (stage.child incoming ends started).image (h.afterAll events).shell = some image ∧
      ∀ fd, image.target? fd = stage.finds h.shell own.afterExecute first
        (downstream h.pipes (rest.length + 1) 0) fd := by
  obtain ⟨holds', same⟩ := piped.holds granted holds
  -- the files of the stage and the end that it reads from were open before the pipe was made
  have files : ∀ fd ∈ stage.files, fd ∈ others (stage :: rest) incoming := fun fd hfd => by
    simp [others, hfd]
  have reading : ∀ fd ∈ incoming, fd ∈ others (stage :: rest) incoming := fun fd hfd => by
    simp [others, Option.mem_def.mp hfd]
  have source : ∀ fd ∈ stage.input, fd ∈ stage.files := fun fd hfd =>
    List.mem_append_left _ (Option.mem_toList.mpr hfd)
  have sink : ∀ fd ∈ stage.output, fd ∈ stage.files := fun fd hfd =>
    List.mem_append_right _ (Option.mem_toList.mpr hfd)
  have before : ∀ fd ∈ others (stage :: rest) incoming,
      (h.afterAll events).shell.target? fd = h.shell.target? fd := fun fd hfd =>
    Descriptors.target?_congr (same fd hfd)
  have input : ∀ fd ∈ (stage.child incoming ends started).input,
      fd ∈ others (stage :: rest) incoming := fun fd hfd => by
    rw [Stage.input_child, Option.mem_def, Option.or_eq_some_iff] at hfd
    exact hfd.elim (fun h => files fd (source fd h)) fun h => reading fd h.2
  have output : ∀ fd ∈ (stage.child incoming ends started).output,
      fd ∈ others (stage :: rest) incoming ∨ fd ∈ ends.map Prod.snd := fun fd hfd => by
    rw [Stage.output_child, Option.mem_def, Option.or_eq_some_iff] at hfd
    exact hfd.imp (fun h => files fd (sink fd h)) And.right
  obtain ⟨image, himage, found⟩ := holds'.image standard
    (fun fd hfd => List.mem_append_right _ (List.mem_append_right _ (input fd hfd)))
    (fun fd hfd => (output fd hfd).elim
      (fun h => List.mem_append_right _ (List.mem_append_right _ h))
      fun h => List.mem_append_left _ (Option.mem_toList.mpr h))
  refine ⟨image, himage, fun fd => ?_⟩
  rw [found, Stage.finds]
  refine ite_congr rfl (fun _ => ?_) fun _ => ite_congr rfl (fun _ => ?_) fun _ => rfl
  · rw [Stage.input_child, Option.map_or, Option.getD_or,
      Option.map_congr fun fd hfd => before fd (reading fd hfd), reads, map_some_getD,
      Option.map_congr fun fd hfd => before fd (files fd (source fd hfd))]
  · rw [Stage.output_child, Option.map_or, Option.getD_or, (piped.targets granted).2, map_some_getD,
      piped.downstream_eq, Option.map_congr fun fd hfd => before fd (files fd (sink fd hfd))]

/-- Some images are those of the first of some stages: each finds the files of its stage in the
table `d`, or the pipes to its neighbours, or what the shell has of its own. -/
def Wired (list : List Stage) (d own : Descriptors End) (first : Option End) (pipes : Nat)
    (images : List (Descriptors End)) : Prop :=
  ∀ (i : Nat) (stage : Stage) (image : Descriptors End), list[i]? = some stage →
    images[i]? = some image → ∀ fd, image.target? fd =
      stage.finds d own (upstream first pipes i) (downstream pipes list.length i) fd

/-- The images of a stage and of those that follow it. -/
theorem Wired.cons {stage : Stage} {d d' : Descriptors End} {pipes : Nat} {image : Descriptors End}
    {images : List (Descriptors End)} (piped : Piped rest events ends)
    (head : ∀ fd, image.target? fd =
      stage.finds d own first (downstream pipes (rest.length + 1) 0) fd)
    (tail : Wired rest d' own (ends.map fun _ => .reading pipes) (pipes + ends.toList.length)
      images)
    (same : ∀ fd ∈ (rest.map Stage.files).flatten, d'.lookup fd = d.lookup fd) :
    Wired (stage :: rest) d own first pipes (image :: images) := by
  intro i other image' hstage himage fd
  cases i with
  | zero =>
    obtain rfl := Option.some.inj hstage
    obtain rfl := Option.some.inj himage
    exact head fd
  | succ i =>
    have hother : rest[i]? = some other := hstage
    have files : ∀ fd ∈ other.files, d'.lookup fd = d.lookup fd := fun fd hfd =>
      same fd (List.mem_flatten_of_mem (List.mem_map_of_mem (List.mem_of_getElem? hother)) hfd)
    rw [tail i other image' hother himage fd, Stage.finds_congr files]
    cases piped with
    | last => cases hother
    | between =>
      congr 1
      · cases i with
        | zero => rfl
        | succ i =>
          simp only [upstream, Option.toList_some, List.length_cons, List.length_nil]
          congr 2
          omega
      · simp only [downstream, Option.toList_some, List.length_cons, List.length_nil]
        refine ite_congr (by simp) (fun _ => ?_) fun _ => rfl
        congr 2
        omega

/-- **The images of the stages that were started, in order.** -/
theorem Launched.wired (launched : Launched incoming started list events started' failure)
    (standard : StandardOpen own) :
    ∀ {h : Holding} (first : Option End), h.Granted events →
      Holds own (others list incoming) h.shell →
      incoming.map h.shell.target? = first.map some →
      ∃ images : List (Descriptors End), (h.afterAll events).images = h.images ++ images.map some ∧
        images.length = (forks events).length ∧
        Wired list h.shell own.afterExecute first h.pipes images := by
  induction launched with
  | done =>
    intro h first _ _ _
    exact ⟨[], by simp, by simp, nofun⟩
  | noPipe =>
    intro h first _ _ _
    exact ⟨[], by simp [Holding.after], by simp, nofun⟩
  | noFork piped =>
    intro h first _ _ _
    refine ⟨[], ?_, by simp [piped.forks_eq], nofun⟩
    simp [Holding.after, piped.images_eq]
  | @forked incoming started stage rest piping ends pid answer events _ _ piped _ ih =>
    intro h first granted holds reads
    obtain ⟨piping_granted, granted⟩ := Holding.granted_append.mp granted
    obtain ⟨image, himage, found⟩ :=
      piped.image started standard piping_granted holds reads
    obtain ⟨holds', same⟩ := piped.holds piping_granted holds
    obtain ⟨left, kept⟩ := (holds'.perm (perm_others (ends.map Prod.fst) rfl)).closeAll
    -- the end that the next stage reads from is not closed
    have reads' := (Option.map_congr fun fd hfd => Descriptors.target?_congr
      (kept fd (List.mem_append_right _ (Option.mem_toList.mpr hfd)))).trans
        (piped.targets piping_granted).1
    obtain ⟨images, himages, hlength, wired⟩ := ih _ (Holding.granted_forked granted) left reads'
    refine ⟨image :: images, ?_, ?_, ?_⟩
    · rw [Holding.afterAll_append, Holding.afterAll_forked, himages, piped.images_eq, himage]
      simp
    · simp [piped.forks_eq, hlength]
    · refine .cons piped found (piped.pipes_eq ▸ wired) fun fd hfd => ?_
      refine (kept fd (List.mem_append_left _ hfd)).trans (same fd ?_)
      simp only [others, List.map_cons, List.flatten_cons, List.mem_append]
      exact .inl (.inr hfd)

end Spawn

end JobControl
