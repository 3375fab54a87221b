import JobControl.Machine.Perform

/-!
# What opening a file does to the file tree

A file that is opened for reading leaves the tree as it is.  One that is opened for writing from the
start is emptied if it is there, and created in its directory if not; nothing else changes.

## Main definitions

* `FileTree.overwrite t mode target` — the tree after `target` was opened for writing.
* `FileTree.Overwritten` — what becomes of each node when some targets are opened for writing.
* `Machine.withOpen` — the machine with one more open file.

## Main results

* `FileTree.overwritten_overwriteAll` — **no node is touched but the targets and their
  directories.**
* `Machine.opening_openFile` — **a file is opened at once, or refused without any change.**
-/

namespace JobControl

/-! ### The tree -/

namespace FileTree

/-- What becomes of the tree when the target of a path is opened for writing from the start: a file
is emptied, or created if there is none. -/
def overwrite (t : FileTree) (mode : Nat) : Target → FileTree
  | .node ino => t.truncate ino
  | .absent directory name => (t.add directory name (.regular ByteArray.empty) mode).2
  | _ => t

/-- What becomes of it when several targets are opened, one after the other. -/
def overwriteAll (t : FileTree) (mode : Nat) (targets : List Target) : FileTree :=
  targets.foldl (fun t target => t.overwrite mode target) t

/-- What becomes of a node when targets are opened for writing. -/
inductive Touched (targets : List Target) (ino : Ino) : Inode → Inode → Prop
  | kept (inode : Inode) : Touched targets ino inode inode
  /-- A file that is a target is emptied. -/
  | emptied {inode : Inode} {content : ByteArray} (modified : Nat) :
      inode.node = .regular content → .node ino ∈ targets →
      Touched targets ino inode { inode with node := .regular ByteArray.empty, modified }
  /-- A directory gets the names of files that are created in it. -/
  | extended {inode : Inode} {parent : Ino} {linked : Bool} {entries names : List (String × Ino)}
      (modified : Nat) : inode.node = .directory parent linked entries →
      (∀ entry ∈ names, .absent ino entry.1 ∈ targets) →
      Touched targets ino inode
        { inode with node := .directory parent linked (entries ++ names), modified }

/-- A tree in which targets were opened for writing, and the tree before. -/
structure Overwritten (mode : Nat) (targets : List Target) (t t' : FileTree) : Prop where
  old : ∀ ino inode, t.nodes[ino]? = some inode →
    ∃ inode', t'.nodes[ino]? = some inode' ∧ Touched targets ino inode inode'
  emptied : ∀ ino content, t.node? ino = some (.regular content) → .node ino ∈ targets →
    t'.node? ino = some (.regular ByteArray.empty)
  created : ∀ ino inode, t.nodes.size ≤ ino → t'.nodes[ino]? = some inode →
    inode.node = .regular ByteArray.empty ∧ inode.mode = mode

variable {t t' t'' : FileTree} {mode : Nat} {targets more : List Target} {ino directory : Ino}
  {inode inode' : Inode} {name : String} {node : Node} {target : Target}

theorem getElem?_setNode (ino other : Ino) : (t.setNode ino node).nodes[other]? =
    if ino = other then (t.nodes[other]?).map fun inode => { inode with node, modified := t.now }
    else t.nodes[other]? := by
  rw [setNode, Array.getElem?_modify]

theorem node?_eq_some_iff : t.node? ino = some node ↔
    ∃ inode, t.nodes[ino]? = some inode ∧ inode.node = node := Option.map_eq_some_iff

/-- Only a file is emptied. -/
theorem truncate_of_regular {content : ByteArray} (h : t.node? ino = some (.regular content)) :
    t.truncate ino = t.setNode ino (.regular ByteArray.empty) := by
  rw [truncate, h]

theorem truncate_of_other (h : ∀ content, t.node? ino ≠ some (.regular content)) :
    t.truncate ino = t := by
  unfold truncate
  split
  · next content hnode => exact absurd hnode (h content)
  · rfl

/-- A file stays a file, with the content that it had or without any. -/
theorem Touched.of_regular {content : ByteArray} (h : Touched targets ino inode inode')
    (hnode : inode.node = .regular content) :
    (inode'.node = .regular content ∨ inode'.node = .regular ByteArray.empty) ∧
      inode'.mode = inode.mode := by
  cases h with
  | kept => exact ⟨.inl hnode, rfl⟩
  | emptied => exact ⟨.inr rfl, rfl⟩
  | extended _ directory _ => exact nomatch hnode.symm.trans directory

theorem Touched.trans {inode'' : Inode} (h : Touched targets ino inode inode')
    (h' : Touched more ino inode' inode'') : Touched (targets ++ more) ino inode inode'' := by
  cases h with
  | kept =>
    cases h' with
    | kept => exact .kept _
    | emptied modified regular mem => exact .emptied modified regular (List.mem_append_right _ mem)
    | extended modified directory mem =>
      exact .extended modified directory fun entry h => List.mem_append_right _ (mem entry h)
  | emptied modified regular mem =>
    have mem := List.mem_append_left more mem
    cases h' with
    | kept => exact .emptied modified regular mem
    | emptied modified' _ _ => exact .emptied modified' regular mem
    | extended _ directory _ => cases directory
  | extended modified directory mem =>
    have mem := fun entry h => List.mem_append_left more (mem entry h)
    cases h' with
    | kept => exact .extended modified directory mem
    | emptied _ regular _ => cases regular
    | extended modified' directory' mem' =>
      cases directory'
      rw [List.append_assoc]
      refine .extended modified' directory (List.forall_mem_append.mpr ⟨mem, fun entry h => ?_⟩)
      exact List.mem_append_right _ (mem' entry h)

/-- Nothing becomes of targets none of which is a file. -/
theorem Overwritten.same (mode : Nat)
    (others : ∀ ino content, .node ino ∈ targets → t.node? ino ≠ some (.regular content)) :
    Overwritten mode targets t t where
  old _ inode h := ⟨inode, h, .kept inode⟩
  emptied ino content h mem := absurd h (others ino content mem)
  created ino inode hsize h := by
    rw [Array.getElem?_eq_none hsize] at h
    cases h

theorem Overwritten.trans (h : Overwritten mode targets t t') (h' : Overwritten mode more t' t'') :
    Overwritten mode (targets ++ more) t t'' where
  old ino inode hinode := by
    obtain ⟨inode', hinode', touched⟩ := h.old ino inode hinode
    obtain ⟨inode'', hinode'', touched'⟩ := h'.old ino inode' hinode'
    exact ⟨inode'', hinode'', touched.trans touched'⟩
  emptied ino content hnode mem := by
    -- what is a file before is a file in between
    obtain ⟨inode, hinode, regular⟩ := node?_eq_some_iff.mp hnode
    obtain ⟨inode', hinode', touched⟩ := h.old ino inode hinode
    rcases List.mem_append.mp mem with mem | mem
    · obtain ⟨middle, hmiddle, empty⟩ := node?_eq_some_iff.mp (h.emptied ino content hnode mem)
      obtain ⟨inode'', hinode'', touched'⟩ := h'.old ino middle hmiddle
      exact node?_eq_some_iff.mpr ⟨inode'', hinode'', (touched'.of_regular empty).1.elim id id⟩
    · rcases (touched.of_regular regular).1 with regular | regular
      · exact h'.emptied ino _ (node?_eq_some_iff.mpr ⟨inode', hinode', regular⟩) mem
      · exact h'.emptied ino _ (node?_eq_some_iff.mpr ⟨inode', hinode', regular⟩) mem
  created ino inode hsize hinode := by
    by_cases hsize' : t'.nodes.size ≤ ino
    · exact h'.created ino inode hsize' hinode
    · have hmiddle := Array.getElem?_eq_getElem (Nat.not_le.mp hsize')
      obtain ⟨empty, hmode⟩ := h.created ino _ hsize hmiddle
      obtain ⟨inode', hinode', touched⟩ := h'.old ino _ hmiddle
      obtain rfl := Option.some.inj (hinode.symm.trans hinode')
      obtain ⟨regular, hmode'⟩ := touched.of_regular empty
      exact ⟨regular.elim id id, hmode'.trans hmode⟩

theorem Overwritten.size_le (h : Overwritten mode targets t t') :
    t.nodes.size ≤ t'.nodes.size := by
  refine Nat.le_of_not_lt fun hlt => ?_
  obtain ⟨_, hinode, -⟩ := h.old _ _ (Array.getElem?_eq_getElem hlt)
  rw [Array.getElem?_eq_none (Nat.le_refl _)] at hinode
  cases hinode

theorem overwritten_truncate (t : FileTree) (mode : Nat) (ino : Ino) :
    Overwritten mode [.node ino] t (t.truncate ino) := by
  by_cases regular : ∃ content, t.node? ino = some (.regular content)
  · obtain ⟨content, hnode⟩ := regular
    rw [truncate_of_regular hnode]
    obtain ⟨inode, hinode, regular⟩ := node?_eq_some_iff.mp hnode
    refine ⟨fun other found hfound => ?_, fun other _ _ mem => ?_,
      fun other found hsize hfound => ?_⟩
    · rw [getElem?_setNode, hfound]
      split
      · next heq =>
        subst heq
        obtain rfl := Option.some.inj (hfound.symm.trans hinode)
        exact ⟨_, rfl, .emptied _ regular (List.mem_singleton_self _)⟩
      · exact ⟨found, rfl, .kept found⟩
    · cases List.mem_singleton.mp mem
      rw [node?, getElem?_setNode, if_pos rfl, hinode]
      rfl
    · rw [getElem?_setNode, Array.getElem?_eq_none hsize] at hfound
      split at hfound <;> cases hfound
  · have other : ∀ content, t.node? ino ≠ some (.regular content) :=
      fun content h => regular ⟨content, h⟩
    rw [truncate_of_other other]
    refine .same mode fun found content mem => ?_
    cases List.mem_singleton.mp mem
    exact other content

/-- Only a directory has names. -/
theorem setEntries_eq (t : FileTree) (directory : Ino) (entries : List (String × Ino)) :
    (∃ parent linked before, t.node? directory = some (.directory parent linked before) ∧
      t.setEntries directory entries = t.setNode directory (.directory parent linked entries)) ∨
    t.setEntries directory entries = t := by
  unfold setEntries
  split
  · next parent linked before h => exact .inl ⟨parent, linked, before, h, rfl⟩
  · exact .inr rfl

/-- The tree with one more node, which has no name yet. -/
def withNode (t : FileTree) (node : Node) (mode : Nat) : FileTree :=
  { t with nodes := t.nodes.push { node, mode, modified := t.now } }

theorem getElem?_withNode (ino : Ino) : (t.withNode node mode).nodes[ino]? =
    if ino = t.nodes.size then some { node, mode, modified := t.now } else t.nodes[ino]? :=
  Array.getElem?_push

theorem getElem?_withNode_of_old (h : t.nodes[ino]? = some inode) :
    (t.withNode node mode).nodes[ino]? = some inode := by
  rw [getElem?_withNode, if_neg (Nat.ne_of_lt (Array.getElem?_eq_some_iff.mp h).1), h]

theorem eq_of_withNode (hsize : t.nodes.size ≤ ino)
    (h : (t.withNode node mode).nodes[ino]? = some inode) :
    ino = t.nodes.size ∧ inode = { node, mode, modified := t.now } := by
  rw [getElem?_withNode] at h
  split at h
  · next heq => exact ⟨heq, (Option.some.inj h).symm⟩
  · rw [Array.getElem?_eq_none hsize] at h
    cases h

/-- What is created gets a name, if it is put into a directory and is none itself. -/
theorem add_eq (file : node.isDirectory = false) :
    (∃ inode parent linked entries, t.nodes[directory]? = some inode ∧
      inode.node = .directory parent linked entries ∧ directory < t.nodes.size ∧
      (t.add directory name node mode).2 = (t.withNode node mode).setNode directory
        (.directory parent linked (entries ++ [(name, t.nodes.size)]))) ∨
    (t.add directory name node mode).2 = t.withNode node mode := by
  change (∃ inode parent linked entries, t.nodes[directory]? = some inode ∧
      inode.node = .directory parent linked entries ∧ directory < t.nodes.size ∧
      (t.withNode node mode).setEntries directory (t.entries directory ++ [(name, t.nodes.size)]) =
        (t.withNode node mode).setNode directory
          (.directory parent linked (entries ++ [(name, t.nodes.size)]))) ∨
    (t.withNode node mode).setEntries directory (t.entries directory ++ [(name, t.nodes.size)]) =
      t.withNode node mode
  refine (setEntries_eq _ directory _).imp_left ?_
  rintro ⟨parent, linked, entries, hnode, heq⟩
  obtain ⟨inode, hinode, isDirectory⟩ := node?_eq_some_iff.mp hnode
  have hlt : directory < t.nodes.size := by
    refine Nat.lt_of_not_le fun hsize => ?_
    obtain ⟨-, rfl⟩ := eq_of_withNode hsize hinode
    obtain rfl : node = .directory parent linked entries := isDirectory
    cases file
  rw [getElem?_withNode, if_neg (Nat.ne_of_lt hlt)] at hinode
  have hold : t.entries directory = entries := by
    rw [FileTree.entries, node?_eq_some_iff.mpr ⟨inode, hinode, isDirectory⟩]
  exact ⟨inode, parent, linked, entries, hinode, isDirectory, hlt, hold ▸ heq⟩

/-- A file is created in a directory. -/
theorem overwritten_add (t : FileTree) (mode : Nat) (directory : Ino) (name : String) :
    Overwritten mode [.absent directory name] t
      (t.add directory name (.regular ByteArray.empty) mode).2 := by
  have emptied : ∀ (t' : FileTree) (ino : Ino) (content : ByteArray),
      t.node? ino = some (.regular content) → .node ino ∈ [Target.absent directory name] →
      t'.node? ino = some (.regular ByteArray.empty) :=
    fun _ _ _ _ mem => (nomatch List.mem_singleton.mp mem)
  have file : (Node.regular ByteArray.empty).isDirectory = false := rfl
  rcases add_eq file with ⟨inode, parent, linked, entries, hold, isDirectory, hlt, heq⟩ | heq
  · rw [heq]
    refine ⟨fun ino found hfound => ?_, emptied _, fun ino found hsize hfound => ?_⟩
    · rw [getElem?_setNode, getElem?_withNode_of_old hfound]
      split
      · next heq =>
        subst heq
        obtain rfl := Option.some.inj (hfound.symm.trans hold)
        exact ⟨_, rfl, .extended _ isDirectory
          (List.forall_mem_singleton.mpr (List.mem_singleton_self _))⟩
      · exact ⟨found, rfl, .kept found⟩
    · rw [getElem?_setNode, if_neg (Nat.ne_of_lt (Nat.lt_of_lt_of_le hlt hsize))] at hfound
      obtain ⟨-, rfl⟩ := eq_of_withNode hsize hfound
      exact ⟨rfl, rfl⟩
  · rw [heq]
    refine ⟨fun ino inode h => ⟨inode, getElem?_withNode_of_old h, .kept inode⟩, emptied _,
      fun ino inode hsize h => ?_⟩
    obtain ⟨-, rfl⟩ := eq_of_withNode hsize h
    exact ⟨rfl, rfl⟩

theorem overwritten_overwrite (t : FileTree) (mode : Nat) (target : Target) :
    Overwritten mode [target] t (t.overwrite mode target) := by
  cases target with
  | node ino => exact overwritten_truncate t mode ino
  | absent directory name => exact overwritten_add t mode directory name
  | pipe _ | text _ | listing _ =>
    exact .same mode fun ino _ mem => nomatch List.mem_singleton.mp mem

/-- **When targets are opened for writing from the start, the files among them are emptied and those
that are missing are created empty; the directories of these get their names, and no other node is
touched.** -/
theorem overwritten_overwriteAll (t : FileTree) (mode : Nat) (targets : List Target) :
    Overwritten mode targets t (t.overwriteAll mode targets) := by
  induction targets generalizing t with
  | nil => exact .same mode nofun
  | cons target targets ih => exact (overwritten_overwrite t mode target).trans (ih _)

/-- What was created is found in its place. -/
theorem getElem?_add (file : node.isDirectory = false) :
    (t.add directory name node mode).2.nodes[t.nodes.size]? =
      some { node, mode, modified := t.now } := by
  have new : (t.withNode node mode).nodes[t.nodes.size]? = some { node, mode, modified := t.now } :=
    (getElem?_withNode _).trans (if_pos rfl)
  rcases add_eq file with ⟨inode, parent, linked, entries, -, -, hlt, heq⟩ | heq
  · rw [heq, getElem?_setNode, if_neg (Nat.ne_of_lt hlt), new]
  · rw [heq, new]

theorem setNode_eq_self (h : t.nodes[ino]? = some inode) (hnow : inode.modified = t.now) :
    t.setNode ino inode.node = t := by
  refine congrArg (FileTree.mk · t.now) (Array.ext_getElem? fun other => ?_)
  rw [Array.getElem?_modify]
  split
  · next heq => rw [← heq, h, Option.map_some, ← hnow]
  · rfl

/-- A file that was just created is empty already. -/
theorem truncate_add :
    (t.add directory name (.regular ByteArray.empty) mode).2.truncate t.nodes.size =
      (t.add directory name (.regular ByteArray.empty) mode).2 := by
  have file : (Node.regular ByteArray.empty).isDirectory = false := rfl
  have hnow : (t.add directory name (.regular ByteArray.empty) mode).2.now = t.now := by
    rcases add_eq file with ⟨_, _, _, _, -, -, -, heq⟩ | heq <;> exact heq ▸ rfl
  have new : (t.add directory name (.regular ByteArray.empty) mode).2.nodes[t.nodes.size]? = _ :=
    getElem?_add file
  rw [truncate_of_regular (node?_eq_some_iff.mpr ⟨_, new, rfl⟩)]
  exact setNode_eq_self new hnow.symm

end FileTree

namespace Machine

/-- The machine with one more open file, and what has become of the file tree. -/
def withOpen (m : Machine) (pid : Pid) (fd : Fd) (files : FileTree) (file : OpenFile) : Machine :=
  { m with files, opened := m.opened.push file }.update pid fun p =>
    { p with descriptors := p.descriptors.insert fd ⟨m.opened.size, true⟩ }

variable {m : Machine} {pid : Pid} {p : Process} {ino : Ino} {path : String} {permissions : Nat}

/-- A process that has room for a descriptor gets one. -/
theorem installNew_eq (process : m.process? pid = some p)
    (room : p.descriptors.free 0 < p.limit) (file : OpenFile) :
    m.installNew pid file true =
      (m.withOpen pid (p.descriptors.free 0) m.files file, .ok (p.descriptors.free 0)) := by
  have process : ({ m with opened := m.opened.push file } : Machine).process? pid = some p :=
    process
  rw [installNew, install, process]
  dsimp only
  rw [if_neg (Nat.not_le.mpr room)]
  rfl

/-- What is opened: the file tree is what has become of it, or nothing has changed. -/
inductive Answers (m : Machine) (pid : Pid) (p : Process) (files : FileTree) :
    Machine × Reply (Except Errno Fd) → Prop
  | refused (e : Errno) : Answers m pid p files (m, .answer (.error e))
  | opened (file : OpenFile) : Answers m pid p files
      (m.withOpen pid (p.descriptors.free 0) files file, .answer (.ok (p.descriptors.free 0)))

/-- What becomes of the file tree when a node is opened. -/
def filesAfter (m : Machine) (mode : OpenMode) (ino : Ino) : FileTree :=
  if mode = .overwrite then m.files.truncate ino else m.files

/-- What opens for a process that has room for a descriptor. -/
theorem installNew_answers (process : m.process? pid = some p)
    (room : p.descriptors.free 0 < p.limit) (files : FileTree) (file : OpenFile) :
    m.Answers pid p files
      ((({ m with files } : Machine).installNew pid file true).map id Reply.answer) := by
  have process : ({ m with files } : Machine).process? pid = some p := process
  rw [installNew_eq process room]
  exact .opened file

theorem openNode_answers (process : m.process? pid = some p)
    (room : p.descriptors.free 0 < p.limit) (mode : OpenMode)
    (other : m.files.node? ino ≠ some .fifo) :
    m.Answers pid p (m.filesAfter mode ino) (m.openNode pid p ino false mode true) := by
  have plain : ∀ file, m.filesAfter mode ino = m.files → m.Answers pid p (m.filesAfter mode ino)
      ((m.installNew pid file true).map id Reply.answer) := fun file same =>
    same ▸ installNew_answers process room m.files file
  -- what is no file is not emptied
  have same : (∀ content, m.files.node? ino ≠ some (.regular content)) →
      m.filesAfter mode ino = m.files := fun h => by
    rw [filesAfter, FileTree.truncate_of_other h, ite_self]
  unfold openNode
  dsimp only
  split
  · exact .refused _
  · split
    · next hfifo => exact absurd hfifo other
    · next hterminal =>
      split
      · exact plain _ (same fun content h => nomatch hterminal.symm.trans h)
      · exact .refused _
    · next content hregular =>
      split
      · exact .refused _
      · split
        · next hmode =>
          rw [filesAfter, if_pos hmode]
          exact installNew_answers process room _ _
        · next hmode => exact plain _ (if_neg hmode)
    · next _ _ _ hregular => exact plain _ (same hregular)

/-- The programs that are carried out are in the tree. -/
def ImagesKnown (m : Machine) : Prop :=
  ∀ entry ∈ m.processes, ∀ ino ∈ entry.2.image, ino < m.files.nodes.size

/-- Nobody carries out a program that is not there yet. -/
theorem ImagesKnown.isExecuted_eq (known : m.ImagesKnown) :
    m.isExecuted m.files.nodes.size = false := by
  refine List.any_eq_false.mpr fun entry hentry himage => ?_
  have hlt := known entry (List.mem_filter.mp hentry).1 _ (of_decide_eq_true himage)
  exact absurd hlt (Nat.lt_irrefl _)

/-- A file that was just created is opened. -/
theorem openNode_created (process : m.process? pid = some p)
    (room : p.descriptors.free 0 < p.limit) (known : m.ImagesKnown) (directory : Ino)
    (name : String) (mode : Nat) :
    m.Answers pid p (m.files.add directory name (.regular ByteArray.empty) mode).2
      (({ m with files := (m.files.add directory name (.regular ByteArray.empty) mode).2 } :
        Machine).openNode pid p m.files.nodes.size true .overwrite true) := by
  have new : (m.files.add directory name (.regular ByteArray.empty) mode).2.node?
      m.files.nodes.size = some (.regular ByteArray.empty) :=
    FileTree.node?_eq_some_iff.mpr ⟨_, FileTree.getElem?_add rfl, rfl⟩
  have unused :
      ({ m with files := (m.files.add directory name (.regular ByteArray.empty) mode).2 } :
        Machine).isExecuted m.files.nodes.size = false := known.isExecuted_eq
  have installed := installNew_answers process room
    (m.files.add directory name (.regular ByteArray.empty) mode).2
  simp only [openNode, Bool.true_or, Bool.not_true, Bool.false_eq_true, if_false, new, unused,
    Bool.and_false, if_true, FileTree.truncate_add]
  exact installed _

theorem openTarget_read_answers (process : m.process? pid = some p)
    (room : p.descriptors.free 0 < p.limit) {target : Target}
    (other : ∀ ino, target = .node ino → m.files.node? ino ≠ some .fifo) (slash : Bool) :
    m.Answers pid p m.files (m.openTarget pid p target slash .read permissions true) := by
  have installed := installNew_answers process room m.files
  cases target with
  | node ino =>
    rw [openTarget]
    split
    · exact .refused _
    · exact openNode_answers process room .read (other ino rfl)
  | absent _ _ => exact .refused _
  | pipe _ | text _ | listing _ => exact installed _

/-- What a path leads to is emptied or created if it is opened for writing. -/
theorem openTarget_overwrite_answers (process : m.process? pid = some p)
    (room : p.descriptors.free 0 < p.limit) (known : m.ImagesKnown) {target : Target}
    (other : ∀ ino, target = .node ino → m.files.node? ino ≠ some .fifo) (slash : Bool) :
    m.Answers pid p (m.files.overwrite (permissions - (permissions &&& p.mask)) target)
      (m.openTarget pid p target slash .overwrite permissions true) := by
  cases target with
  | node ino =>
    simp only [openTarget, FileTree.openPlace]
    cases slash || m.files.isDirectory ino with
    | true => exact .refused _
    | false => exact openNode_answers process room .overwrite (other ino rfl)
  | absent directory name =>
    simp only [openTarget, FileTree.openPlace]
    cases m.files.checkChange directory with
    | error e => exact .refused e
    | ok _ => exact openNode_created process room known directory name _
  | pipe _ => exact installNew_answers process room m.files _
  | text _ | listing _ => exact .refused _

end Machine

/-! ### Redirections -/

namespace Redirection

/-- How the file of a redirection is opened, and the permissions that it gets if it is new. -/
def mode : Redirection → OpenMode
  | input => .read
  | output => .overwrite

def permissions : Redirection → Nat
  | input => 0
  | output => FileTree.fileMode

/-- What is done at the last name of its path. -/
def ending : Redirection → Ending
  | input => .follow
  | output => .create

/-- What becomes of the file tree when the file is opened; a new file does not get the permissions
in `mask`. -/
def effect (r : Redirection) (mask : Nat) (t : FileTree) (target : Target) : FileTree :=
  match r with
  | input => t
  | output => t.overwrite (FileTree.fileMode - (FileTree.fileMode &&& mask)) target

theorem overwritten_effect (r : Redirection) (mask : Nat) (t : FileTree) (target : Target) :
    t.nodes.size ≤ (r.effect mask t target).nodes.size := by
  cases r with
  | input => exact Nat.le_refl _
  | output => exact (FileTree.overwritten_overwrite t _ target).size_le

end Redirection

namespace Machine

variable {m : Machine} {pid : Pid} {p : Process} {r : Redirection} {path : String}

/-- What comes of opening the file of a redirection: nothing has changed, or there is one more open
file, and the target of the path is what it is to become. -/
inductive Opening (m : Machine) (pid : Pid) (p : Process) (r : Redirection) (path : String) :
    Machine × Reply (Except Errno Fd) → Prop
  | refused (e : Errno) : Opening m pid p r path (m, .answer (.error e))
  | opened {target : Target} {slash : Bool} (file : OpenFile) :
      m.resolve pid p r.ending path = .ok (target, slash) →
      Opening m pid p r path
        (m.withOpen pid (p.descriptors.free 0) (r.effect p.mask m.files target) file,
          .answer (.ok (p.descriptors.free 0)))

/-- **Unless its path leads to a named pipe, the file of a redirection is opened at once, or refused
without any change.** -/
theorem opening_openFile (process : m.process? pid = some p) (known : m.ImagesKnown)
    (other : ∀ ino slash, m.resolve pid p r.ending path = .ok (.node ino, slash) →
      m.files.node? ino ≠ some .fifo) :
    m.Opening pid p r path (m.openFile pid p path r.mode r.permissions true) := by
  have ending : (if r.mode = .read then Ending.follow else .create) = r.ending := by cases r <;> rfl
  rw [openFile, ending]
  split
  · exact .refused _
  split
  · exact .refused _
  split
  · exact .refused _
  next room =>
  have room := Nat.not_le.mp room
  split
  · exact .refused _
  next target slash hresolve =>
  have plain : ∀ ino, target = .node ino → m.files.node? ino ≠ some .fifo :=
    fun ino h => other ino slash (h ▸ hresolve)
  have opens : m.Answers pid p (r.effect p.mask m.files target)
      (m.openTarget pid p target slash r.mode r.permissions true) := by
    cases r with
    | input => exact openTarget_read_answers process room plain slash
    | output => exact openTarget_overwrite_answers process room known plain slash
  generalize m.openTarget pid p target slash r.mode r.permissions true = reply at opens
  cases opens with
  | refused e => exact .refused e
  | opened file => exact .opened file hresolve

end Machine

end JobControl
