import JobControl.Proofs.Effects

/-!
# The law of the search path

What a search finds depends only on what the system says of files.  A program is found under its own
name if that names a file that can be executed, and else in the first directory of the search path
in which it does.

## Main definitions

* `Search.Files` — what the system says of the file that a path leads to.
* `Search.Names files path` — a path names a regular file with an execute bit.
* `Search.answer files program path` — what the search finds on some files.
* `Search.Chosen files program path found` — what it has to find.
* `Host.said` — the files of a machine, from the working directory of its shell.

## Main results

* `Search.entries_append` — the directories of two search paths with a colon between them.
* `Search.run_resolve_iff` — the search comes to its answer.
* `Search.chosen_iff` — the answer is what has to be found.
* `Search.answer_append`, `Search.answer_congr` — what a change of the search path makes of it.
* `Host.names_said_iff` — which nodes of a machine are found.
* `Search.search_law` — **what the search finds, on all files and for all search paths.**
-/

namespace JobControl

open JobControl.Action (run_pure_iff run_bind_iff run_ask_bind_iff)

/-- Two runs in which the same requests have the same answers are the same. -/
theorem Dialogue.Run.determined {α : Type} {d : Dialogue α} {events events' : List Event} {a a' : α}
    (h : Run d events a) (h' : Run d events' a')
    (agree : ∀ (c : Call) (x y : c.Answer), ⟨c, x⟩ ∈ events → ⟨c, y⟩ ∈ events' → x = y) :
    events = events' ∧ a = a' := by
  induction h generalizing events' with
  | done _ =>
    cases h'
    exact ⟨rfl, rfl⟩
  | ask _ ih =>
    cases h' with
    | ask h' =>
      obtain rfl := agree _ _ _ (List.mem_cons_self ..) (List.mem_cons_self ..)
      obtain ⟨rfl, rfl⟩ := ih h' fun c x y hx hy =>
        agree c x y (List.mem_cons_of_mem _ hx) (List.mem_cons_of_mem _ hy)
      exact ⟨rfl, rfl⟩

namespace Search

/-! ### The directories of a search path -/

theorem exists_entries (bytes : List UInt8) : ∃ entry rest, entries bytes = entry :: rest := by
  cases bytes with
  | nil => exact ⟨[], [], rfl⟩
  | cons b bytes =>
    rw [entries]
    split
    · exact ⟨_, _, rfl⟩
    · split
      · exact ⟨_, _, rfl⟩
      · exact ⟨_, _, rfl⟩

theorem entries_colon (bytes : List UInt8) : entries (colon :: bytes) = [] :: entries bytes := by
  rw [entries, if_pos rfl]

theorem entries_cons {b : UInt8} {bytes entry : List UInt8} {rest : List (List UInt8)}
    (plain : b ≠ colon) (h : entries bytes = entry :: rest) :
    entries (b :: bytes) = (b :: entry) :: rest := by
  rw [entries, if_neg plain, h]

/-- **A search path with a colon lists the directories before it and those behind it.** -/
theorem entries_append (bytes bytes' : List UInt8) :
    entries (bytes ++ colon :: bytes') = entries bytes ++ entries bytes' := by
  induction bytes with
  | nil => exact entries_colon bytes'
  | cons b bytes ih =>
    rw [List.cons_append]
    by_cases separates : b = colon
    · rw [separates, entries_colon, entries_colon, ih, List.cons_append]
    · obtain ⟨entry, rest, h⟩ := exists_entries bytes
      rw [h, List.cons_append] at ih
      rw [entries_cons separates h, entries_cons separates ih, List.cons_append]

theorem intercalate_entries (bytes : List UInt8) :
    [colon].intercalate (entries bytes) = bytes := by
  induction bytes with
  | nil => rfl
  | cons b bytes ih =>
    obtain ⟨entry, rest, h⟩ := exists_entries bytes
    rw [h] at ih
    by_cases separates : b = colon
    · rw [separates, entries_colon, h, List.intercalate_cons_cons, ih]
      rfl
    · rw [entries_cons separates h]
      cases rest with
      | nil => exact congrArg (b :: ·) ih
      | cons next rest =>
        rw [List.intercalate_cons_cons] at ih ⊢
        exact congrArg (b :: ·) ih

theorem colon_notMem_entries {bytes entry : List UInt8} (h : entry ∈ entries bytes) :
    colon ∉ entry := by
  induction bytes generalizing entry with
  | nil =>
    rw [List.mem_singleton.mp h]
    exact List.not_mem_nil
  | cons b bytes ih =>
    by_cases separates : b = colon
    · rw [separates, entries_colon] at h
      rcases List.mem_cons.mp h with rfl | h
      · exact List.not_mem_nil
      · exact ih h
    · obtain ⟨first, rest, hentries⟩ := exists_entries bytes
      rw [hentries] at ih
      rw [entries_cons separates hentries] at h
      rcases List.mem_cons.mp h with rfl | h
      · intro hmem
        rcases List.mem_cons.mp hmem with same | hmem
        · exact separates same.symm
        · exact ih (List.mem_cons_self ..) hmem
      · exact ih (List.mem_cons_of_mem _ h)

/-! ### Files -/

/-- For each path, what the system says of the file that it leads to: through symbolic links, and
from the working directory. -/
abbrev Files := List UInt8 → Except Errno Metadata

variable {files : Files} {program : String} {name candidate : List UInt8}
  {path found : Option (List UInt8)} {paths directories : List (List UInt8)} {events : List Event}
  {rounds : Nat}

/-- A path names a regular file with an execute bit.  No file has a name with a NUL byte. -/
def Names (files : Files) (path : List UInt8) : Prop :=
  0 ∉ path ∧ ∃ metadata, files path = .ok metadata ∧ metadata.kind = .regular ∧
    metadata.mode &&& 0o111 ≠ 0

/-- Whether a path names a file that can be executed. -/
def runnable (files : Files) (path : List UInt8) : Bool :=
  !Text.hasNulByte path &&
    match files path with
    | .ok metadata => metadata.isRunnable
    | .error _ => false

theorem isRunnable_iff {metadata : Metadata} :
    metadata.isRunnable = true ↔ metadata.kind = .regular ∧ metadata.mode &&& 0o111 ≠ 0 := by
  rw [Metadata.isRunnable, Bool.and_eq_true, decide_eq_true_iff, decide_eq_true_iff]

theorem runnable_iff : runnable files candidate = true ↔ Names files candidate := by
  rw [runnable, Bool.and_eq_true, Bool.not_eq_true', Text.hasNulByte_eq_false_iff, Names]
  refine and_congr_right fun _ => ?_
  cases files candidate with
  | error e => exact iff_of_false nofun (by rintro ⟨_, ⟨⟩, _⟩)
  | ok metadata =>
    refine isRunnable_iff.trans ⟨fun h => ⟨metadata, rfl, h⟩, ?_⟩
    rintro ⟨_, ⟨⟩, h⟩
    exact h

instance (files : Files) (path : List UInt8) : Decidable (Names files path) :=
  decidable_of_iff _ runnable_iff

/-- What the search finds on some files. -/
def answer (files : Files) (program : String) (path : Option (List UInt8)) :
    Option (List UInt8) :=
  Id.run (resolve (fun candidate => pure (runnable files candidate)) program path)

/-! ### Runs of the search -/

/-- The system answers as it says of some files. -/
def Answered (files : Files) (events : List Event) : Prop :=
  ∀ path said, (⟨.metadata path, said⟩ : Event) ∈ events → said = files path

theorem answered_nil : Answered files [] := by
  intro path said h
  cases h

/-- The questions about one path. -/
def asking (files : Files) (path : List UInt8) : List Event :=
  if Text.hasNulByte path then [] else [⟨.metadata path, files path⟩]

/-- The questions about some paths, up to the first that names a file that can be executed. -/
def trying (files : Files) : List (List UInt8) → List Event
  | [] => []
  | path :: rest => asking files path ++ if runnable files path then [] else trying files rest

theorem mem_trying {e : Event} (h : e ∈ trying files paths) :
    ∃ path, e = ⟨.metadata path, files path⟩ := by
  induction paths with
  | nil => cases h
  | cons path rest ih =>
    rw [trying, asking] at h
    rcases List.mem_append.mp h with h | h
    · split at h
      · cases h
      · exact ⟨path, List.mem_singleton.mp h⟩
    · split at h
      · cases h
      · exact ih h

theorem answered_trying : Answered files (trying files paths) := by
  intro path said h
  obtain ⟨_, same⟩ := mem_trying h
  cases same
  rfl

theorem run_isRunnable :
    (isRunnable candidate rounds).Run (asking files candidate) (runnable files candidate) := by
  unfold isRunnable asking runnable
  cases Text.hasNulByte candidate with
  | true => exact .done _
  | false =>
    refine run_ask_bind_iff.mpr ⟨files candidate, [], rfl, ?_⟩
    cases files candidate with
    | ok metadata => exact .done _
    | error e => exact .done _

/-- **Some paths are tried up to the first that names a file that can be executed.** -/
theorem run_first :
    (first isRunnable paths rounds).Run (trying files paths) (paths.find? (runnable files)) := by
  induction paths with
  | nil => exact .done _
  | cons path rest ih =>
    refine run_bind_iff.mpr ⟨_, _, _, rfl, run_isRunnable, ?_⟩
    rw [List.find?_cons]
    cases runnable files path with
    | true => exact .done _
    | false => exact ih

/-- **What the system says of files decides how a search among them runs.** -/
theorem eq_of_first (h : (first isRunnable paths rounds).Run events found)
    (answered : Answered files events) :
    events = trying files paths ∧ found = paths.find? (runnable files) := by
  -- the run that asks about the files in order is answered alike, so it is this one
  refine h.determined run_first fun c said said' hmem hmem' => ?_
  obtain ⟨path, same⟩ := mem_trying hmem'
  cases same
  exact answered path said hmem

theorem find?_eq_first : Id.run (first (fun candidate => pure (runnable files candidate)) paths) =
    paths.find? (runnable files) := by
  induction paths with
  | nil => rfl
  | cons path rest ih =>
    rw [List.find?_cons, first, Id.run_bind, Id.run_pure]
    cases runnable files path with
    | true => rfl
    | false => exact ih

theorem answer_eq : answer files program path =
    if program = "" then none
    else (candidates (Text.toBytes program) path).find? (runnable files) := by
  rw [answer, resolve]
  split
  · rfl
  · exact find?_eq_first

/-- **The search comes to its answer.** -/
theorem run_resolve_iff :
    (∃ events, (resolve isRunnable program path rounds).Run events found ∧ Answered files events) ↔
      found = answer files program path := by
  rw [answer_eq, resolve]
  split
  · constructor
    · rintro ⟨events, h, -⟩
      exact (run_pure_iff.mp h).2
    · rintro rfl
      exact ⟨[], .done _, answered_nil⟩
  · constructor
    · rintro ⟨events, h, answered⟩
      exact (eq_of_first h answered).2
    · rintro rfl
      exact ⟨_, run_first, answered_trying⟩

/-! ### What is found -/

/-- The paths of a program in the directories of a search path. -/
def joined (name : List UInt8) (path : Option (List UInt8)) : List (List UInt8) :=
  path.elim [] fun path => (entries path).map fun directory => join directory name

theorem answer_unnamed : answer files "" path = none := by
  rw [answer_eq, if_pos rfl]

theorem answer_of_names (named : program ≠ "") (names : Names files (Text.toBytes program)) :
    answer files program path = some (Text.toBytes program) := by
  rw [answer_eq, if_neg named, candidates, List.find?_cons, runnable_iff.mpr names]

theorem answer_of_not_names (named : program ≠ "")
    (missing : ¬ Names files (Text.toBytes program)) : answer files program path =
      (joined (Text.toBytes program) path).find? (runnable files) := by
  have skipped : runnable files (Text.toBytes program) = false := by
    rw [← Bool.not_eq_true, runnable_iff]
    exact missing
  rw [answer_eq, if_neg named, candidates, List.find?_cons, skipped, joined]

theorem names_of_answer (h : answer files program path = some candidate) :
    Names files candidate := by
  rw [answer_eq] at h
  split at h
  · cases h
  · exact runnable_iff.mp (List.find?_some h)

/-- What a search has to find: the name itself if that names a file that can be executed, and else
its path in the first directory where it does. -/
inductive Chosen (files : Files) (name : List UInt8) :
    Option (List UInt8) → Option (List UInt8) → Prop
  | literal {path : Option (List UInt8)} : Names files name → Chosen files name path (some name)
  | entry {path directory : List UInt8} {before after : List (List UInt8)} :
      ¬ Names files name → entries path = before ++ directory :: after →
      (∀ earlier ∈ before, ¬ Names files (join earlier name)) →
      Names files (join directory name) →
      Chosen files name (some path) (some (join directory name))
  | missing {path : Option (List UInt8)} : ¬ Names files name →
      (∀ bytes, path = some bytes →
        ∀ directory ∈ entries bytes, ¬ Names files (join directory name)) →
      Chosen files name path none

theorem Chosen.eq_answer (h : Chosen files (Text.toBytes program) path found)
    (named : program ≠ "") : found = answer files program path := by
  cases h with
  | literal names => exact (answer_of_names named names).symm
  | @entry bytes directory before after missing split earlier names =>
    rw [answer_of_not_names named missing, eq_comm, List.find?_eq_some_iff_append]
    refine ⟨runnable_iff.mpr names, before.map fun earlier => join earlier (Text.toBytes program),
      after.map fun later => join later (Text.toBytes program), ?_, fun candidate hcandidate => ?_⟩
    · rw [joined, Option.elim_some, split, List.map_append, List.map_cons]
    · obtain ⟨directory, hdirectory, rfl⟩ := List.mem_map.mp hcandidate
      rw [Bool.not_eq_true', ← Bool.not_eq_true, runnable_iff]
      exact earlier directory hdirectory
  | missing missing nowhere =>
    rw [answer_of_not_names named missing, eq_comm, List.find?_eq_none]
    intro candidate hcandidate
    cases path with
    | none => cases hcandidate
    | some bytes =>
      obtain ⟨directory, hdirectory, rfl⟩ := List.mem_map.mp hcandidate
      rw [runnable_iff]
      exact nowhere bytes rfl directory hdirectory

/-- **A search finds what it has to find.** -/
theorem chosen_answer (named : program ≠ "") :
    Chosen files (Text.toBytes program) path (answer files program path) := by
  by_cases names : Names files (Text.toBytes program)
  · rw [answer_of_names named names]
    exact .literal names
  rw [answer_of_not_names named names]
  cases path with
  | none => exact .missing names nofun
  | some bytes =>
    cases hfound : (joined (Text.toBytes program) (some bytes)).find? (runnable files) with
    | none =>
      refine .missing names ?_
      rintro _ ⟨⟩ directory hdirectory
      rw [← runnable_iff]
      exact List.find?_eq_none.mp hfound _ (List.mem_map_of_mem hdirectory)
    | some candidate =>
      obtain ⟨hrunnable, before, after, split, earlier⟩ := List.find?_eq_some_iff_append.mp hfound
      obtain ⟨first, rest, hentries, rfl, hrest⟩ := List.map_eq_append_iff.mp split
      obtain ⟨directory, last, rfl, rfl, rfl⟩ := List.map_eq_cons_iff.mp hrest
      refine .entry names hentries (fun directory hdirectory => ?_) (runnable_iff.mp hrunnable)
      have refused := earlier _ (List.mem_map_of_mem hdirectory)
      rw [Bool.not_eq_true', ← Bool.not_eq_true, runnable_iff] at refused
      exact refused

theorem chosen_iff (named : program ≠ "") :
    Chosen files (Text.toBytes program) path found ↔ found = answer files program path := by
  constructor
  · exact fun h => h.eq_answer named
  · rintro rfl
    exact chosen_answer named

/-! ### Changing the search path -/

/-- **Two search paths with a colon between them are searched one after the other.** -/
theorem answer_append (bytes bytes' : List UInt8) :
    answer files program (some (bytes ++ colon :: bytes')) =
      (answer files program (some bytes)).or (answer files program (some bytes')) := by
  by_cases named : program = ""
  · rw [named, answer_unnamed, answer_unnamed, answer_unnamed, Option.or_none]
  by_cases names : Names files (Text.toBytes program)
  · rw [answer_of_names named names, answer_of_names named names, Option.some_or]
  have both : joined (Text.toBytes program) (some (bytes ++ colon :: bytes')) =
      joined (Text.toBytes program) (some bytes) ++
        joined (Text.toBytes program) (some bytes') := by
    rw [joined, Option.elim_some, entries_append, List.map_append]
    rfl
  rw [answer_of_not_names named names, answer_of_not_names named names,
    answer_of_not_names named names, both, List.find?_append]

/-- Where a program is not found under its own name, the directories decide. -/
theorem answer_eq_of_find? {path' : Option (List UInt8)}
    (same : ¬ Names files (Text.toBytes program) →
      (joined (Text.toBytes program) path).find? (runnable files) =
        (joined (Text.toBytes program) path').find? (runnable files)) :
    answer files program path = answer files program path' := by
  by_cases named : program = ""
  · rw [named, answer_unnamed, answer_unnamed]
  by_cases names : Names files (Text.toBytes program)
  · rw [answer_of_names named names, answer_of_names named names]
  rw [answer_of_not_names named names, answer_of_not_names named names, same names]

theorem isAbsolute_toBytes (absolute : program.startsWith "/" = true) :
    isAbsolute (Text.toBytes program) = true := by
  obtain ⟨rest, hrest⟩ := String.startsWith_string_iff.mp absolute
  rw [isAbsolute, Text.toBytes, ← hrest]
  rfl

/-- A search for an absolute name looks nowhere else. -/
theorem answer_absolute (absolute : program.startsWith "/" = true) :
    answer files program path = answer files program none := by
  refine answer_eq_of_find? fun names => ?_
  rw [joined, joined, Option.elim_none, List.find?_nil, List.find?_eq_none]
  intro candidate hcandidate
  cases path with
  | none => cases hcandidate
  | some bytes =>
    obtain ⟨directory, -, rfl⟩ := List.mem_map.mp hcandidate
    rw [join, if_pos (isAbsolute_toBytes absolute), runnable_iff]
    exact names

/-- In an empty entry a program has its own name. -/
theorem join_nil : join [] name = name := by
  rw [join]
  split
  · rfl
  · rw [if_pos rfl]

/-- Where the program itself is none, empty entries find nothing. -/
theorem find?_entries (names : ¬ Names files name) :
    (directories.map fun directory => join directory name).find? (runnable files) =
      ((directories.filter (· ≠ [])).map fun directory => join directory name).find?
        (runnable files) := by
  induction directories with
  | nil => rfl
  | cons directory directories ih =>
    -- an empty entry tries the program itself once more
    by_cases empty : directory = []
    · have skipped : runnable files (join directory name) = false := by
        rw [empty, join_nil, ← Bool.not_eq_true, runnable_iff]
        exact names
      rw [List.filter_cons_of_neg (by simpa using empty), List.map_cons, List.find?_cons, skipped,
        ih]
    · rw [List.filter_cons_of_pos (by simpa using empty), List.map_cons, List.map_cons,
        List.find?_cons, List.find?_cons, ih]

/-- **Empty entries make no difference.** -/
theorem answer_congr {bytes bytes' : List UInt8}
    (same : (entries bytes).filter (· ≠ []) = (entries bytes').filter (· ≠ [])) :
    answer files program (some bytes) = answer files program (some bytes') := by
  refine answer_eq_of_find? fun names => ?_
  rw [joined, joined, Option.elim_some, Option.elim_some, find?_entries names, same,
    ← find?_entries names]

/-- Without a search path only the program itself counts. -/
theorem answer_none (named : program ≠ "") : answer files program none =
    if Names files (Text.toBytes program) then some (Text.toBytes program) else none := by
  split
  · next names => exact answer_of_names named names
  · next names =>
    rw [answer_of_not_names named names]
    rfl

end Search

/-! ### The files of a machine -/

namespace Host

open Search (Files Names runnable)

variable {h : Host} {p : Process} {path : List UInt8} {name : String}

/-- What a machine says to its shell of files. -/
def said (h : Host) (p : Process) : Files := fun path =>
  (h.machine.status h.shell p true (Text.octetsOf path)).map FileStatus.toMetadata

theorem isRunnable_eq : h.isRunnable p path = runnable (h.said p) path := by
  rw [isRunnable, runnable, said]
  cases h.machine.status h.shell p true (Text.octetsOf path) <;> rfl

theorem program?_eq : h.program? p name = Search.answer (h.said p) name (valueOf? p "PATH") := by
  have same : (fun path => pure (h.isRunnable p path) : List UInt8 → Id Bool) =
      fun path => pure (runnable (h.said p) path) :=
    funext fun path => congrArg pure isRunnable_eq
  rw [program?, same, Search.answer]

/-- What the system makes up is never a file that can be executed. -/
theorem node_of_describe {m : Machine} {target : Target} {status : FileStatus}
    (describes : m.describe target = .ok status) (regular : status.kind = .regular)
    (executable : status.mode &&& 0o111 ≠ 0) :
    ∃ ino inode, target = .node ino ∧ m.files.nodes[ino]? = some inode ∧
      inode.node.kind = .regular ∧ inode.mode &&& 0o111 ≠ 0 := by
  cases target with
  | node ino =>
    simp only [Machine.describe, FileTree.describe] at describes
    split at describes
    · next inode hinode =>
      cases describes
      exact ⟨ino, inode, rfl, hinode, regular, executable⟩
    · cases describes
  | absent _ _ => cases describes
  | pipe _ | listing _ =>
    cases describes
    cases regular
  | text _ =>
    cases describes
    exact absurd rfl executable

/-- **A path names a file that can be executed if it leads to such a node.** -/
theorem names_said_iff : Names (h.said p) path ↔
    0 ∉ path ∧ ∃ ino inode,
      h.machine.existing h.shell p true (Text.octetsOf path) = .ok (.node ino) ∧
      h.machine.files.nodes[ino]? = some inode ∧ inode.node.kind = .regular ∧
      inode.mode &&& 0o111 ≠ 0 := by
  refine and_congr_right fun _ => ?_
  rw [said, Machine.status]
  cases h.machine.existing h.shell p true (Text.octetsOf path) with
  | error e => exact iff_of_false (by rintro ⟨_, ⟨⟩, _⟩) (by rintro ⟨_, _, ⟨⟩, _⟩)
  | ok target =>
    change
      (∃ metadata, (h.machine.describe target).map FileStatus.toMetadata = .ok metadata ∧ _) ↔ _
    constructor
    · rintro ⟨metadata, heq, regular, executable⟩
      cases describes : h.machine.describe target with
      | error e =>
        rw [describes] at heq
        cases heq
      | ok status =>
        rw [describes] at heq
        cases heq
        obtain ⟨ino, inode, rfl, node⟩ := node_of_describe describes regular executable
        exact ⟨ino, inode, rfl, node⟩
    · rintro ⟨ino, inode, ⟨⟩, hinode, regular, executable⟩
      rw [Machine.describe, FileTree.describe, hinode]
      exact ⟨_, rfl, regular, executable⟩

end Host

/-! ### The law -/

namespace Search

/-- **What the search finds, on all files and for all search paths.**  It comes to one answer, which
depends only on what the system says of files: the program itself if that names a file that can be
executed, else its path in the first directory of the search path where it does, else nothing.  So
two search paths with a colon between them are searched one after the other, an absolute name is
searched for nowhere else, empty entries make no difference, and without a search path only the
program itself counts.  On a machine the search leaves everything as it is, and the files are those
that paths lead to from the working directory of the shell.  Search paths and what is found are
bytes, whether these are a text or not. -/
theorem search_law :
    (∀ (files : Files) (program : String),
      (∀ path rounds found,
        (∃ events, (resolve isRunnable program path rounds).Run events found ∧
          Answered files events) ↔ found = answer files program path) ∧
      (program ≠ "" → ∀ path found,
        found = answer files program path ↔ Chosen files (Text.toBytes program) path found) ∧
      (∀ path found, answer files program path = some found → Names files found) ∧
      (∀ bytes bytes', answer files program (some (bytes ++ colon :: bytes')) =
        (answer files program (some bytes)).or (answer files program (some bytes'))) ∧
      (program.startsWith "/" = true → ∀ path,
        answer files program path = answer files program none) ∧
      (∀ bytes bytes', (entries bytes).filter (· ≠ []) = (entries bytes').filter (· ≠ []) →
        answer files program (some bytes) = answer files program (some bytes')) ∧
      (program ≠ "" → answer files program none =
        if Names files (Text.toBytes program) then some (Text.toBytes program) else none) ∧
      ∀ path, answer files "" path = none) ∧
    (∀ bytes, [colon].intercalate (entries bytes) = bytes ∧
      ∀ directory ∈ entries bytes, colon ∉ directory) ∧
    ∀ (h : Host) (p : Process), h.Ready p →
      (∀ name, Host.Runs (Search.program name) h
        (answer (h.said p) name (Host.valueOf? p "PATH")) h) ∧
      ∀ path, Names (h.said p) path ↔ 0 ∉ path ∧ ∃ ino inode,
        h.machine.existing h.shell p true (Text.octetsOf path) = .ok (.node ino) ∧
        h.machine.files.nodes[ino]? = some inode ∧ inode.node.kind = .regular ∧
        inode.mode &&& 0o111 ≠ 0 := by
  refine ⟨fun files program => ?_, fun bytes => ?_, fun h p ready => ?_⟩
  · exact ⟨fun _ _ _ => run_resolve_iff, fun named _ _ => (chosen_iff named).symm,
      fun _ _ => names_of_answer, answer_append, fun absolute _ => answer_absolute absolute,
      fun _ _ => answer_congr, answer_none, fun _ => answer_unnamed⟩
  · exact ⟨intercalate_entries bytes, fun _ => colon_notMem_entries⟩
  · refine ⟨fun name => ?_, fun _ => Host.names_said_iff⟩
    rw [← Host.program?_eq]
    exact ready.runs_program name

namespace Sample

/-- The path of a tool in a directory. -/
def toolIn (directory : List UInt8) : List UInt8 := directory ++ Text.toBytes "/tool"

/-- A file that cannot be executed, a directory, and a program, all of one name.  The name of the
directory of the last is no text. -/
def shelf : Files := fun path =>
  if path = toolIn (Text.toBytes "/a") then .ok ⟨.regular, 0o644, 5⟩
  else if path = toolIn (Text.toBytes "/b") then .ok ⟨.directory, 0o755, 4096⟩
  else if path = toolIn [slash, 0xff] then .ok ⟨.regular, 0o700, 5⟩
  else .error .enoent

/-- A search path of the three directories. -/
def three : List UInt8 := Text.toBytes "/a:/b:/" ++ [0xff]

/-- The same with empty entries. -/
def spaced : List UInt8 := Text.toBytes ":/a::/b:/" ++ [0xff, colon]

theorem answer_tool : answer shelf "tool" (some three) = some (toolIn [slash, 0xff]) := by decide

theorem answer_on_host :
    answer (Sample.host.said Sample.owner) "tool" (Host.valueOf? Sample.owner "PATH") =
      some (toolIn [slash, 0xff]) := by
  decide

end Sample

/-- The program is found behind a file and a directory of its name. -/
theorem tool_found_last :
    Chosen Sample.shelf (Text.toBytes "tool") (some Sample.three)
      (some (Sample.toolIn [slash, 0xff])) ∧
    Names Sample.shelf (Sample.toolIn [slash, 0xff]) ∧
    answer Sample.shelf "/a/tool" (some Sample.three) = none ∧
    answer Sample.shelf "tool" (some Sample.spaced) = some (Sample.toolIn [slash, 0xff]) ∧
    answer Sample.shelf "tool" none = none ∧
    Host.Runs (Search.program "tool") Sample.host (some (Sample.toolIn [slash, 0xff]))
      Sample.host := by
  obtain ⟨onFiles, -, onMachine⟩ := search_law
  obtain ⟨-, chosen, names, -, -, empties, unset, -⟩ := onFiles Sample.shelf "tool"
  obtain ⟨-, -, -, -, absolute, -, literal, -⟩ := onFiles Sample.shelf "/a/tool"
  refine ⟨(chosen (by decide) _ _).mp Sample.answer_tool.symm, names _ _ Sample.answer_tool,
    ?_, ?_, ?_, ?_⟩
  · have rooted : "/a/tool".startsWith "/" = true := String.startsWith_string_iff.mpr ⟨_, rfl⟩
    exact ((absolute rooted _).trans (literal (by decide))).trans (by decide)
  · exact (empties _ Sample.three (by decide)).trans Sample.answer_tool
  · exact (unset (by decide)).trans (by decide)
  · exact Sample.answer_on_host ▸
      (onMachine Sample.host Sample.owner Sample.ready_host).1 "tool"

end Search
end JobControl
