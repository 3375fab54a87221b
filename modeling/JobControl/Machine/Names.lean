import JobControl.Machine.Information
import JobControl.Text.Octets

/-!
# What names lead to

A path leads to a node of the file tree or, through the directory of the processes, to something
that the system makes up: a text or a list of names, or an open file of a process.

## Main definitions

* `Target` — what a path leads to.
* `Machine.resolve` — the target of a path.
* `Machine.nodeAt` — the node that a path leads to.
* `Machine.status` — what the system says of the target of a path.
-/

namespace JobControl

/-- What a path leads to. -/
inductive Target
  | node (ino : Ino)
  /-- There is no such name in the directory. -/
  | absent (directory : Ino) (name : String)
  | pipe (pipe : PipeName)
  | text (content : ByteArray)
  /-- A directory that the system makes up. -/
  | listing (names : List String)

namespace Machine

/-- What an open file leads to. -/
def targetOf (file : OpenFile) : Target :=
  match file.endpoint with
  | .node ino => .node ino
  | .pipe (.named ino) => .node ino
  | .pipe pipe => .pipe pipe
  | .text content => .text content
  | .listing => .listing []

/-- Goes on from a target by more names, of which nothing is made up any more. -/
def goOn (m : Machine) (ending : Ending) (slash : Bool) (target : Target) (names : List String) :
    Except Errno (Target × Bool) :=
  match names, target with
  | [], target => .ok (target, slash)
  | names, .node ino => do
    match ← m.files.walk ending FileTree.maxLinks ino slash names with
    | (.present ino, slash) => .ok (.node ino, slash)
    | (.absent directory name, slash) => .ok (.absent directory name, slash)
    | (.processes _, _) => .error .eloop
  | _, .listing _ => .error .enoent
  | _, _ => .error .enotdir

/-- What some names lead to from the directory of the processes. -/
def underProcesses (m : Machine) (reader : Pid) (ending : Ending) (slash : Bool) :
    List String → Except Errno (Target × Bool)
  | [] => .error .enoent
  | name :: rest =>
    match m.named? reader name with
    | none => .error .enoent
    | some (pid, p) =>
      let texts := m.descriptions pid p
      let made (target : Target) (rest : List String) := m.goOn ending slash target rest
      match rest with
      | "fd" :: number :: rest =>
        match number.toNat?.bind (m.file? p) with
        | some (_, file) => made (targetOf file) rest
        | none => .error .enoent
      | ["fd"] => .ok (.listing (descriptorNames reader pid p), slash)
      | "cwd" :: rest => made (.node p.directory) rest
      | "exe" :: rest =>
        match p.image with
        | some ino => made (.node ino) rest
        | none => .error .enoent
      | [] => .ok (.listing ("cwd" :: "exe" :: "fd" :: texts.map (·.1)), slash)
      | name :: rest =>
        match texts.lookup name with
        | some text => made (.text (Text.octetArray text)) rest
        | none => .error .enoent

/-- The target of a path, and whether a slash came last. -/
def resolve (m : Machine) (pid : Pid) (p : Process) (ending : Ending) (path : String) :
    Except Errno (Target × Bool) := do
  match ← m.files.locate p.directory ending path with
  | (.present ino, slash) => .ok (.node ino, slash)
  | (.absent directory name, slash) => .ok (.absent directory name, slash)
  | (.processes names, slash) => m.underProcesses pid ending slash names

/-- Whether a target is a directory. -/
def isDirectory (m : Machine) : Target → Bool
  | .node ino => m.files.isDirectory ino
  | .listing _ => true
  | _ => false

/-- The target of a path that has to be there. -/
def existing (m : Machine) (pid : Pid) (p : Process) (follow : Bool) (path : String) :
    Except Errno Target := do
  match ← m.resolve pid p (if follow then .follow else .keep) path with
  | (.absent _ _, _) => .error .enoent
  | (target, slash) => if slash && !m.isDirectory target then .error .enotdir else .ok target

/-- The node that a path leads to. -/
def nodeAt (m : Machine) (pid : Pid) (p : Process) (path : String) : Except Errno Ino := do
  match ← m.existing pid p true path with
  | .node ino => .ok ino
  | _ => .error .eacces

/-- What the system says of something that is no node. -/
def madeUp (kind : FileKind) (mode : Nat) : FileStatus :=
  { kind, mode, size := 0, ino := 0, isOwn := true, modified := 0, links := 1 }

/-- What the system says of a target. -/
def describe (m : Machine) : Target → Except Errno FileStatus
  | .node ino => m.files.describe ino
  | .absent _ _ => .error .enoent
  | .pipe _ => .ok (madeUp .fifo 0o600)
  | .text _ => .ok (madeUp .regular 0o444)
  | .listing _ => .ok (madeUp .directory 0o555)

/-- What the system says of the target of a path. -/
def status (m : Machine) (pid : Pid) (p : Process) (follow : Bool) (path : String) :
    Except Errno FileStatus := do
  m.describe (← m.existing pid p follow path)

/-- Whether the user has a permission on the target of a path. -/
def checkAccess (m : Machine) (pid : Pid) (p : Process) (path : String) (permission : Permission) :
    Except Errno Unit := do
  let target ← m.existing pid p true path
  let status ← m.describe target
  let inode : Inode := { node := .fifo, mode := status.mode, isOwn := status.isOwn }
  if inode.allows permission then .ok () else .error .eacces

/-- The names in the directory that a path leads to. -/
def namesIn (m : Machine) (pid : Pid) (p : Process) (path : String) :
    Except Errno (List String) := do
  match ← m.existing pid p true path with
  | .listing names => .ok names
  | .node ino =>
    if !m.files.isDirectory ino then .error .enotdir
    else if !m.allows ino .read then .error .eacces
    else if m.files.isProcesses ino then
      .ok ("self" :: m.processes.map fun entry => toString entry.1)
    else .ok ((m.files.entries ino).map (·.1))
  | _ => .error .enotdir

end Machine
end JobControl
