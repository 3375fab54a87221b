import JobControl.Call
import JobControl.Path

/-!
# The file tree

A tree of directories, files, symbolic links, named pipes and devices.  A node is known by its place
in a table that only grows, so an open file outlives its name.  All processes belong to one user,
who owns some of the nodes; the others belong to the system.

## Main definitions

* `FileTree`, `Inode`, `Node` — the tree and its nodes.
* `FileTree.allows` — whether the user has a permission on a node.
* `FileTree.walk` — follows the names of a path from a directory.
* `FileTree.locate`, `FileTree.find` — what a path leads to.
* `FileTree.describe` — what the system says of a node.
* `FileTree.pathOf` — the path of a directory.
-/

namespace JobControl

/-- The place of a node in the table of a tree. -/
abbrev Ino := Nat

/-- What a device does. -/
inductive Device
  /-- Empty to read, and forgets what is written. -/
  | null
  /-- An endless run of zero bytes. -/
  | zero
  /-- Reads as zero bytes, and never has room. -/
  | full
  /-- An endless run of bytes without a rule. -/
  | random
  /-- The terminal of the session. -/
  | terminal
  deriving DecidableEq

/-- What a node is. -/
inductive Node
  | regular (content : ByteArray)
  /-- A directory under `parent`; `linked` as long as it has a name there. -/
  | directory (parent : Ino) (linked : Bool) (entries : List (String × Ino))
  | symlink (target : String)
  | fifo
  | device (device : Device)
  /-- The directory of the processes, whose names the system makes up. -/
  | processes

namespace Node

/-- The kind of a node. -/
def kind : Node → FileKind
  | regular _ => .regular
  | directory _ _ _ | processes => .directory
  | symlink _ => .symlink
  | fifo => .fifo
  | device _ => .device

/-- Whether a node is a directory. -/
def isDirectory (n : Node) : Bool := n.kind = .directory

/-- The number of bytes of a file, or of the target of a link. -/
def size : Node → Nat
  | regular content => content.size
  | symlink target => target.length
  | directory _ _ _ => 4096
  | _ => 0

end Node

/-- A node with what the system keeps about it. -/
structure Inode where
  node : Node
  /-- The permission bits. -/
  mode : Nat
  /-- Whether it belongs to the user. -/
  isOwn : Bool := true
  /-- When its content changed last. -/
  modified : Nat := 0

/-- What one may do with a node: for a directory, to list it, to change its names and to look them
up. -/
inductive Permission
  | read
  | write
  | execute
  deriving DecidableEq

namespace Permission

/-- The bit of a permission among three. -/
def bit : Permission → Nat
  | read => 4
  | write => 2
  | execute => 1

end Permission

namespace Inode

/-- The three bits that hold for the user. -/
def userBits (i : Inode) : Nat := if i.isOwn then i.mode / 64 % 8 else i.mode % 8

/-- Whether the user has a permission. -/
def allows (i : Inode) (p : Permission) : Bool := i.userBits &&& p.bit ≠ 0

end Inode

/-- What the last name of a path stands for. -/
inductive Place
  | present (ino : Ino)
  /-- There is no such name in the directory. -/
  | absent (directory : Ino) (name : String)
  /-- The names lead on from the directory of the processes. -/
  | processes (names : List String)

/-- What is done at the last name of a path. -/
inductive Ending
  /-- A symbolic link is followed. -/
  | follow
  /-- A symbolic link is kept, unless a slash comes after it. -/
  | keep
  /-- A symbolic link is followed, and a file may be created there: so no slash may come after
  it. -/
  | create
  deriving DecidableEq

/-- What the system says of a node. -/
structure FileStatus extends Metadata where
  ino : Ino
  isOwn : Bool
  modified : Nat
  /-- The number of its names. -/
  links : Nat

/-- The table of all nodes; the root is its first. -/
structure FileTree where
  nodes : Array Inode
  /-- The present moment. -/
  now : Nat := 0

namespace FileTree

/-- The root directory. -/
def root : Ino := 0

/-- The permission bits of a new file and of a new directory, before some are masked. -/
def fileMode : Nat := 0o666
def directoryMode : Nat := 0o777

/-- A tree with nothing but its root. -/
def empty : FileTree := { nodes := #[{ node := .directory root true [], mode := 0o755 }] }

/-- What a node is. -/
def node? (t : FileTree) (ino : Ino) : Option Node := (t.nodes[ino]?).map (·.node)

/-- Whether a node is a directory. -/
def isDirectory (t : FileTree) (ino : Ino) : Bool := (t.node? ino).any Node.isDirectory

/-- Whether a node is the directory of the processes. -/
def isProcesses (t : FileTree) (ino : Ino) : Bool :=
  match t.node? ino with
  | some .processes => true
  | _ => false

/-- Whether the user has a permission on a node. -/
def allows (t : FileTree) (ino : Ino) (p : Permission) : Bool := (t.nodes[ino]?).any (·.allows p)

/-- The names of a directory. -/
def entries (t : FileTree) (ino : Ino) : List (String × Ino) :=
  match t.node? ino with
  | some (.directory _ _ entries) => entries
  | _ => []

/-- The directory above a directory. -/
def parent (t : FileTree) (ino : Ino) : Ino :=
  match t.node? ino with
  | some (.directory parent _ _) => parent
  | _ => root

/-- Whether a directory still has a name. -/
def isLinked (t : FileTree) (ino : Ino) : Bool :=
  match t.node? ino with
  | some (.directory _ linked _) => linked
  | _ => false

/-- The number of symbolic links that a path may lead through. -/
def maxLinks : Nat := 40

/-- Follows names from a directory, and says whether a slash came last.  Where a symbolic link leads
is said by `follow`. -/
def walkBy (t : FileTree) (ending : Ending)
    (follow : Ino → Bool → List String → Except Errno (Place × Bool)) (directory : Ino)
    (slash : Bool) : List String → Except Errno (Place × Bool)
  | [] => .ok (.present directory, slash)
  | name :: rest =>
    if !t.isDirectory directory then .error .enotdir
    else if !t.allows directory .execute then .error .eacces
    else if name = "." then t.walkBy ending follow directory slash rest
    else if name = ".." then t.walkBy ending follow (t.parent directory) slash rest
    else if ending = .create && slash && rest.isEmpty then .error .eisdir
    else if t.isProcesses directory then .ok (.processes (name :: rest), slash)
    else if Path.maxName < name.length then .error .enametoolong
    else
      match (t.entries directory).lookup name with
      | none =>
        if rest.isEmpty then .ok (.absent directory name, slash) else .error .enoent
      | some ino =>
        match t.node? ino with
        | some (.symlink target) =>
          if rest.isEmpty && ending = .keep && !slash then .ok (.present ino, slash)
          else
            let path := Path.ofText target
            follow (if path.absolute then root else directory)
              (slash || (rest.isEmpty && path.slash)) (path.names ++ rest)
        | _ => t.walkBy ending follow ino slash rest

/-- Follows names from a directory through at most so many symbolic links. -/
def walk (t : FileTree) (ending : Ending) :
    Nat → Ino → Bool → List String → Except Errno (Place × Bool)
  | 0 => t.walkBy ending fun _ _ _ => .error .eloop
  | links + 1 => t.walkBy ending (t.walk ending links)

/-- Follows a path from a directory. -/
def locate (t : FileTree) (directory : Ino) (ending : Ending) (path : String) :
    Except Errno (Place × Bool) :=
  if path = "" then .error .enoent
  else if Path.maxLength < path.length then .error .enametoolong
  else
    let p := Path.ofText path
    t.walk ending maxLinks (if p.absolute then root else directory) p.slash p.names

/-- A node that a slash may come after only if it is a directory. -/
def withSlash (t : FileTree) (ino : Ino) (slash : Bool) : Except Errno Ino :=
  if slash && !t.isDirectory ino then .error .enotdir else .ok ino

/-- The node that a path leads to. -/
def find (t : FileTree) (directory : Ino) (follow : Bool) (path : String) : Except Errno Ino := do
  match ← t.locate directory (if follow then .follow else .keep) path with
  | (.present ino, slash) => t.withSlash ino slash
  | _ => .error .enoent

/-- How many names a node has. -/
def countLinks (t : FileTree) (ino : Ino) : Nat :=
  if t.isDirectory ino then
    2 + ((t.entries ino).filter fun entry => t.isDirectory entry.2).length
  else t.nodes.foldl (fun n inode =>
    match inode.node with
    | .directory _ _ entries => n + (entries.filter fun entry => entry.2 = ino).length
    | _ => n) 0

/-- What the system says of a node. -/
def describe (t : FileTree) (ino : Ino) : Except Errno FileStatus :=
  match t.nodes[ino]? with
  | some inode =>
    .ok { kind := inode.node.kind, mode := inode.mode, size := inode.node.size, ino
          isOwn := inode.isOwn, modified := inode.modified, links := t.countLinks ino }
  | none => .error .enoent

/-! ### Paths of directories -/

/-- The names from the root to a directory, in front of `below`. -/
def namesTo (t : FileTree) (ino : Ino) (below : List String) : Nat → Option (List String)
  | 0 => none
  | depth + 1 =>
    if ino = root then some below
    else if !t.isLinked ino then none
    else
      let parent := t.parent ino
      match (t.entries parent).find? fun entry => entry.2 = ino with
      | some (name, _) => t.namesTo parent (name :: below) depth
      | none => none

/-- The path of a directory; a directory that was removed has none. -/
def pathOf (t : FileTree) (ino : Ino) : Except Errno String :=
  match t.namesTo ino [] (t.nodes.size + 1) with
  | some names => .ok ("/" ++ String.intercalate "/" names)
  | none => .error .enoent

/-- What is under a directory, each under its path from there, to a given depth.  The user sees
nothing under a directory that may not be read. -/
def below (t : FileTree) (ino : Ino) (above : String) : Nat → List (String × Inode)
  | 0 => []
  | depth + 1 =>
    if !t.allows ino .read then []
    else
      ((t.entries ino).map fun (name, child) =>
        match t.nodes[child]? with
        | none => []
        | some inode =>
          (above ++ name, inode) :: t.below child (above ++ name ++ "/") depth).flatten

/-- Everything under a directory, each under its path from there. -/
def contents (t : FileTree) (ino : Ino) : List (String × Inode) := t.below ino "" t.nodes.size

end FileTree
end JobControl
