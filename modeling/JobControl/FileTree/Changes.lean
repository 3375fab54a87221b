import JobControl.FileTree

/-!
# Changes of the file tree

## Main definitions

* `FileTree.setNode`, `FileTree.setMode` — another content, other permissions.
* `FileTree.openForWriting` — the node to be written, created if there is none.
* `FileTree.make`, `FileTree.link` — a new node, another name.
* `FileTree.remove`, `FileTree.removeDirectory`, `FileTree.rename` — names that go.
-/

namespace JobControl.FileTree

/-- The tree with another node in a place. -/
def setNode (t : FileTree) (ino : Ino) (node : Node) : FileTree :=
  { t with nodes := t.nodes.modify ino fun inode => { inode with node, modified := t.now } }

/-- The tree with other permission bits on a node. -/
def setMode (t : FileTree) (ino : Ino) (mode : Nat) : FileTree :=
  { t with nodes := t.nodes.modify ino fun inode => { inode with mode } }

/-- The tree with another moment of the last change of a node. -/
def setModified (t : FileTree) (ino : Ino) (modified : Nat) : FileTree :=
  { t with nodes := t.nodes.modify ino fun inode => { inode with modified } }

/-- The tree with other names in a directory. -/
def setEntries (t : FileTree) (ino : Ino) (entries : List (String × Ino)) : FileTree :=
  match t.node? ino with
  | some (.directory parent linked _) => t.setNode ino (.directory parent linked entries)
  | _ => t

/-- A new node of the user under a name of a directory. -/
def add (t : FileTree) (directory : Ino) (name : String) (node : Node) (mode : Nat) :
    Ino × FileTree :=
  let ino := t.nodes.size
  let entries := t.entries directory ++ [(name, ino)]
  let t := { t with nodes := t.nodes.push { node, mode, modified := t.now } }
  (ino, t.setEntries directory entries)

/-- The content of a file that a process writes from the start: none. -/
def truncate (t : FileTree) (ino : Ino) : FileTree :=
  match t.node? ino with
  | some (.regular _) => t.setNode ino (.regular ByteArray.empty)
  | _ => t

/-- Whether the names of a directory can be changed: it still has a name itself, and the user may
write it. -/
def checkChange (t : FileTree) (directory : Ino) : Except Errno Unit :=
  if !t.isLinked directory then .error .enoent
  else if t.allows directory .write then .ok () else .error .eacces

/-- The node to be written at a place, and whether it is new: a file is created where there is
none. -/
def openPlace (t : FileTree) (place : Place) (slash : Bool) (mode : Nat) :
    Except Errno (Ino × Bool × FileTree) := do
  match place with
  | .present ino =>
    if slash || t.isDirectory ino then .error .eisdir else .ok (ino, false, t)
  | .absent directory name =>
    t.checkChange directory
    let (ino, t) := t.add directory name (.regular ByteArray.empty) mode
    .ok (ino, true, t)
  | .processes _ => .error .enoent

/-- The node to be written under a path, and whether it is new. -/
def openForWriting (t : FileTree) (directory : Ino) (path : String) (mode : Nat) :
    Except Errno (Ino × Bool × FileTree) := do
  let (place, slash) ← t.locate directory .create path
  t.openPlace place slash mode

/-- Makes a new node under a path. -/
def make (t : FileTree) (directory : Ino) (path : String) (mode : Nat) (node : Ino → Node) :
    Except Errno FileTree := do
  match ← t.locate directory .keep path with
  | (.present _, _) => .error .eexist
  | (.processes _, _) => .error .enoent
  | (.absent parent name, slash) =>
    let node := node parent
    if slash && !node.isDirectory then throw .enoent
    t.checkChange parent
    .ok (t.add parent name node mode).2

/-- Makes a directory. -/
def makeDirectory (t : FileTree) (directory : Ino) (path : String) (mode : Nat) :
    Except Errno FileTree :=
  t.make directory path mode fun parent => .directory parent true []

/-! ### Names -/

/-- What the last part of a path is. -/
inductive Last
  /-- A name in a directory, and whether a slash comes after it. -/
  | name (directory : Ino) (name : String) (slash : Bool)
  | dot
  | dotDot
  | root

/-- The last part of a path, of which all other names are followed. -/
def last (t : FileTree) (directory : Ino) (path : String) : Except Errno Last := do
  if path = "" then throw .enoent
  if Path.maxLength < path.length then throw .enametoolong
  let p := Path.ofText path
  let start := if p.absolute then FileTree.root else directory
  match ← t.walk .follow maxLinks start (!p.names.isEmpty) p.names.dropLast with
  | (.present above, _) =>
    if !t.isDirectory above then throw .enotdir
    if !t.allows above .execute then throw .eacces
    match p.names.getLast? with
    | none => .ok .root
    | some "." => .ok .dot
    | some ".." => .ok .dotDot
    | some name =>
      if Path.maxName < name.length then throw .enametoolong
      .ok (.name above name p.slash)
  | (.absent _ _, _) => .error .enoent
  | (.processes _, _) => .error .eperm

/-- The node of a name of a directory. -/
def child (t : FileTree) (directory : Ino) (name : String) : Except Errno Ino :=
  match (t.entries directory).lookup name with
  | some ino => .ok ino
  | none => .error .enoent

/-- Takes a name out of a directory. -/
def forget (t : FileTree) (directory : Ino) (name : String) : FileTree :=
  t.setEntries directory ((t.entries directory).filter fun entry => entry.1 ≠ name)

/-- Whether a name may be taken out of a directory.  Where everybody may write and a bit says so,
only what is one's own. -/
def checkRemoval (t : FileTree) (directory ino : Ino) : Except Errno Unit := do
  if !t.allows directory .write then throw .eacces
  let own (ino : Ino) : Bool := (t.nodes[ino]?).any (·.isOwn)
  let isSticky := (t.nodes[directory]?).any fun inode => inode.mode &&& 0o1000 ≠ 0
  if isSticky && !own directory && !own ino then
    throw .eperm

/-- Removes the name of a file. -/
def remove (t : FileTree) (directory : Ino) (path : String) : Except Errno FileTree := do
  match ← t.last directory path with
  | .name above name slash =>
    let ino ← t.child above name
    if slash then throw (if t.isDirectory ino then .eisdir else .enotdir)
    t.checkRemoval above ino
    if t.isDirectory ino then .error .eisdir else .ok (t.forget above name)
  | _ => .error .eisdir

/-- Removes an empty directory. -/
def removeDirectory (t : FileTree) (directory : Ino) (path : String) : Except Errno FileTree := do
  match ← t.last directory path with
  | .name above name _ =>
    let ino ← t.child above name
    t.checkRemoval above ino
    match t.node? ino with
    | some (.directory parent _ []) =>
      .ok ((t.setNode ino (.directory parent false [])).forget above name)
    | some (.directory _ _ _) => .error .enotempty
    | some .processes => .error .ebusy
    | _ => .error .enotdir
  | .dot => .error .einval
  | .dotDot => .error .enotempty
  | .root => .error .ebusy

/-- Whether a directory is another one or lies under it. -/
def isWithin (t : FileTree) (directory other : Ino) : Nat → Bool
  | 0 => false
  | depth + 1 =>
    directory = other ||
      (directory ≠ root && t.isWithin (t.parent directory) other depth)

/-- Makes place for a node under a name. -/
def displace (t : FileTree) (directory : Ino) (name : String) (isDirectory : Bool) :
    Except Errno FileTree := do
  match t.child directory name with
  | .error _ =>
    t.checkChange directory
    .ok t
  | .ok ino =>
    t.checkRemoval directory ino
    match isDirectory, t.node? ino with
    | true, some (.directory parent _ []) =>
      .ok ((t.setNode ino (.directory parent false [])).forget directory name)
    | true, some (.directory _ _ _) => .error .enotempty
    | true, _ => .error .enotdir
    | false, some (.directory _ _ _) => .error .eisdir
    | false, _ => .ok (t.forget directory name)

/-- Gives a node another name; what had that name loses it. -/
def rename (t : FileTree) (directory : Ino) (source target : String) : Except Errno FileTree := do
  match ← t.last directory source, ← t.last directory target with
  | .name above name slash, .name newAbove newName newSlash =>
    let ino ← t.child above name
    let isDirectory := t.isDirectory ino
    if !isDirectory && (slash || newSlash) then throw .enotdir
    if isDirectory && t.isWithin newAbove ino t.nodes.size then throw .einval
    match t.child newAbove newName with
    | .ok other =>
      if t.isDirectory other && t.isWithin above other t.nodes.size then throw .enotempty
      if other = ino then return t
    | .error _ => pure ()
    t.checkRemoval above ino
    let t := (← t.displace newAbove newName isDirectory).forget above name
    let t := t.setEntries newAbove (t.entries newAbove ++ [(newName, ino)])
    match t.node? ino with
    | some (.directory _ linked entries) =>
      let modified := ((t.nodes[ino]?).map (·.modified)).getD t.now
      .ok ((t.setNode ino (.directory newAbove linked entries)).setModified ino modified)
    | _ => .ok t
  | _, _ => .error .ebusy

/-- Gives a file another name. -/
def link (t : FileTree) (directory : Ino) (source target : String) : Except Errno FileTree := do
  let ino ← t.find directory false source
  match ← t.last directory target with
  | .name above name slash =>
    if (t.child above name).toOption.isSome then throw .eexist
    if slash then throw .enoent
    t.checkChange above
    if t.isDirectory ino then throw .eperm
    .ok (t.setEntries above (t.entries above ++ [(name, ino)]))
  | _ => .error .eexist

end JobControl.FileTree
