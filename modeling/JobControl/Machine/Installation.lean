import JobControl.Machine.Image
import JobControl.Utility.Table

/-!
# The files of a new machine

## Main definitions

* `FileEntry` — a file to be put into a tree.
* `FileTree.place` — the tree with a file, and with the directories above it.
* `Machine.installation` — the tree with the programs and the devices.
-/

namespace JobControl

/-- What a file to be put into a tree is. -/
inductive FileContent
  | text (text : String)
  | directory
  | symlink (target : String)
  | fifo

/-- A file to be put into a tree. -/
structure FileEntry where
  path : String
  content : FileContent
  /-- The permission bits, if they are not the usual ones. -/
  mode : Option Nat := none

namespace FileTree

/-- The tree after a change, or as it is if the change fails. -/
def tryTo (t : FileTree) (change : FileTree → Except Errno FileTree) : FileTree :=
  (change t).toOption.getD t

/-- The permission bits of a new file and of a new directory. -/
def usualFile : Nat := 0o644
def usualDirectory : Nat := 0o755

/-- The tree with the directories above a path. -/
def placeAbove (t : FileTree) (directory : Ino) (path : String) : FileTree :=
  let p := Path.ofText path
  let start := if p.absolute then "/" else ""
  (List.range (p.names.length - 1)).foldl (fun t i =>
    t.tryTo fun t =>
      t.makeDirectory directory (start ++ String.intercalate "/" (p.names.take (i + 1)))
        usualDirectory) t

/-- The tree with a text in a file. -/
def write (t : FileTree) (directory : Ino) (path text : String) : Except Errno FileTree := do
  let (ino, _, t) ← t.openForWriting directory path usualFile
  match t.node? ino with
  | some (.regular _) => .ok (t.setNode ino (.regular text.toUTF8))
  | _ => .ok t

/-- The tree with a file, and with the directories above it. -/
def place (t : FileTree) (directory : Ino) (entry : FileEntry) : FileTree :=
  let path := Text.toOctets entry.path
  let t := (t.placeAbove directory path).tryTo fun t =>
    match entry.content with
    | .text text => t.write directory path text
    | .directory => t.makeDirectory directory path usualDirectory
    | .symlink target => t.make directory path 0o777 fun _ => .symlink (Text.toOctets target)
    | .fifo => t.make directory path usualFile fun _ => .fifo
  match entry.mode with
  | none => t
  | some mode => t.tryTo fun t => do
    .ok (t.setMode (← t.find directory true path) mode)

/-- The tree as the system's own: nothing in it belongs to the user. -/
def ofSystem (t : FileTree) : FileTree :=
  { t with nodes := t.nodes.map fun inode => { inode with isOwn := false } }

end FileTree

namespace Machine

/-- The names under which the program of scripts is known. -/
def scriptNames : List String := [Utility.scriptProgram, "dash"]

/-- The devices, each with its name. -/
def devices : List (String × Device) :=
  [("null", .null), ("zero", .zero), ("full", .full), ("random", .random), ("urandom", .random),
   ("tty", .terminal)]

/-- The names that stand for the open files of the process that uses them. -/
def descriptorLinks : List (String × String) :=
  [("/dev/fd", "/proc/self/fd"), ("/dev/stdin", "/proc/self/fd/0"),
   ("/dev/stdout", "/proc/self/fd/1"), ("/dev/stderr", "/proc/self/fd/2")]

/-- The tree with the programs and the devices. -/
def installation : FileTree :=
  let root := FileTree.root
  let directories := ["/usr/bin", "/dev", "/etc"]
  let t := directories.foldl (fun t path =>
    t.place root { path, content := .directory }) FileTree.empty
  let t := t.place root { path := "/tmp", content := .directory, mode := some 0o1777 }
  let t := (("/bin", "usr/bin") :: descriptorLinks).foldl (fun t (path, target) =>
    t.place root { path, content := .symlink target }) t
  let t := (Utility.names ++ ["dash"]).foldl (fun t name =>
    let program := if scriptNames.contains name then Utility.scriptProgram else name
    t.place root {
      path := "/usr/bin/" ++ name
      content := .text (mark ++ program)
      mode := some 0o755 }) t
  let t := devices.foldl (fun t (name, device) =>
    t.tryTo fun t => t.make root ("/dev/" ++ name) 0o666 fun _ => .device device) t
  (t.tryTo fun t => t.make root "/proc" 0o555 fun _ => .processes).ofSystem

end Machine
end JobControl
