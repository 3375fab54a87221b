import JobControl.Machine.Host
import JobControl.Machine.Installation

/-!
# Setting up a machine with a shell

The shell is started by an attendant, which waits for it.  It works in a directory of its own, and
what it writes goes into two files without a name.

## Main definitions

* `Setup` — what a machine is set up with.
* `Setup.host` — the machine with its shell.
* `Host.written` — what has been written on a stream.
* `Host.files` — what is in the directory of the shell.
-/

namespace JobControl

/-- Where the standard input of the shell comes from. -/
inductive InputSource
  | nothing
  | bytes (content : ByteArray)
  | file (path : String)
  | terminal

/-- How the shell stands to the terminal. -/
inductive Standing
  /-- The terminal does not control the session of the shell. -/
  | apart
  /-- The shell leads the session that the terminal controls. -/
  | leader
  /-- The terminal is in the hands of the attendant, who gives it to the shell when the shell
  stops. -/
  | background
  deriving DecidableEq

/-- What a machine is set up with. -/
structure Setup where
  /-- The directory of the shell, which is made for it. -/
  directory : String
  files : List FileEntry
  environment : List (String × String)
  input : InputSource
  standing : Standing
  /-- What is typed on the terminal before anybody has it. -/
  typed : String := ""

namespace Setup

/-- The processes that are there from the start. -/
def attendant : Pid := 3900050
def shell : Pid := 3900100

/-- The places of the files for standard output and standard error, in a tree to which two nodes
without a name are added. -/
def withOutputs (t : FileTree) : Ino × Ino × FileTree :=
  let node : Inode := { node := .regular ByteArray.empty, mode := FileTree.usualFile }
  (t.nodes.size, t.nodes.size + 1, { t with nodes := (t.nodes.push node).push node })

/-- The node that standard input is, in a tree to which it is added if it is none of its nodes. -/
def inputNode (s : Setup) (directory : Ino) (t : FileTree) : Ino × FileTree :=
  let named (path : String) :=
    ((t.find directory true (Text.toOctets path)).toOption.getD FileTree.root, t)
  match s.input with
  | .nothing => named "/dev/null"
  | .terminal => named "/dev/tty"
  | .file path => named path
  | .bytes content =>
    let node : Inode := { node := .regular content, mode := FileTree.usualFile }
    (t.nodes.size, { t with nodes := t.nodes.push node })

/-- The machine with its shell. -/
def host (s : Setup) : Host :=
  let t := Machine.installation.place FileTree.root { path := s.directory, content := .directory }
  let directory := (t.find FileTree.root true s.directory).toOption.getD FileTree.root
  let t := s.files.foldl (fun t entry => t.place directory entry) t
  let (output, error, t) := withOutputs t
  let (input, t) := s.inputNode directory t
  let reading (ino : Ino) (writable : Bool) : OpenFile :=
    { endpoint := .node ino, readable := true, writable }
  let writing (ino : Ino) : OpenFile :=
    { endpoint := .node ino, readable := false, writable := true, append := true }
  let environment := s.environment.map fun (name, value) => (name, Text.toOctets value)
  let session := if s.standing = .background then attendant else shell
  let attending : Process :=
    { parent := Machine.initPid, group := attendant, session := attendant, directory
      descriptors := [], name := "attendant", environment, task := .external }
  let process : Process :=
    { parent := attendant, group := shell, session, directory
      descriptors := [(0, ⟨0, false⟩), (1, ⟨1, false⟩), (2, ⟨2, false⟩)]
      ignored := [.pipe], name := "jobsh", environment, task := .external }
  let console : Console := {}
  let machine : Machine := {
    files := t
    programs := Utility.programs
    opened := #[reading input (match s.input with | .terminal => true | _ => false),
      writing output, writing error]
    processes := [(attendant, attending), (shell, process)]
    nextPid := shell + 1
    console := { console with modes := console.modes.turnOff .echo } }
  let machine := machine.type (Text.toBytes s.typed)
  let console := match s.standing with
    | .apart => machine.console
    | .leader => { machine.console with session := some shell, foreground := shell }
    | .background => { machine.console with session := some attendant, foreground := attendant }
  { machine := { machine with console }, shell, isAttended := s.standing = .background }

end Setup

namespace Host

/-- What has been written on a stream. -/
def written (host : Host) (stream : OutputStream) : ByteArray :=
  match host.machine.opened[descriptor stream]? with
  | some { endpoint := .node ino, .. } =>
    match host.machine.files.node? ino with
    | some (.regular content) => content
    | _ => ByteArray.empty
  | _ => ByteArray.empty

/-- A node as the user sees it: a file that may not be read seems to be empty. -/
def seen (inode : Inode) : Inode :=
  match inode.node with
  | .regular _ =>
    if inode.allows .read then inode else { inode with node := .regular ByteArray.empty }
  | .symlink target => { inode with node := .symlink (Text.ofOctets target) }
  | _ => inode

/-- What is in a directory, each under its path from there. -/
def files (host : Host) (directory : String) : List (String × Inode) :=
  let t := host.machine.files
  match t.find FileTree.root true (Text.toOctets directory) with
  | .ok ino => (t.contents ino).map fun (path, inode) => (Text.ofOctets path, seen inode)
  | .error _ => []

end Host
end JobControl
