import JobControl.Machine.Console
import JobControl.Machine.Names

/-!
# Open files and pipes

Opening, reading and writing.  A request that cannot be answered yet has no answer; it is made again
when the machine has gone on.

## Main definitions

* `Reply` — an answer, or none yet.
* `Machine.openFile`, `Machine.makePipe` — open files, pipes.
* `Machine.readFrom`, `Machine.writeTo` — reading and writing.
* `Machine.seekBack`, `Machine.describeOpen` — the place in an open file, and what it is.
-/

namespace JobControl.Machine

/-- What comes of a request. -/
inductive Reply (α : Type)
  | answer (value : α)
  /-- Nothing yet: the request has to be made again. -/
  | later
  /-- Nothing: the process was stopped or ended, or has become another program. -/
  | changed

/-- Opens a file for a process, at the least free number from `least` on. -/
def install (m : Machine) (pid : Pid) (handle : Nat) (least : Fd) (closeOnExecute : Bool) :
    Machine × Except Errno Fd :=
  match m.process? pid with
  | none => (m, .error .esrch)
  | some p =>
    let fd := p.descriptors.free least
    if p.limit ≤ fd then (m, .error .emfile)
    else
      (m.update pid fun p =>
        { p with descriptors := p.descriptors.insert fd ⟨handle, closeOnExecute⟩ }, .ok fd)

/-- Opens a new file for a process. -/
def installNew (m : Machine) (pid : Pid) (file : OpenFile) (closeOnExecute : Bool) :
    Machine × Except Errno Fd :=
  let handle := m.opened.size
  install { m with opened := m.opened.push file } pid handle 0 closeOnExecute

/-- Makes a pipe with both ends open. -/
def makePipe (m : Machine) (pid : Pid) (closeOnExecute : Bool) :
    Machine × Except Errno (Fd × Fd) :=
  let pipe := Endpoint.pipe (.anonymous m.nextPipe)
  let m := { m with nextPipe := m.nextPipe + 1 }
  match m.installNew pid { endpoint := pipe, readable := true, writable := false }
      closeOnExecute with
  | (m, .error e) => (m, .error e)
  | (m, .ok reading) =>
    match m.installNew pid { endpoint := pipe, readable := false, writable := true }
        closeOnExecute with
    | (m, .error e) =>
      (m.update pid fun p => { p with descriptors := p.descriptors.close reading }, .error e)
    | (m, .ok writing) => (m, .ok (reading, writing))

/-! ### Opening -/

/-- How often a named pipe was opened for reading and for writing. -/
def meetingsOf (m : Machine) (ino : Ino) : Nat × Nat := (m.meetings.lookup ino).getD (0, 0)

/-- One more process opens a named pipe.  If nobody had it open, nothing is in it. -/
def countOpening (m : Machine) (ino : Ino) (readable writable : Bool) : Machine :=
  let pipe := PipeName.named ino
  let m := if m.hasReader pipe || m.hasWriter pipe then m else m.setPipe pipe ByteArray.empty
  let (reading, writing) := m.meetingsOf ino
  let counts := (reading + readable.toNat, writing + writable.toNat)
  { m with meetings := (ino, counts) :: m.meetings.filter fun entry => entry.1 ≠ ino }

/-- Opens a named pipe: one end waits until somebody opens the other. -/
def openFifo (m : Machine) (pid : Pid) (p : Process) (ino : Ino) (file : OpenFile)
    (closeOnExecute : Bool) : Machine × Reply (Except Errno Fd) :=
  let file := { file with endpoint := .pipe (.named ino) }
  let met (counts : Nat × Nat) : Nat := if file.writable then counts.1 else counts.2
  let finish (m : Machine) : Machine × Reply (Except Errno Fd) :=
    ((m.update pid fun p => { p with opening := none }).installNew pid file closeOnExecute).map
      id .answer
  match p.opening with
  | some opening =>
    if met (m.meetingsOf ino) ≠ opening.met then finish m else (m, .later)
  | none =>
    let m := m.countOpening ino file.readable file.writable
    let isMet := if file.writable then file.readable || m.hasReader (.named ino)
      else m.hasWriter (.named ino)
    if isMet then finish m
    else
      let opening : Opening :=
        { ino, writing := file.writable, met := met (m.meetingsOf ino) }
      (m.update pid fun p => { p with opening := some opening }, .later)

/-- Opens a node of the file tree.  The permissions of a new file do not count for the process that
makes it, and a program that is carried out cannot be written. -/
def openNode (m : Machine) (pid : Pid) (p : Process) (ino : Ino) (isNew : Bool) (mode : OpenMode)
    (closeOnExecute : Bool) : Machine × Reply (Except Errno Fd) :=
  let readable := mode = .read || mode = .update
  let writable := mode ≠ .read
  let file : OpenFile :=
    { endpoint := .node ino, readable, writable, append := mode = .append }
  let plain (m : Machine) := (m.installNew pid file closeOnExecute).map id Reply.answer
  let isAllowed := isNew ||
    ((!readable || m.allows ino .read) && (!writable || m.allows ino .write))
  if !isAllowed then (m, .answer (.error .eacces))
  else
    match m.files.node? ino with
    | some .fifo => m.openFifo pid p ino file closeOnExecute
    | some (.device .terminal) =>
      if m.console.session = some p.session then plain m else (m, .answer (.error .enxio))
    | some (.regular _) =>
      if writable && m.isExecuted ino then (m, .answer (.error .etxtbsy))
      else if mode = .overwrite then plain { m with files := m.files.truncate ino }
      else plain m
    | _ => plain m

/-- Opens the target of a path. -/
def openTarget (m : Machine) (pid : Pid) (p : Process) (target : Target) (slash : Bool)
    (mode : OpenMode) (permissions : Nat) (closeOnExecute : Bool) :
    Machine × Reply (Except Errno Fd) :=
  let fails (e : Errno) : Machine × Reply (Except Errno Fd) := (m, .answer (.error e))
  let made (file : OpenFile) := (m.installNew pid file closeOnExecute).map id Reply.answer
  let place (place : Place) :=
    match m.files.openPlace place slash (permissions - (permissions &&& p.mask)) with
    | .error e => fails e
    | .ok (ino, isNew, files) =>
      if mode = .create && !isNew then fails .eexist
      else openNode { m with files } pid p ino isNew mode closeOnExecute
  match target, mode with
  | .node ino, .read =>
    if slash && !m.files.isDirectory ino then fails .enotdir
    else m.openNode pid p ino false mode closeOnExecute
  | .node ino, _ => place (.present ino)
  | .absent _ _, .read => fails .enoent
  | .absent directory name, _ => place (.absent directory name)
  | .pipe pipe, _ =>
    let readable := mode = .read || mode = .update
    made { endpoint := .pipe pipe, readable, writable := mode ≠ .read }
  | .text content, .read => made { endpoint := .text content, readable := true, writable := false }
  | .text _, _ => fails .eacces
  | .listing _, .read => made { endpoint := .listing, readable := true, writable := false }
  | .listing _, _ => fails .eisdir

/-- Opens the file that a path leads to. -/
def openFile (m : Machine) (pid : Pid) (p : Process) (path : String) (mode : OpenMode)
    (permissions : Nat) (closeOnExecute : Bool) : Machine × Reply (Except Errno Fd) :=
  if path = "" then (m, .answer (.error .enoent))
  else if Path.maxLength < path.length then (m, .answer (.error .enametoolong))
  else if p.limit ≤ p.descriptors.free 0 then (m, .answer (.error .emfile))
  else
    match m.resolve pid p (if mode = .read then .follow else .create) path with
    | .error e => (m, .answer (.error e))
    | .ok (target, slash) => m.openTarget pid p target slash mode permissions closeOnExecute

/-! ### Reading -/

/-- Reads from a text that does not change. -/
def readContent (m : Machine) (handle : Nat) (file : OpenFile) (content : ByteArray)
    (count : Nat) : Machine × Reply (Except Errno ByteArray) :=
  let bytes := content.extract file.offset (file.offset + count)
  (m.setFile handle { file with offset := file.offset + bytes.size }, .answer (.ok bytes))

/-- A byte of an endless run without a rule. -/
def noise (n : Nat) : UInt8 :=
  let x := (n.toUInt64 + 0x9e3779b97f4a7c15) * 0xbf58476d1ce4e5b9
  let y := (x ^^^ (x >>> 29)) * 0x94d049bb133111eb
  (y >>> 32).toUInt8

/-- The time that a read of the terminal waits that is not line by line, in microseconds. -/
def readingTime (c : Console) : Nat := 100000 * c.modes.character .time

/-- Whether the bytes that are there are enough for a read that is not line by line. -/
def isEnough (c : Console) (count : Nat) : Bool :=
  c.isOn .icanon || Nat.min count (Nat.max 1 (c.modes.character .min)) ≤ c.editing.length

/-- Reads from the terminal.  A read that is not line by line may wait for several bytes, or for a
time only. -/
def readConsole (m : Machine) (pid : Pid) (p : Process) (count : Nat) :
    Machine × Reply (Except Errno ByteArray) :=
  let taken (bytes : List UInt8) (c : Console) : Machine × Reply (Except Errno ByteArray) :=
    ((m.update pid fun p => { p with deadline := none }).withConsole c,
      .answer (.ok ⟨bytes.toArray⟩))
  match m.access p .ttin with
  | .refused => (m, .answer (.error .eio))
  | .stopped m => (m, .changed)
  | .granted =>
    let c := m.console
    let isTimed := !c.isOn .icanon && (c.modes.character .min = 0 || !c.editing.isEmpty)
    let isLate := isTimed && match p.deadline with
      | some time => time ≤ m.clock
      | none => c.modes.character .min = 0 && readingTime c = 0
    match c.take? count with
    | some (bytes, rest) =>
      if isEnough c count || isLate then taken bytes rest
      else if isTimed && p.deadline.isNone && readingTime c ≠ 0 then
        (m.update pid fun p => { p with deadline := some (m.clock + readingTime c) }, .later)
      else (m, .later)
    | none =>
      if isLate then taken [] c
      else if isTimed && p.deadline.isNone then
        (m.update pid fun p => { p with deadline := some (m.clock + readingTime c) }, .later)
      else (m, .later)

/-- Reads from a pipe: what is there, or the end once nobody can write. -/
def readPipe (m : Machine) (pipe : PipeName) (count : Nat) :
    Machine × Reply (Except Errno ByteArray) :=
  let content := m.pipeContent pipe
  if content.isEmpty then
    if m.hasWriter pipe then (m, .later) else (m, .answer (.ok ByteArray.empty))
  else
    (m.setPipe pipe (content.extract count content.size), .answer (.ok (content.extract 0 count)))

/-- Reads from an open file. -/
def readFrom (m : Machine) (pid : Pid) (p : Process) (fd : Fd) (count : Nat) :
    Machine × Reply (Except Errno ByteArray) :=
  match m.file? p fd with
  | none => (m, .answer (.error .ebadf))
  | some (handle, file) =>
    if !file.readable then (m, .answer (.error .ebadf))
    else
      match file.endpoint with
      | .text content => m.readContent handle file content count
      | .listing => (m, .answer (.error .eisdir))
      | .pipe pipe => m.readPipe pipe count
      | .node ino =>
        match m.files.node? ino with
        | some (.regular content) => m.readContent handle file content count
        | some (.directory _ _ _) | some .processes => (m, .answer (.error .eisdir))
        | some (.device .null) => (m, .answer (.ok ByteArray.empty))
        | some (.device .zero) | some (.device .full) =>
          (m, .answer (.ok ⟨Array.replicate count 0⟩))
        | some (.device .random) =>
          let bytes := (Array.range count).map fun i => noise (file.offset + i)
          (m.setFile handle { file with offset := file.offset + count }, .answer (.ok ⟨bytes⟩))
        | some (.device .terminal) => m.readConsole pid p count
        | _ => (m, .answer (.error .einval))

/-! ### Writing -/

/-- How many bytes a pipe holds, and how many are written in one piece. -/
def pipeCapacity : Nat := 65536
def pipeAtomic : Nat := 4096

/-- Writes into a pipe, as far as there is room. -/
def writePipe (m : Machine) (pid : Pid) (pipe : PipeName) (bytes : ByteArray) :
    Machine × Reply (Except Errno Nat) :=
  let content := m.pipeContent pipe
  let room := pipeCapacity - content.size
  if !m.hasReader pipe then
    let m := m.deliver pid .pipe
    if (m.process? pid).any fun p => p.condition = .running then (m, .answer (.error .epipe))
    else (m, .changed)
  else if room = 0 || (room < bytes.size && bytes.size ≤ pipeAtomic) then (m, .later)
  else
    let count := Nat.min room bytes.size
    (m.setPipe pipe (content ++ bytes.extract 0 count), .answer (.ok count))

/-- The bytes of a file after some are written at a place. -/
def overwritten (content bytes : ByteArray) (offset : Nat) : ByteArray :=
  let before := content.extract 0 offset
  let gap : ByteArray := ⟨Array.replicate (offset - content.size) 0⟩
  before ++ gap ++ bytes ++ content.extract (offset + bytes.size) content.size

/-- Writes on the terminal. -/
def writeConsole (m : Machine) (p : Process) (count : Nat) : Machine × Reply (Except Errno Nat) :=
  let written (m : Machine) : Machine × Reply (Except Errno Nat) :=
    if m.console.stopped && count ≠ 0 then (m, .later) else (m, .answer (.ok count))
  if m.console.isOn .tostop then
    match m.access p .ttou with
    | .refused => (m, .answer (.error .eio))
    | .stopped m => (m, .changed)
    | .granted => written m
  else written m

/-- Writes to an open file. -/
def writeTo (m : Machine) (pid : Pid) (p : Process) (fd : Fd) (bytes : ByteArray) :
    Machine × Reply (Except Errno Nat) :=
  match m.file? p fd with
  | none => (m, .answer (.error .ebadf))
  | some (handle, file) =>
    if !file.writable then (m, .answer (.error .ebadf))
    else
      match file.endpoint with
      | .text _ | .listing => (m, .answer (.error .ebadf))
      | .pipe pipe => m.writePipe pid pipe bytes
      | .node ino =>
        match m.files.node? ino with
        | some (.regular content) =>
          let offset := if file.append then content.size else file.offset
          let files := m.files.setNode ino (.regular (overwritten content bytes offset))
          let m := { m with files }
          (m.setFile handle { file with offset := offset + bytes.size }, .answer (.ok bytes.size))
        | some (.device .terminal) => m.writeConsole p bytes.size
        | some (.device .full) => (m, .answer (.error .enospc))
        | some (.device _) => (m, .answer (.ok bytes.size))
        | _ => (m, .answer (.error .einval))

/-! ### Places and kinds -/

/-- Goes back in an open file that has a place. -/
def seekBack (m : Machine) (p : Process) (fd : Fd) (count : Nat) : Machine × Except Errno Unit :=
  match m.file? p fd with
  | none => (m, .error .ebadf)
  | some (handle, file) =>
    let back := (m.setFile handle { file with offset := file.offset - count }, Except.ok ())
    match file.endpoint with
    | .pipe _ => (m, .error .espipe)
    | .node ino =>
      match m.files.node? ino with
      | some (.device .terminal) => (m, .error .espipe)
      | _ => back
    | _ => back

/-- What the system says of an open file. -/
def describeOpen (m : Machine) (p : Process) (fd : Fd) : Except Errno FileStatus :=
  match m.file? p fd with
  | none => .error .ebadf
  | some (_, file) => m.describe (targetOf file)

end JobControl.Machine
