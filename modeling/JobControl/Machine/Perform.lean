import JobControl.Machine.Children
import JobControl.Machine.Image
import JobControl.Machine.Streams

/-!
# Answering system calls

## Main definitions

* `Machine.perform` — what comes of a system call of a process.
-/

namespace JobControl.Machine

/-- Whether a descriptor is the terminal. -/
def isConsole (m : Machine) (p : Process) (fd : Fd) : Bool :=
  (m.file? p fd).any fun (_, file) =>
    match file.endpoint with
    | .node ino =>
      match m.files.node? ino with
      | some (.device .terminal) => true
      | _ => false
    | _ => false

/-- Whether a descriptor is the terminal that controls the session of a process. -/
def isControlling (m : Machine) (p : Process) (fd : Fd) : Bool :=
  m.isConsole p fd && m.console.session = some p.session

/-- Why a descriptor cannot be used as a terminal. -/
def noConsole (m : Machine) (p : Process) (fd : Fd) : Errno :=
  if (m.file? p fd).isSome then .enotty else .ebadf

/-- Changes the terminal for a process that may do so. -/
def changeConsole (m : Machine) (p : Process) (change : Machine → Machine × Except Errno Unit) :
    Machine × Reply (Except Errno Unit) :=
  match m.access p .ttou with
  | .refused => (m, .answer (.error .eio))
  | .stopped m => (m, .changed)
  | .granted => (change m).map id .answer

/-- Puts the terminal into the hands of a group of the session. -/
def giveConsole (p : Process) (group : Pid) (m : Machine) : Machine × Except Errno Unit :=
  match m.processes.find? fun (_, member) => member.group = group with
  | none => (m, .error .esrch)
  | some (_, member) =>
    if member.session ≠ p.session then (m, .error .eperm)
    else ({ m with console := { m.console with foreground := group } }, .ok ())

/-- How a process handles a signal. -/
def handlingOf (p : Process) (signal : Signal) : Handling :=
  if p.ignored.contains signal then .ignore
  else if p.caught.contains signal then .catch
  else .default

/-- The process that handles a signal in another way. -/
def withHandling (signal : Signal) (handling : Handling) (p : Process) : Process :=
  let ignored := p.ignored.filter (· ≠ signal)
  let caught := p.caught.filter (· ≠ signal)
  match handling with
  | .default => { p with ignored, caught }
  | .ignore => { p with ignored := signal :: ignored, caught }
  | .catch => { p with ignored, caught := signal :: caught }

/-- Changes the file tree. -/
def changeFiles (m : Machine) (result : Except Errno FileTree) :
    Machine × Reply (Except Errno Unit) :=
  match result with
  | .error e => (m, .answer (.error e))
  | .ok files => ({ m with files }, .answer (.ok ()))

/-- Changes a node of the user. -/
def changeNode (m : Machine) (pid : Pid) (p : Process) (path : String)
    (change : FileTree → Ino → FileTree) : Machine × Reply (Except Errno Unit) :=
  m.changeFiles do
    let ino ← m.nodeAt pid p path
    if (m.files.nodes[ino]?).any (·.isOwn) then .ok (change m.files ino) else .error .eperm

/-- Enters a directory. -/
def enterDirectory (m : Machine) (pid : Pid) (p : Process) (path : String) :
    Except Errno Machine := do
  match ← m.existing pid p true path with
  | .node ino =>
    if !m.files.isDirectory ino then .error .enotdir
    else if !m.allows ino .execute then .error .eacces
    else .ok (m.update pid fun p => { p with directory := ino })
  | .listing _ => .error .eacces
  | _ => .error .enotdir

/-- What a symbolic link says. -/
def readSymlink (m : Machine) (pid : Pid) (p : Process) (path : String) : Except Errno String := do
  match ← m.existing pid p false path with
  | .node ino =>
    match m.files.node? ino with
    | some (.symlink target) => .ok target
    | _ => .error .einval
  | _ => .error .einval

/-- Whether arguments and environment are too much for a program. -/
def isTooMuch (texts : List String) : Bool :=
  texts.any (fun text => maxArgument < text.length) ||
    maxArguments < (texts.map fun text => text.length + 9).foldl (· + ·) 0

/-- Makes a process another program. -/
def becomeProgram (m : Machine) (pid : Pid) (p : Process) (path : String) (argv : List String)
    (environment : List (String × String)) : Machine × Reply Errno :=
  let found := do
    if path = "" then throw Errno.enoent
    let ino ← m.program pid p path
    if isTooMuch (argv ++ environment.map fun (name, value) => name ++ "=" ++ value) then
      throw Errno.e2big
    m.image pid p ino path argv maxImages
  match found with
  | .error e => (m, .answer e)
  | .ok (program, argv, ino) =>
    match m.programs program with
    | none => (m, .answer .enoexec)
    | some routine =>
      (m.update pid fun p => { p with
        descriptors := p.descriptors.afterExecute
        caught := []
        noticed := []
        name := String.ofList ((Path.lastName path).toList.take 15)
        image := some ino
        environment
        task := (routine argv environment).task }, .changed)

/-- Changes the size of the terminal, of which the group that has it is told. -/
def resizeConsole (m : Machine) (rows columns : Nat) : Machine :=
  if m.console.rows = rows && m.console.columns = columns then m
  else
    let m := { m with console := { m.console with rows, columns } }
    m.deliverGroup m.console.foreground .winch

/-- Replaces a number of a process; the number before. -/
def replaced (m : Machine) (pid : Pid) (before : Nat) (replacement : Option Nat)
    (change : Nat → Process → Process) : Machine × Reply Nat :=
  match replacement with
  | none => (m, .answer before)
  | some value => (m.update pid (change value), .answer before)

/-- What comes of a system call of a process. -/
def perform (m : Machine) (pid : Pid) (p : Process) :
    (request : SystemCall) → Machine × Reply request.Answer
  | .read fd count => m.readFrom pid p fd count
  | .write fd bytes => m.writeTo pid p fd bytes
  | .seekBack fd count => (m.seekBack p fd count).map id .answer
  | .openFile path mode permissions closeOnExecute =>
    m.openFile pid p path mode permissions closeOnExecute
  | .close fd =>
    if (p.descriptors.target? fd).isNone then (m, .answer (.error .ebadf))
    else (m.update pid fun p => { p with descriptors := p.descriptors.close fd }, .answer (.ok ()))
  | .duplicate source target =>
    match p.descriptors.duplicate source target with
    | none => (m, .answer (.error .ebadf))
    | some descriptors => (m.update pid fun p => { p with descriptors }, .answer (.ok ()))
  | .duplicateFrom source least =>
    match p.descriptors.target? source with
    | none => (m, .answer (.error .ebadf))
    | some handle => (m.install pid handle least true).map id .answer
  | .pipe closeOnExecute => (m.makePipe pid closeOnExecute).map id .answer
  | .wait child flags _ =>
    match m.waitFor pid child flags with
    | (m, some answer) => (m, .answer answer)
    | (m, none) => (m, .later)
  | .signal recipient signal => (m.send pid p recipient signal).map id .answer
  | .handling signal => (m, .answer (handlingOf p signal))
  | .setHandling signal handling =>
    if signal = .kill || signal = .stop then (m, .answer (.error .einval))
    else (m.update pid (withHandling signal handling), .answer (.ok ()))
  | .takeSignals => (m.update pid fun p => { p with noticed := [] }, .answer p.noticed)
  | .identity =>
    (m, .answer { pid, parent := p.parent, group := p.group, session := p.session })
  | .setGroup child group => (m.placeIn pid child group).map id .answer
  | .isTerminal fd => (m, .answer (m.isConsole p fd))
  | .terminalGroup fd =>
    (m, .answer (if m.isControlling p fd then .ok m.console.foreground
      else .error (m.noConsole p fd)))
  | .setTerminalGroup fd group =>
    if m.isControlling p fd then m.changeConsole p (giveConsole p group)
    else (m, .answer (.error (m.noConsole p fd)))
  | .modes fd =>
    (m, .answer (if m.isConsole p fd then .ok m.console.modes else .error (m.noConsole p fd)))
  | .setModes fd modes =>
    if m.isConsole p fd then
      m.changeConsole p fun m => (m.withConsole (m.console.setModes modes), .ok ())
    else (m, .answer (.error (m.noConsole p fd)))
  | .windowSize fd =>
    (m, .answer (if m.isConsole p fd then .ok (m.console.rows, m.console.columns)
      else .error (m.noConsole p fd)))
  | .setWindowSize fd rows columns =>
    if m.isConsole p fd then (m.resizeConsole rows columns, .answer (.ok ()))
    else (m, .answer (.error (m.noConsole p fd)))
  | .metadata path follow => (m, .answer (m.status pid p follow path))
  | .fileMetadata fd => (m, .answer (m.describeOpen p fd))
  | .entries path => (m, .answer (m.namesIn pid p path))
  | .access path permission => (m, .answer (m.checkAccess pid p path permission))
  | .makeDirectory path permissions =>
    m.changeFiles (m.files.makeDirectory p.directory path (permissions - (permissions &&& p.mask)))
  | .makeFifo path permissions =>
    m.changeFiles (m.files.make p.directory path (permissions - (permissions &&& p.mask))
      fun _ => .fifo)
  | .makeSymlink target path =>
    m.changeFiles (m.files.make p.directory path 0o777 fun _ => .symlink target)
  | .readSymlink path => (m, .answer (m.readSymlink pid p path))
  | .link source target => m.changeFiles (m.files.link p.directory source target)
  | .remove path => m.changeFiles (m.files.remove p.directory path)
  | .removeDirectory path => m.changeFiles (m.files.removeDirectory p.directory path)
  | .rename source target => m.changeFiles (m.files.rename p.directory source target)
  | .setMode path mode => m.changeNode pid p path fun files ino => files.setMode ino mode
  | .setModified path time =>
    m.changeNode pid p path fun files ino => files.setModified ino (time.getD files.now)
  | .changeDirectory path =>
    match m.enterDirectory pid p path with
    | .error e => (m, .answer (.error e))
    | .ok m => (m, .answer (.ok ()))
  | .workingDirectory => (m, .answer (m.files.pathOf p.directory))
  | .mask replacement => m.replaced pid p.mask replacement fun mask p => { p with mask }
  | .limit replacement => m.replaced pid p.limit replacement fun limit p => { p with limit }
  | .now => (m, .answer m.clock)
  | .sleepUntil time => (m, if time ≤ m.clock then .answer () else .later)
  | .execute path argv environment => m.becomeProgram pid p path argv environment

end JobControl.Machine
