import JobControl.Utility.Copying
import JobControl.Utility.Removal

/-!
# Files under other names

## Main definitions

* `Destination` — where the files go that are copied, moved or linked.
* `Utility.cp`, `Utility.mv`, `Utility.ln`
-/

namespace JobControl

/-- Where files go: into a directory, or one of them to a path. -/
inductive Destination
  | inside (directory : String)
  | path (path : String)

namespace Utility

open Routine

/-- A path in a directory. -/
def joinPath (directory name : String) : String :=
  if directory.endsWith "/" then directory ++ name else directory ++ "/" ++ name

namespace Destination

/-- Where a file arrives. -/
def arrival (d : Destination) (source : String) : String :=
  match d with
  | .inside directory => joinPath directory (lastComponent source)
  | .path path => path

end Destination

/-- What is wrong with the operands of a utility that has a destination. -/
inductive OperandProblem
  | misused (problem : String)
  | failed (problem : String)

/-- The sources and the destination among operands.  Without a destination, `here` takes its place
if there is one source. -/
def destination (found : Options.Found) (here : Option Destination) :
    Routine (Except OperandProblem (List String × Destination)) := do
  let kindOf (path : String) : Routine (Except Errno FileStatus) := call (.metadata path true)
  let isLone := found.has "T"
  let missing (only : String) : Except OperandProblem (List String × Destination) :=
    .error (.misused s!"missing destination file operand after {Quoting.always only}")
  match found.value? "t", found.operands with
  | _, [] => return .error (.misused "missing file operand")
  | some directory, sources =>
    if isLone then
      let options := if here.isSome then ("", "") else (" (-t)", " (-T)")
      return .error (.failed
        s!"cannot combine --target-directory{options.1} and --no-target-directory{options.2}")
    let refused (e : Errno) : Except OperandProblem (List String × Destination) :=
      .error (.failed s!"target directory {Quoting.always directory}: {e.sentence}")
    match ← kindOf directory with
    | .ok status =>
      if status.kind = .directory then return .ok (sources, .inside directory)
      else return refused Errno.enotdir
    | .error e => return refused e
  | none, [only] =>
    match here with
    | some d => return if isLone then missing only else .ok ([only], d)
    | none => return missing only
  | none, operands =>
    let target := operands.getLast?.getD ""
    let sources := operands.dropLast
    let status ← kindOf target
    let isDirectory := status.toOption.any fun status => status.kind = .directory
    if isLone then
      match operands.drop 2 with
      | [] => return .ok (sources, .path target)
      | extra :: _ => return .error (.misused s!"extra operand {Quoting.always extra}")
    else if isDirectory then return .ok (sources, .inside target)
    else if 1 < sources.length then
      let e := match status with
        | .ok _ => Errno.enotdir
        | .error e => e
      return .error (.failed s!"target {Quoting.always target}: {e.sentence}")
    else return .ok (sources, .path target)

/-- Does something with each source and the path where it arrives. -/
def toDestination (name : String) (found : Options.Found) (here : Option Destination)
    (body : String → String → Printer Bool) : Routine Nat := do
  match ← destination found here with
  | .error (.misused problem) => misuse name problem
  | .error (.failed problem) =>
    complain s!"{name}: {problem}\n"
    return 1
  | .ok (sources, d) =>
    eachOperand name sources fun source => body source (Destination.arrival d source)

/-- What the system says of a file, if it is there. -/
def status? (path : String) (follow : Bool) : Printer (Option FileStatus) := do
  return (← Printer.call (.metadata path follow)).toOption

/-- Complains about two files. -/
def cannotBoth (name : String) (before first between second after : String) : Printer Bool := do
  Printer.complain
    s!"{name}: {before}{Quoting.always first}{between}{Quoting.always second}{after}\n"
  return false

/-! ### Copies -/

/-- How files are copied. -/
structure CopyMode where
  name : String
  isRecursive : Bool
  /-- Whether symbolic links are followed. -/
  follows : Bool
  /-- Whether permissions and times stay. -/
  preserves : Bool
  isForced : Bool
  keepsOld : Bool
  asks : Bool
  isVerbose : Bool
  /-- Whether symbolic links or other names are made instead. -/
  makesSymlinks : Bool
  makesLinks : Bool
  masked : Nat

namespace CopyMode

/-- Complains about the copy of a file. -/
def cannot (c : CopyMode) (deed path : String) (e : Errno) : Printer Bool :=
  Utility.cannot c.name deed path e

/-- Opens the file that a copy is written to; `isNew` if there is none yet. -/
def openTarget (c : CopyMode) (target : String) (mode : Nat) (isNew : Bool) :
    Printer (Except Errno Fd) := do
  let opened ← Printer.call (.openFile target (if isNew then .create else .overwrite) mode true)
  match opened with
  | .ok fd => return .ok fd
  | .error e =>
    if c.isForced && !isNew then
      let _ ← Printer.call (.remove target)
      Printer.call (.openFile target .create mode true)
    else if e = .eisdir && isNew && target.endsWith "/" then return .error .enotdir
    else return .error e

/-- Copies the content of an open file. -/
def copyContent (c : CopyMode) (source target : String) (reading writing : Fd) : Nat → Printer Bool
  | 0 => return true
  | n + 1 => do
    match ← Printer.call (.read reading copyChunk) with
    | .error e => c.cannot "error reading" source e
    | .ok bytes =>
      if bytes.isEmpty then return true
      match ← Printer.lift (writeAll writing bytes) with
      | .error e => c.cannot "error writing" target e
      | .ok () => c.copyContent source target reading writing n

/-- Gives a copy the permissions and the time of its source. -/
def finish (c : CopyMode) (target : String) (status : FileStatus) : Printer Unit := do
  if c.preserves then
    let _ ← Printer.call (.setModified target (some status.modified))
    let _ ← Printer.call (.setMode target status.mode)

/-- Copies a file that is no directory, as what it is read as. -/
def copyFile (c : CopyMode) (source target : String) (status : FileStatus) (isNew : Bool) :
    Printer Bool := do
  match ← Printer.call (.openFile source .read 0 true) with
  | .error e =>
    Printer.complain s!"{c.name}: cannot open {Quoting.always source} for reading: {e.sentence}\n"
    return false
  | .ok reading =>
    let succeeds ← match ← c.openTarget target (status.mode % 0o1000) isNew with
      | .error e => c.cannot "cannot create regular file" target e
      | .ok writing => do
        let succeeds ← c.copyContent source target reading writing rounds
        let _ ← Printer.call (.close writing)
        c.finish target status
        pure succeeds
    let _ ← Printer.call (.close reading)
    return succeeds

/-- What a request came to. -/
def outcome (c : CopyMode) (deed target : String) (result : Except Errno Unit) : Printer Bool := do
  match result with
  | .ok () => return true
  | .error e => c.cannot deed target e

/-- Copies a file that is no directory. -/
def copyOne (c : CopyMode) (source target : String) (status : FileStatus)
    (old : Option FileStatus) : Printer Bool := do
  if c.makesLinks then
    match ← Printer.call (.link source target) with
    | .ok () => return true
    | .error e =>
      return ← cannotBoth c.name "cannot create hard link " target " to " source s!": {e.sentence}"
  if c.makesSymlinks then
    let made ← Printer.call (.makeSymlink source target)
    return ← c.outcome "cannot create symbolic link" target made
  let isSpecial := status.kind = .symlink || (status.kind = .fifo && c.isRecursive)
  if isSpecial && old.isSome then
    let _ ← Printer.call (.remove target)
  match status.kind, isSpecial with
  | .symlink, true =>
    match ← Printer.call (.readSymlink source) with
    | .error e => c.cannot "cannot read symbolic link" source e
    | .ok text =>
      c.outcome "cannot create symbolic link" target (← Printer.call (.makeSymlink text target))
  | .fifo, true =>
    c.outcome "cannot create fifo" target (← Printer.call (.makeFifo target (status.mode % 0o1000)))
  | _, _ => c.copyFile source target status old.isNone

/-- Whether a copy does not take the place of what is there. -/
def isKept (c : CopyMode) (target : String) (old : FileStatus) : Printer Bool := do
  if old.kind = .directory then return false
  else if c.keepsOld then return true
  else if c.asks then return !(← ask c.name s!"overwrite {Quoting.always target}")
  else return false

/-- Copies what a path leads to; `made` are the directories that were made for that. -/
def copy (c : CopyMode) (top : String × String) (made : List Ino) (source target : String) :
    Nat → Printer Bool
  | 0 => return true
  | depth + 1 => do
    match ← Printer.call (.metadata source c.follows) with
    | .error e => c.cannot "cannot stat" source e
    | .ok status =>
      let isDirectory := status.kind = .directory
      if isDirectory && !c.isRecursive then
        Printer.complain
          s!"{c.name}: -r not specified; omitting directory {Quoting.always source}\n"
        return false
      if made.contains status.ino then
        return ← cannotBoth c.name "cannot copy a directory, " top.1 ", into itself, " top.2 ""
      let arrival ← Printer.call (.metadata target (status.kind ≠ .symlink))
      if let .error e := arrival then
        if e ≠ .enoent && e ≠ .eloop then return ← c.cannot "cannot stat" target e
      let old := arrival.toOption
      let named ← status? target false
      match old with
      | some old =>
        if old.ino = status.ino && !(isDirectory && c.isRecursive) then
          return ← cannotBoth c.name "" source " and " target " are the same file"
        if !isDirectory && old.kind = .directory then
          Printer.complain
            s!"{c.name}: cannot overwrite directory {Quoting.always target} with non-directory\n"
          return false
        if isDirectory && old.kind ≠ .directory then
          return ← cannotBoth c.name "cannot overwrite non-directory " target " with directory "
            source ""
        if ← c.isKept target old then return true
      | none =>
        if named.isSome && status.kind ≠ .symlink && !isDirectory then
          Printer.complain
            s!"{c.name}: not writing through dangling symlink {Quoting.always target}\n"
          return false
      if c.isVerbose && !(isDirectory && old.isSome) then
        Printer.put s!"{Quoting.always source} -> {Quoting.always target}\n"
      if !isDirectory then c.copyOne source target status old
      else
        if old.isNone then
          let mode := status.mode % 0o10000 ||| 0o700
          if let .error e ← Printer.call (.makeDirectory target mode) then
            return ← c.cannot "cannot create directory" target e
        let own ← if old.isNone then status? target true else pure none
        let made := made ++ (own.map (·.ino)).toList
        match ← Printer.call (.entries source) with
        | .error e => c.cannot "cannot access" source e
        | .ok names =>
          let outcomes ← names.mapM fun child =>
            c.copy top made (joinPath source child) (joinPath target child) depth
          if old.isNone then
            let bits := status.mode - (status.mode &&& c.masked)
            let _ ← Printer.call (.setMode target bits)
          c.finish target status
          return outcomes.all id

end CopyMode

/-- The options of `cp`. -/
def cpOptions : Options where
  letters := "abdfHilLnprst:uvxPRS:TZ"
  names := [("archive", "a", .nothing), ("force", "f", .nothing), ("interactive", "i", .nothing),
    ("link", "l", .nothing), ("dereference", "L", .nothing), ("no-clobber", "n", .nothing),
    ("no-dereference", "P", .nothing), ("preserve", "p", .optional), ("recursive", "r", .nothing),
    ("symbolic-link", "s", .nothing), ("target-directory", "t", .required),
    ("update", "u", .nothing), ("verbose", "v", .nothing), ("no-target-directory", "T", .nothing)]

/-- The copies that options ask for. -/
def copyMode (name : String) (masked : Nat) (found : Options.Found) : CopyMode :=
  let isRecursive := found.has "r" || found.has "R" || found.has "a"
  let linking := found.last? ["L", "P", "d", "a"]
  { name, masked, isRecursive
    follows := match linking with
      | none => !isRecursive
      | some option => option = "L"
    preserves := found.has "p" || found.has "a"
    isForced := found.has "f"
    keepsOld := found.last? ["n", "i"] = some "n"
    asks := found.last? ["n", "i"] = some "i"
    isVerbose := found.has "v"
    makesSymlinks := found.has "s"
    makesLinks := found.has "l" }

/-- Copies files. -/
def cp : Utility := fun name arguments =>
  withOptions cpOptions 1 name arguments fun found => do
    let c := copyMode name (← call (.mask none)) found
    toDestination name found none fun source target =>
      c.copy (source, target) [] source target maxDepth

/-! ### Other names -/

/-- The options of `mv`. -/
def mvOptions : Options where
  letters := "bfint:uvS:TZ"
  names := [("force", "f", .nothing), ("interactive", "i", .nothing), ("no-clobber", "n", .nothing),
    ("target-directory", "t", .required), ("update", "u", .nothing), ("verbose", "v", .nothing),
    ("no-target-directory", "T", .nothing)]

/-- Gives a file another name. -/
def moveOne (name : String) (found : Options.Found) (source target : String) : Printer Bool := do
  match ← Printer.call (.metadata source false) with
  | .error e => cannot name "cannot stat" source e
  | .ok status =>
    let isDirectory := status.kind = .directory
    if let some old ← status? target false then
      let choice := found.last? ["f", "i", "n"]
      if old.ino = status.ino then
        return ← cannotBoth name "" source " and " target " are the same file"
      if choice = some "n" then return true
      if !isDirectory && old.kind = .directory then
        Printer.complain (s!"{name}: cannot overwrite directory {Quoting.always target} " ++
          "with non-directory\n")
        return false
      if isDirectory && old.kind ≠ .directory then
        return ← cannotBoth name "cannot overwrite non-directory " target " with directory "
          source ""
      if choice = some "i" then
        if !(← ask name s!"overwrite {Quoting.always target}") then return true
    match ← Printer.call (.rename source target) with
    | .ok () =>
      if found.has "v" then
        Printer.put s!"renamed {Quoting.always source} -> {Quoting.always target}\n"
      return true
    | .error .einval =>
      cannotBoth name "cannot move " source " to a subdirectory of itself, " target ""
    | .error e => cannotBoth name "cannot move " source " to " target s!": {e.sentence}"

/-- Gives files other names. -/
def mv : Utility := fun name arguments =>
  withOptions mvOptions 1 name arguments fun found =>
    toDestination name found none (moveOne name found)

/-- The options of `ln`. -/
def lnOptions : Options where
  letters := "bdfinrst:vFLPS:T"
  names := [("force", "f", .nothing), ("interactive", "i", .nothing), ("symbolic", "s", .nothing),
    ("no-dereference", "n", .nothing), ("target-directory", "t", .required),
    ("verbose", "v", .nothing),
    ("no-target-directory", "T", .nothing), ("logical", "L", .nothing), ("physical", "P", .nothing),
    ("relative", "r", .nothing)]

/-- Says why a name could not be made. -/
def linkProblem (isSymbolic : Bool) (source target : String) (e : Errno) : String :=
  let target := Quoting.always target
  let text :=
    if isSymbolic then
      if e ≠ .enametoolong && source ≠ "" then s!"failed to create symbolic link {target}"
      else s!"failed to create symbolic link {target} -> {Quoting.always source}"
    else if e = .eexist then s!"failed to create hard link {target}"
    else s!"failed to create hard link {target} => {Quoting.always source}"
  s!"{text}: {e.sentence}\n"

/-- Makes a name for a file. -/
def linkOne (name : String) (found : Options.Found) (source target : String) : Printer Bool := do
  let isSymbolic := found.has "s"
  let status : Except Errno (Option FileStatus) ← if isSymbolic then pure (.ok none) else do
    pure ((← Printer.call (.metadata source (found.has "L"))).map some)
  match status with
  | .error e => cannot name "failed to access" source e
  | .ok status =>
    if status.any fun status => status.kind = .directory then
      Printer.complain s!"{name}: {Quoting.subject source}: hard link not allowed for directory\n"
      return false
    let make : Printer (Except Errno Unit) :=
      if isSymbolic then Printer.call (.makeSymlink source target)
      else Printer.call (.link source target)
    let told (made : Except Errno Unit) : Printer Bool := do
      match made with
      | .ok () =>
        if found.has "v" then
          let arrow := if isSymbolic then "->" else "=>"
          Printer.put s!"{Quoting.always target} {arrow} {Quoting.always source}\n"
        return true
      | .error e =>
        Printer.complain s!"{name}: {linkProblem isSymbolic source target e}"
        return false
    match ← make, found.last? ["f", "i"] with
    | .error .eexist, some choice =>
      let old ← status? target false
      if old.any fun old => old.kind = .directory then
        Printer.complain s!"{name}: {Quoting.subject target}: cannot overwrite directory\n"
        return false
      if choice = "i" then
        if !(← ask name s!"replace {Quoting.always target}") then return true
      let first ← status? source (isSymbolic || found.has "L")
      let isSame := first.any fun first => old.any fun old => first.ino = old.ino &&
        (first.links = 1 || lastComponent source = lastComponent target)
      if isSame then return ← cannotBoth name "" source " and " target " are the same file"
      let _ ← Printer.call (.remove target)
      told (← make)
    | made, _ => told made

/-- Makes names for files.  A symbolic link to a directory is no directory if options say so. -/
def ln : Utility := fun name arguments =>
  withOptions lnOptions 1 name arguments fun found => do
    let target := found.operands.getLast?.getD ""
    if found.has "r" && !found.has "s" && !found.operands.isEmpty then
      complain s!"{name}: cannot do --relative without --symbolic\n"
      return 1
    if let some directory := found.value? "t" then
      match ← call (.metadata directory true) with
      | .ok status =>
        if status.kind ≠ .directory then
          complain s!"{name}: target {Quoting.always directory} is not a directory\n"
          return 1
      | .error e =>
        report name s!"failed to access {Quoting.always directory}" e
        return 1
    let isLink ← match ← call (.metadata target false) with
      | .ok status => pure (status.kind = .symlink : Bool)
      | .error _ => pure false
    let found :=
      if found.has "n" && isLink && found.operands.length = 2 && (found.value? "t").isNone then
        { found with chosen := ("T", "") :: found.chosen }
      else found
    toDestination name found (some (.inside ".")) (linkOne name found)

end Utility
end JobControl
