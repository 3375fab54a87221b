import JobControl.Path
import JobControl.Utility.Permissions

/-!
# Making files and directories

## Main definitions

* `Utility.mkdir`, `Utility.mkfifo`, `Utility.touch`
-/

namespace JobControl.Utility

open Routine

/-- Complains that something cannot be done with a file. -/
def cannot (name deed operand : String) (e : Errno) : Printer Bool := do
  Printer.complain s!"{name}: {deed} {Quoting.always operand}: {e.sentence}\n"
  return false

/-- Does something with each operand; one if it fails for some of them. -/
def eachOperand (name : String) (operands : List String) (body : String → Printer Bool) :
    Routine Nat := do
  if operands.isEmpty then misuse name "missing operand"
  else printing name 1 do
    let outcomes ← operands.mapM body
    return if outcomes.all id then 0 else 1

/-- Whether a path leads to a directory. -/
def isDirectory (path : String) : Printer Bool := do
  match ← Printer.call (.metadata path true) with
  | .ok status => return status.kind = .directory
  | .error _ => return false

/-! ### Directories -/

/-- The options of `mkdir`. -/
def mkdirOptions : Options where
  letters := "pm:v"
  names := [("parents", "p", .nothing), ("mode", "m", .required), ("verbose", "v", .nothing)]

/-- The paths of the directories above a path, the highest first. -/
def pathsAbove (path : String) : List String :=
  let p := Path.ofText path
  let start := if p.absolute then "/" else ""
  (List.range (p.names.length - 1)).map fun i =>
    start ++ String.intercalate "/" (p.names.take (i + 1))

/-- Makes a directory, and says so if that is wanted. -/
def makeOne (name : String) (found : Options.Found) (path : String) :
    Printer (Except Errno Unit) := do
  let made ← Printer.call (.makeDirectory path FileTree.directoryMode)
  if let .ok () := made then
    if found.has "v" then Printer.put s!"{name}: created directory {Quoting.always path}\n"
  return made

/-- Makes the directories among some paths that are not there. -/
def makeAbove (name : String) (found : Options.Found) : List String → Printer Bool
  | [] => return true
  | path :: rest => do
    match ← makeOne name found path with
    | .ok () => makeAbove name found rest
    | .error e =>
      if ← isDirectory path then makeAbove name found rest
      else cannot name "cannot create directory" path (if e = .eexist then .enotdir else e)

/-- Makes directories, and those above them if asked to. -/
def mkdir : Utility := fun name arguments =>
  withOptions mkdirOptions 1 name arguments fun found => do
    let change? := found.value? "m"
    if let some mode := change? then
      if (ModeChange.ofText? mode).isNone && !found.operands.isEmpty then
        complain s!"{name}: invalid mode {Quoting.plain mode}\n"
        return 1
    let masked ← call (.mask none)
    eachOperand name found.operands fun operand => do
      if found.has "p" then
        if !(← makeAbove name found (pathsAbove operand)) then return false
      match ← makeOne name found operand with
      | .error e =>
        if found.has "p" && (← isDirectory operand) then return true
        else cannot name "cannot create directory" operand e
      | .ok () =>
        match change?.bind ModeChange.ofText? with
        | none => return true
        | some change =>
          let _ ← Printer.call (.setMode operand (change.apply true masked FileTree.directoryMode))
          return true

/-! ### Files -/

/-- The options of `mkfifo`. -/
def mkfifoOptions : Options where
  letters := "m:"
  names := [("mode", "m", .required)]

/-- Makes named pipes. -/
def mkfifo : Utility := fun name arguments =>
  withOptions mkfifoOptions 1 name arguments fun found => do
    let change? := (found.value? "m").map ModeChange.ofText?
    if change? matches some none then
      if !found.operands.isEmpty then
        complain s!"{name}: invalid mode\n"
        return 1
    let masked ← call (.mask none)
    eachOperand name found.operands fun operand => do
      match ← Printer.call (.makeFifo operand FileTree.fileMode) with
      | .error e => cannot name "cannot create fifo" operand e
      | .ok () =>
        if let some (some change) := change? then
          let _ ← Printer.call (.setMode operand (change.apply false masked FileTree.fileMode))
        return true

/-- The options of `touch`. -/
def touchOptions : Options where
  letters := "acd:fhmr:t:"
  names := [("no-create", "c", .nothing), ("date", "d", .required), ("reference", "r", .required),
    ("no-dereference", "h", .nothing), ("time", "time", .required)]

/-- Sets the time of a file that is there, and creates it otherwise. -/
def touchOne (name : String) (found : Options.Found) (time : Option Nat) (path : String) :
    Printer Bool := do
  if path = "-" then
    match ← Printer.call (.fileMetadata Fd.standardOutput) with
    | .ok _ => return true
    | .error e => return ← cannot name "setting times of" path e
  match ← Printer.call (.metadata path true) with
  | .ok _ =>
    match ← Printer.call (.setModified path time) with
    | .ok () => return true
    | .error e => cannot name "cannot touch" path (if e = .eperm then .eacces else e)
  | .error missing =>
    if found.has "c" then
      if missing = .enoent then return true
      else return ← cannot name "setting times of" path missing
    match ← Printer.call (.openFile path .append FileTree.fileMode true) with
    | .error .eisdir => cannot name "setting times of" path missing
    | .error e => cannot name "cannot touch" path e
    | .ok fd =>
      let _ ← Printer.call (.close fd)
      if time.isSome then
        let _ ← Printer.call (.setModified path time)
      return true

/-- Words that stand for days. -/
def dayNames : List String := ["now", "today", "yesterday", "tomorrow"]

/-- Sets the times of files, and creates those that do not exist. -/
def touch : Utility := fun name arguments =>
  withOptions touchOptions 1 name arguments fun found => do
    for (option, text) in found.chosen do
      let isDate := text.toList.any Char.isDigit || dayNames.contains text
      if (option = "d" || option = "t") && !isDate then
        complain s!"{name}: invalid date format {Quoting.plain text}\n"
        return 1
    let time ← match found.value? "r" with
      | none => pure (if found.has "t" || found.has "d" then some 0 else none)
      | some path =>
        match ← call (.metadata path true) with
        | .ok status => pure (some status.modified)
        | .error e =>
          report name s!"failed to get attributes of {Quoting.always path}" e
          return 1
    if found.operands.isEmpty then return ← misuse name "missing file operand"
    eachOperand name found.operands (touchOne name found time)

end JobControl.Utility
