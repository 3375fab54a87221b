import JobControl.Utility.Creation
import JobControl.Utility.Names

/-!
# Removing files and directories

## Main definitions

* `Utility.rm`, `Utility.rmdir`, `Utility.unlink`
-/

namespace JobControl.Utility

open Routine

/-- What a file is called in a question. -/
def kindText (status : FileStatus) : String :=
  match status.kind with
  | .regular => if status.size = 0 then "regular empty file" else "regular file"
  | .directory => "directory"
  | .symlink => "symbolic link"
  | .fifo => "fifo"
  | .device => "character special file"

/-- Reads an answer from standard input: whether its first character says yes. -/
def confirms (first : Option Char) : Nat → Routine Bool
  | 0 => pure false
  | n + 1 => do
    match ← call (.read Fd.standardInput 1) with
    | .error _ => return first = some 'y' || first = some 'Y'
    | .ok bytes =>
      match (Text.ofArray bytes).toList with
      | [] | ['\n'] => return first = some 'y' || first = some 'Y'
      | c :: _ => confirms (some (first.getD c)) n

/-- Asks a question; whether the answer is yes. -/
def ask (name question : String) : Printer Bool := do
  Printer.complain s!"{name}: {question}? "
  Printer.lift (confirms none rounds)

/-- The options of `rm`. -/
def rmOptions : Options where
  letters := "dfirRIv"
  names := [("force", "f", .nothing), ("recursive", "r", .nothing), ("dir", "d", .nothing),
    ("verbose", "v", .nothing), ("interactive", "i", .optional),
    ("no-preserve-root", "no", .nothing),
    ("preserve-root", "preserve", .optional), ("one-file-system", "one", .nothing)]

/-- How files are removed. -/
structure Removing where
  name : String
  isRecursive : Bool
  removesDirectories : Bool
  isForced : Bool
  asks : Bool
  isVerbose : Bool

namespace Removing

/-- Whether nobody objects to the removal of a file.  At a terminal, one that may not be written is
asked for. -/
def isWanted (r : Removing) (path : String) (status : FileStatus) : Printer Bool := do
  let isProtected ← if r.isForced || status.kind = .symlink then pure false
    else do
      match ← Printer.call (.access path .write) with
      | .error .eacces => pure (r.asks || (← Printer.call (.isTerminal Fd.standardInput)))
      | _ => pure false
  let kind := (if isProtected then "write-protected " else "") ++ kindText status
  if r.asks || isProtected then ask r.name s!"remove {kind} {Quoting.always path}" else return true

/-- Says that something was removed. -/
def tell (r : Removing) (what path : String) : Printer Bool := do
  if r.isVerbose then Printer.put s!"removed {what}{Quoting.always path}\n"
  return true

/-- Removes what a path leads to; whether that succeeds. -/
def remove (r : Removing) (path : String) : Nat → Printer Bool
  | 0 => return false
  | depth + 1 => do
    match ← Printer.call (.metadata path false) with
    | .error e =>
      if r.isForced && (e = .enoent || e = .enotdir) then return true
      else cannot r.name "cannot remove" path e
    | .ok status =>
      if status.kind ≠ .directory then
        if !(← r.isWanted path status) then return true
        match ← Printer.call (.remove path) with
        | .ok () => r.tell "" path
        | .error e => cannot r.name "cannot remove" path e
      else if !(r.isRecursive || r.removesDirectories) then
        cannot r.name "cannot remove" path .eisdir
      else
        let names ← Printer.call (.entries path)
        let children := names.toOption.getD []
        if !r.isRecursive && !children.isEmpty then
          return ← cannot r.name "cannot remove" path .enotempty
        if r.asks && !children.isEmpty then
          if !(← ask r.name s!"descend into directory {Quoting.always path}") then return true
        let outcomes ← children.mapM fun child => r.remove s!"{path}/{child}" depth
        if !outcomes.all id then return false
        if !(← r.isWanted path status) then return true
        match ← Printer.call (.removeDirectory path) with
        | .ok () => r.tell "directory " path
        | .error e =>
          let isUnread : Bool := match names with
            | .error _ => e = .enotempty
            | .ok _ => false
          cannot r.name "cannot remove" path (if isUnread then .eacces else e)

end Removing

/-- Removes files, and directories if asked to. -/
def rm : Utility := fun name arguments =>
  withOptions rmOptions 1 name arguments fun found => do
    let isForced := found.last? ["f", "i"] = some "f"
    if found.operands.isEmpty && isForced then return 0
    let r : Removing :=
      { name, isForced, isRecursive := found.has "r" || found.has "R"
        removesDirectories := found.has "d", asks := found.last? ["f", "i"] = some "i"
        isVerbose := found.has "v" }
    eachOperand name found.operands fun operand => do
      let last := lastComponent operand
      if r.isRecursive && operand ≠ "" && last = "/" then
        Printer.complain
          s!"{name}: it is dangerous to operate recursively on {Quoting.always operand}\n"
        Printer.complain s!"{name}: use --no-preserve-root to override this failsafe\n"
        return false
      else if r.isRecursive && (last = "." || last = "..") then
        let problem := "refusing to remove '.' or '..' directory: skipping"
        Printer.complain s!"{name}: {problem} {Quoting.always operand}\n"
        return false
      else r.remove operand maxDepth

/-- The options of `rmdir`. -/
def rmdirOptions : Options where
  letters := "pv"
  names := [("parents", "p", .nothing), ("verbose", "v", .nothing),
    ("ignore-fail-on-non-empty", "ignore", .nothing)]

/-- Whether a path with a slash at its end leads through a symbolic link to a directory. -/
def isLinkToDirectory (path : String) : Printer Bool := do
  let led ← Printer.call (.metadata path true)
  let link ← Printer.call (.metadata (String.ofList (withoutSlashes path)) false)
  let isThere := match led with
    | .ok status => status.kind = .directory
    | .error e => e ≠ .enotdir
  return isThere && link.toOption.any fun status => status.kind = .symlink

/-- Removes empty directories one after the other as long as that succeeds. -/
def removeEmpty (name : String) (found : Options.Found) (deed : String) : List String → Printer Bool
  | [] => return true
  | path :: rest => do
    if found.has "v" then Printer.put s!"{name}: removing directory, {Quoting.always path}\n"
    match ← Printer.call (.removeDirectory path) with
    | .ok () => removeEmpty name found "failed to remove directory" rest
    | .error e =>
      if found.has "ignore" && e = .enotempty then return true
      else if e = .enotdir && path.endsWith "/" && (← isLinkToDirectory path) then
        Printer.complain s!"{name}: {deed} {Quoting.always path}: Symbolic link not followed\n"
        return false
      else cannot name deed path e

/-- Removes empty directories. -/
def rmdir : Utility := fun name arguments =>
  withOptions rmdirOptions 1 name arguments fun found =>
    eachOperand name found.operands fun operand =>
      let above := if found.has "p" then (pathsAbove operand).reverse else []
      removeEmpty name found "failed to remove" (operand :: above)

/-- Removes the name of a file. -/
def unlink : Utility := fun name arguments =>
  withOptions { letters := "" } 1 name arguments fun found => do
    match found.operands with
    | [] => misuse name "missing operand"
    | [operand] => eachOperand name [operand] fun operand => do
      match ← Printer.call (.remove operand) with
      | .ok () => return true
      | .error e => cannot name "cannot unlink" operand e
    | _ :: extra :: _ => misuse name s!"extra operand {Quoting.plain extra}"

end JobControl.Utility
