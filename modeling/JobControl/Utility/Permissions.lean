import JobControl.Machine.Information
import JobControl.Text.Permissions
import JobControl.Utility.Operands

/-!
# Changing permissions

## Main definitions

* `ModeChange` — a change of permissions, as digits or as clauses.
* `ModeChange.ofText?`, `ModeChange.apply` — the change that a text asks for, and its effect.
* `Utility.permissionText` — permissions as letters.
* `Utility.chmod` — changes the permissions of files.
-/

namespace JobControl

/-- A change of permissions. -/
inductive ModeChange
  /-- Other permissions; a directory keeps those of another kind unless all digits are there. -/
  | exact (bits : Nat) (isComplete : Bool)
  | clauses (clauses : List Text.Clause)

namespace ModeChange

/-- The change that a text asks for. -/
def ofText? (text : String) : Option ModeChange :=
  let cs := text.toList
  if cs.head?.any fun c => '0' ≤ c && c ≤ '7' then
    let (bits, rest) := Text.inBase 8 cs
    if rest.isEmpty && bits ≤ 0o7777 then some (.exact bits (4 < cs.length)) else none
  else (Text.clauses? "rwxXst" true text).map .clauses

/-- Permissions after a change.  What is named for nobody in particular does not reach the
permissions in `masked`. -/
def apply (isDirectory : Bool) (masked bits : Nat) : ModeChange → Nat
  | exact new isComplete => if isDirectory && !isComplete then new ||| (bits &&& 0o6000) else new
  | clauses all => all.foldl (Text.Clause.apply isDirectory masked) bits

end ModeChange

namespace Utility

open Routine

/-- Permissions as letters. -/
def permissionText (mode : Nat) : String :=
  let three (shift special : Nat) (both lone : Char) : List Char :=
    let bits := (mode >>> shift) % 8
    let execute := if mode &&& special ≠ 0 then if bits &&& 1 ≠ 0 then both else lone
      else if bits &&& 1 ≠ 0 then 'x' else '-'
    [if bits &&& 4 ≠ 0 then 'r' else '-', if bits &&& 2 ≠ 0 then 'w' else '-', execute]
  String.ofList (three 6 0o4000 's' 'S' ++ three 3 0o2000 's' 'S' ++ three 0 0o1000 't' 'T')

/-- How deep a directory tree can be. -/
def maxDepth : Nat := 2048

/-- How permissions are changed. -/
structure ModeChanging where
  name : String
  change : ModeChange
  /-- The permissions that a change for nobody in particular does not reach. -/
  masked : Nat
  isRecursive : Bool
  /-- Whether every file is shown, or those that are changed. -/
  showsAll : Bool
  showsChanges : Bool
  isQuiet : Bool
  /-- Whether it is a problem if the change would be another one without mask. -/
  isStrict : Bool

namespace ModeChanging

/-- Says what happened to a file. -/
def tell (c : ModeChanging) (path : String) (before after : Nat) : Printer Unit := do
  let shown (mode : Nat) : String := s!"{Machine.octal 4 mode} ({permissionText mode})"
  if before ≠ after && (c.showsAll || c.showsChanges) then
    Printer.put s!"mode of {Quoting.always path} changed from {shown before} to {shown after}\n"
  else if c.showsAll then
    Printer.put s!"mode of {Quoting.always path} retained as {shown after}\n"

/-- Changes the permissions of a file that is there; whether that succeeds. -/
def changeOne (c : ModeChanging) (path : String) (status : FileStatus) : Printer Bool := do
  let isDirectory := status.kind = .directory
  let after := c.change.apply isDirectory c.masked status.mode
  match ← Printer.call (.setMode path after) with
  | .error e =>
    unless c.isQuiet do
      Printer.complain
        s!"{c.name}: changing permissions of {Quoting.always path}: {e.sentence}\n"
    return false
  | .ok () =>
    c.tell path status.mode after
    let naive := c.change.apply isDirectory 0 status.mode
    if c.isStrict && after ≠ naive && after - (after &&& naive) ≠ 0 then
      Printer.complain <| s!"{c.name}: {Quoting.subject path}: new permissions are " ++
        s!"{permissionText after}, not {permissionText naive}\n"
      return false
    else return true

/-- Changes the permissions of what a path leads to; whether that succeeds. -/
def changeAt (c : ModeChanging) (isTop : Bool) (path : String) : Nat → Printer Bool
  | 0 => return true
  | depth + 1 => do
    match ← Printer.call (.metadata path isTop) with
    | .error e =>
      unless c.isQuiet do
        let isThere := (← Printer.call (.metadata path false)).toOption.isSome
        if isThere && e = .enoent then
          Printer.complain s!"{c.name}: cannot operate on dangling symlink {Quoting.always path}\n"
        else Printer.complain s!"{c.name}: cannot access {Quoting.always path}: {e.sentence}\n"
      if c.showsAll then Printer.put s!"{Quoting.always path} could not be accessed\n"
      return false
    | .ok status =>
      if status.kind = .symlink then return true
      let succeeds ← c.changeOne path status
      if c.isRecursive && status.kind = .directory then
        match ← Printer.call (.entries path) with
        | .error e =>
          unless c.isQuiet do
            Printer.complain
              s!"{c.name}: cannot read directory {Quoting.always path}: {e.sentence}\n"
          return false
        | .ok names =>
          let outcomes ← names.mapM fun name => c.changeAt false s!"{path}/{name}" depth
          return succeeds && outcomes.all id
      else return succeeds

end ModeChanging

/-- The options of `chmod`. -/
def chmodOptions : Options where
  letters := "Rcfv"
  names := [("recursive", "R", .nothing), ("changes", "c", .nothing), ("quiet", "f", .nothing),
    ("silent", "f", .nothing), ("verbose", "v", .nothing), ("reference", "reference", .required)]

/-- Whether an argument with a dash is a change of permissions. -/
def isModeArgument (argument : String) : Bool :=
  match argument.toList with
  | '-' :: c :: _ => "rwxXstugoa,+=0123456789".toList.contains c
  | _ => false

/-- Changes the permissions of files. -/
def chmod : Utility := fun name arguments => do
  let before := arguments.takeWhile (· ≠ "--")
  let modes := before.filter isModeArgument
  let rest := before.filter (fun a => !isModeArgument a) ++ arguments.drop before.length
  withOptions chmodOptions 1 name rest fun found => do
    let reference := found.value? "reference"
    let (mode?, operands) := match reference, modes, found.operands with
      | some _, _, operands => (some "", operands)
      | none, [], mode :: operands => (some mode, operands)
      | none, [], [] => (none, [])
      | none, modes, operands => (some (String.intercalate "," modes), operands)
    let masked ← call (.mask none)
    match mode? with
    | none => misuse name "missing operand"
    | some mode =>
      if operands.isEmpty then
        if !modes.isEmpty || reference.isSome then return ← misuse name "missing operand"
        else return ← misuse name s!"missing operand after {Quoting.plain mode}"
      let change? ← match reference with
        | none => pure (ModeChange.ofText? mode)
        | some path =>
          match ← call (.metadata path true) with
          | .ok status => pure (some (.exact status.mode true))
          | .error e =>
            report name s!"failed to get attributes of {Quoting.always path}" e
            return 1
      match change? with
      | none => misuse name s!"invalid mode: {Quoting.plain mode}"
      | some change => printing name 1 do
        let c : ModeChanging :=
          { name, change, masked, isRecursive := found.has "R", showsAll := found.has "v"
            showsChanges := found.has "c", isQuiet := found.has "f", isStrict := !modes.isEmpty }
        let outcomes ← operands.mapM fun path => c.changeAt true path maxDepth
        return if outcomes.all id then 0 else 1

end Utility
end JobControl
