import JobControl.Script.Commands.Names

/-!
# Commands on directories

A script knows its working directory by the names through which it got there.

## Main definitions

* `Commands.cd`, `Commands.pwd` — the working directory.
* `Commands.joined` — a path from a directory with its dots resolved.
* `Commands.enter` — makes a directory the working directory.
-/

namespace JobControl.Commands

/-- The last of some options for paths with or without symbolic links: whether it asks for those
without. -/
def isPhysical (options : List (Char × String)) : Bool := options.getLast?.any fun o => o.1 = 'P'

/-- The names of a path. -/
def namesOf (path : String) : List String := (path.splitOn "/").filter (· ≠ "")

/-- Names and more names after them, of which some stand for the directory itself or the one
above. -/
def resolved (before names : List String) : List String :=
  names.foldl (fun before name =>
    if name = "." then before else if name = ".." then before.dropLast else before ++ [name]) before

/-- A path from a directory with its dots resolved.  Two slashes at the beginning are not one. -/
def joined (directory path : String) : String :=
  let isAbsolute := path.startsWith "/"
  let start := if isAbsolute then path else directory
  let root := if start.startsWith "//" && !start.startsWith "///" then "//" else "/"
  let names := resolved (if isAbsolute then [] else namesOf directory) (namesOf path)
  root ++ String.intercalate "/" names

/-- The working directory as the system knows it. -/
def physicalDirectory : Run String := do
  match ← Run.call .workingDirectory with
  | .ok path => return path
  | .error e =>
    Run.warn s!"getcwd() failed: {e.sentence}"
    return ""

/-- Exports a variable with a value. -/
def exportValue (name value : String) : Run Unit := do
  Run.assign name value
  Run.mark name fun v => { v with isExported := true }

/-- Makes a directory the working directory. -/
def enter (physical : Bool) (path : String) : Run (Except Errno Unit) := do
  let i ← get
  let logical := if physical || (i.directory = "" && !path.startsWith "/") then none
    else some (joined i.directory path)
  match ← Run.call (.changeDirectory (logical.getD path)) with
  | .error e => return .error e
  | .ok () =>
    exportValue "OLDPWD" i.directory
    let directory ← match logical with
      | some directory => pure directory
      | none => physicalDirectory
    modify fun i => { i with
      directory, found := i.found.map fun entry => { entry with isStale := true } }
    exportValue "PWD" directory
    return .ok ()

/-- Tries the directories in which others are looked for; which one, if one of them holds a
directory of that name, and whether it is said. -/
def lookAround (path : String) : List String → Run (Option (String × Bool))
  | [] => return none
  | directory :: rest => do
    let candidate := if directory = "" then path else directory ++ "/" ++ path
    match ← Run.call (.metadata candidate true) with
    | .ok status =>
      if status.kind = .directory then return some (candidate, directory ≠ "")
      else lookAround path rest
    | .error _ => lookAround path rest

/-- Whether a path begins with dots that stand for a directory. -/
def beginsWithDots (path : String) : Bool :=
  match path.splitOn "/" with
  | first :: _ => first = "." || first = ".."
  | [] => false

/-- The command `cd`: makes a directory the working directory. -/
def cd : ScriptCommand := fun _ _ arguments => do
  let (options, operands) ← Run.options "LP" arguments
  let i ← get
  let isBack := operands.head? = some "-"
  let target := match operands with
    | [] => (i.value? "HOME").getD ""
    | first :: _ => if isBack then (i.value? "OLDPWD").getD "" else first
  let (path, isSaid) ←
    if target.startsWith "/" || beginsWithDots target then pure (target, false)
    else
      let target := if target = "" then "." else target
      match i.value? "CDPATH" with
      | none => pure (target, false)
      | some directories =>
        pure ((← lookAround target (directories.splitOn ":")).getD (target, false))
  match ← enter (isPhysical options) path with
  | .error _ => Run.fail s!"can't cd to {target}"
  | .ok () =>
    if isBack || isSaid then Run.say ((← get).directory ++ "\n")
    return 0

/-- The command `pwd`: shows the working directory. -/
def pwd : ScriptCommand := fun _ _ arguments => do
  let (options, _) ← Run.options "LP" arguments
  let directory ← if isPhysical options then physicalDirectory else pure (← get).directory
  Run.say (directory ++ "\n")
  return 0

end JobControl.Commands
