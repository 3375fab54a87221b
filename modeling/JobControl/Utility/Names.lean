import JobControl.Utility.Operands

/-!
# Utilities on paths

## Main definitions

* `Utility.lastComponent`, `Utility.withoutLast` — the parts of a path.
* `Utility.basename`, `Utility.dirname`, `Utility.pwd`
-/

namespace JobControl.Utility

open Routine

/-- A path without the slashes at its end. -/
def withoutSlashes (path : String) : List Char := (path.toList.reverse.dropWhile (· = '/')).reverse

/-- The last name of a path; a slash if there are only slashes. -/
def lastComponent (path : String) : String :=
  let cs := withoutSlashes path
  if cs.isEmpty then if path = "" then "" else "/"
  else String.ofList ((cs.reverse.takeWhile (· ≠ '/')).reverse)

/-- What comes before the last name of a path. -/
def withoutLast (path : String) : String :=
  let above := ((withoutSlashes path).reverse.dropWhile (· ≠ '/')).dropWhile (· = '/')
  if !above.isEmpty then String.ofList above.reverse
  else if path.startsWith "/" then "/" else "."

/-- A name without an ending, unless it is nothing else. -/
def withoutEnding (name ending : String) : String :=
  if name ≠ ending && name.endsWith ending then
    String.ofList (name.toList.take (name.length - ending.length))
  else name

/-- The options of `basename`. -/
def basenameOptions : Options where
  letters := "as:z"
  names := [("multiple", "a", .nothing), ("suffix", "s", .required), ("zero", "z", .nothing)]
  isStrict := true

/-- Prints the last names of paths, without an ending. -/
def basename : Utility := fun name arguments =>
  withOptions basenameOptions 1 name arguments fun found => do
    let isMany := found.has "a" || found.has "s"
    let lineEnd := if found.has "z" then "\x00" else "\n"
    let shown (ending path : String) : String :=
      let base := lastComponent path
      (if base.startsWith "/" then base else withoutEnding base ending) ++ lineEnd
    match found.operands, isMany with
    | [], _ => misuse name "missing operand"
    | _ :: _ :: extra :: _, false => misuse name s!"extra operand {Quoting.plain extra}"
    | operands, true => printing name 1 do
      Printer.put (String.join (operands.map (shown ((found.value? "s").getD ""))))
      return 0
    | path :: rest, false => printing name 1 do
      Printer.put (shown (rest.headD "") path)
      return 0

/-- The options of `dirname`. -/
def dirnameOptions : Options where
  letters := "z"
  names := [("zero", "z", .nothing)]

/-- Prints what comes before the last names of paths. -/
def dirname : Utility := fun name arguments =>
  withOptions dirnameOptions 1 name arguments fun found => do
    if found.operands.isEmpty then return ← misuse name "missing operand"
    let lineEnd := if found.has "z" then "\x00" else "\n"
    printing name 1 do
      Printer.put (String.join (found.operands.map fun path => withoutLast path ++ lineEnd))
      return 0

/-- The options of `pwd`. -/
def pwdOptions : Options where
  letters := "LP"
  names := [("logical", "L", .nothing), ("physical", "P", .nothing)]

/-- The inherited name of the working directory, if it is one without dots. -/
def inheritedDirectory (environment : List (String × String)) : Routine (Option String) := do
  match environment.lookup "PWD" with
  | none => return none
  | some path =>
    let hasDots := (path.splitOn "/").any fun name => name = "." || name = ".."
    if !path.startsWith "/" || hasDots then return none
    match ← call (.metadata path true), ← call (.metadata "." true) with
    | .ok named, .ok here => return if named.ino = here.ino then some path else none
    | _, _ => return none

/-- Prints the working directory. -/
def pwd (environment : List (String × String)) : Utility := fun name arguments =>
  withOptions pwdOptions 1 name arguments fun found => do
    unless found.operands.isEmpty do
      complain s!"{name}: ignoring non-option arguments\n"
    let inherited ←
      if found.last? ["L", "P"] = some "L" then inheritedDirectory environment else pure none
    let path ← match inherited with
      | some path => pure (.ok path)
      | none => call .workingDirectory
    match path with
    | .ok path => printing name 1 do
      Printer.put (path ++ "\n")
      return 0
    | .error e =>
      report name "couldn't find directory entry in '..' with matching i-node" e
      return 1

end JobControl.Utility
