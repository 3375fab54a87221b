import JobControl.Action
import JobControl.Text.Utf8

/-!
# Finding a program

A program is found under its own name if that leads to a runnable file, else in the first directory
of the search path that holds one.  The search path lists directories between colons.  It is bytes,
which need not be those of a text, and so is what is found.

## Main definitions

* `Search.entries` — the directories of a search path.
* `Search.join` — the path of a program in a directory.
* `Search.candidates` — the paths that are tried, in order.
* `Search.resolve` — the first candidate that is runnable, for any way of asking.
* `Search.program` — the search of the shell.
-/

namespace JobControl.Search

/-- The byte between the directories of a search path. -/
def colon : UInt8 := 58

/-- The byte between the names of a path. -/
def slash : UInt8 := 47

/-- The directories that a search path lists: its parts between colons. -/
def entries : List UInt8 → List (List UInt8)
  | [] => [[]]
  | b :: bs =>
    if b = colon then [] :: entries bs
    else
      match entries bs with
      | [] => [[b]]
      | entry :: rest => (b :: entry) :: rest

/-- Whether a path starts at the root. -/
def isAbsolute (path : List UInt8) : Bool := path.head? = some slash

/-- The path of a program in a directory; an absolute path is its own. -/
def join (directory program : List UInt8) : List UInt8 :=
  if isAbsolute program then program
  else if directory = [] then program
  else if directory.getLast? = some slash then directory ++ program
  else directory ++ slash :: program

/-- The paths under which a program is looked for. -/
def candidates (program : List UInt8) (path : Option (List UInt8)) : List (List UInt8) :=
  program :: (path.elim [] fun path => (entries path).map fun directory => join directory program)

/-- The first of some paths that is runnable. -/
def first {m : Type → Type} [Monad m] (isRunnable : List UInt8 → m Bool) :
    List (List UInt8) → m (Option (List UInt8))
  | [] => pure none
  | path :: rest => do
    if ← isRunnable path then return some path
    first isRunnable rest

/-- The path of a program, for a way of asking whether a path is runnable. -/
def resolve {m : Type → Type} [Monad m] (isRunnable : List UInt8 → m Bool) (program : String)
    (path : Option (List UInt8)) : m (Option (List UInt8)) :=
  if program = "" then pure none else first isRunnable (candidates (Text.toBytes program) path)

/-- Whether a path leads to a runnable file. -/
def isRunnable (path : List UInt8) : Action Bool := do
  if Text.hasNulByte path then return false
  match ← Action.metadata path with
  | .ok metadata => return metadata.isRunnable
  | .error _ => return false

/-- The path of a program by the search path of the environment. -/
def program (name : String) : Action (Option (List UInt8)) := do
  resolve isRunnable name (← Action.environment "PATH")

end JobControl.Search
