import JobControl.Search

/-!
# Stages

A stage of a pipeline is ready when its program is found and the files of its redirections are open.
All programs are found before any file is opened, and all files are opened before any process is
started, so that a failure leaves no process behind.

## Main definitions

* `Stage` — a program with its open files.
* `Program.find` — the program that a command names.
* `Stage.prepare` — the stages of a pipeline.
-/

namespace JobControl

/-- A program ready to be started, with the files that replace its input and output. -/
structure Stage where
  program : Program
  input : Option Fd
  output : Option Fd

namespace Program

/-- The program that a command names, with its arguments. -/
def find (command : Command) : Action (Except Rejection Program) := do
  match command.argv with
  | [] => return .error (.malformed .emptyStage)
  | name :: arguments =>
    match ← Search.program name with
    | none => return .error (.programNotFound name)
    | some path =>
      if (path :: arguments.map Text.toBytes).any Text.hasNulByte then
        return .error (.launch (.nulInArgument name))
      else
        return .ok { name, path, argv := path :: arguments.map Text.toBytes }

/-- The programs of some commands; the first failure counts. -/
def findAll : List Command → Action (Except Rejection (List Program))
  | [] => return .ok []
  | command :: rest => do
    match ← find command with
    | .error e => return .error e
    | .ok program =>
      match ← findAll rest with
      | .error e => return .error e
      | .ok programs => return .ok (program :: programs)

end Program

namespace Stage

/-- The files of a stage. -/
def files (s : Stage) : List Fd := s.input.toList ++ s.output.toList

/-- Opens the file of a redirection, if there is one. -/
def openFile (request : String → Action (Except Errno Fd)) :
    Option String → Action (Except Rejection (Option Fd))
  | none => return .ok none
  | some path =>
    if Text.hasNul path then return .error (.redirection path .nulInPath)
    else do
      match ← request path with
      | .error e => return .error (.redirection path (.refused e))
      | .ok fd => return .ok (some fd)

/-- Opens the files of a stage, its input first. -/
def openFiles (program : Program) (command : Command) : Action (Except Rejection Stage) := do
  match ← openFile Action.openInput command.input with
  | .error e => return .error e
  | .ok input =>
    match ← openFile Action.openOutput command.output with
    | .error e =>
      Action.closeAll input.toList
      return .error e
    | .ok output => return .ok { program, input, output }

/-- Opens the files of all stages in order; if one cannot be opened, none stays open. -/
def openAll : List (Program × Command) → Action (Except Rejection (List Stage))
  | [] => return .ok []
  | (program, command) :: rest => do
    match ← openFiles program command with
    | .error e => return .error e
    | .ok stage =>
      match ← openAll rest with
      | .error e =>
        Action.closeAll stage.files
        return .error e
      | .ok stages => return .ok (stage :: stages)

/-- The stages of a pipeline: all programs are found first, then all files opened. -/
def prepare (pipeline : Pipeline) : Action (Except Rejection (List Stage)) := do
  match ← Program.findAll pipeline.commands with
  | .error e => return .error e
  | .ok programs => openAll (programs.zip pipeline.commands)

end Stage
end JobControl
