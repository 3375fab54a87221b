import JobControl.Stage

/-!
# Starting a pipeline

All stages are started before any is waited for.  A stage reads from the pipe that the stage before
it writes to, unless a file takes the place of the pipe.  The shell gives up its copy of a
descriptor as soon as the stage that needs it exists, so that a reader sees the end of its input
when its writer is gone.

## Main definitions

* `Spawn.group` — the process group of the stages started.
* `Spawn.launch` — starting one stage.
* `Spawn.stages` — starting all of them: the processes started, and what kept the rest from it.
-/

namespace JobControl.Spawn

/-- The group of the processes started so far: the first of them leads it. -/
def group (started : List Pid) : Option Pid := started.head?

/-- Starts a process for a program.  The shell puts it into its group as the process itself does, so
the group exists whichever of them is first. -/
def launch (child : Child) : Action (Except LaunchError Pid) := do
  match ← Action.fork child with
  | .error e => return .error (.fork e)
  | .ok pid =>
    let _ ← Action.setGroup pid (child.group.getD pid)
    return .ok pid

/-- The pipe to the next stage, if there is one. -/
def pipeTo (rest : List Stage) : Action (Except Errno (Option (Fd × Fd))) := do
  if rest.isEmpty then return .ok none
  match ← Action.pipe with
  | .error e => return .error e
  | .ok ends => return .ok (some ends)

/-- Starts stages after those of `started`, the first with `incoming` for its input. -/
def stages (incoming : Option Fd) (started : List Pid) :
    List Stage → Action (List Pid × Option LaunchError)
  | [] => do
    Action.closeAll incoming.toList
    return (started, none)
  | stage :: rest => do
    let others := (rest.map Stage.files).flatten ++ incoming.toList
    match ← pipeTo rest with
    | .error e =>
      Action.closeAll (stage.files ++ others)
      return (started, some (.pipe e))
    | .ok ends =>
      let reading := ends.map Prod.fst
      let writing := ends.map Prod.snd
      match ← launch {
          program := stage.program
          input := stage.input <|> incoming
          output := stage.output <|> writing
          group := group started } with
      | .error e =>
        Action.closeAll (writing.toList ++ reading.toList ++ stage.files ++ others)
        return (started, some e)
      | .ok pid =>
        Action.closeAll (writing.toList ++ stage.files ++ incoming.toList)
        stages reading (started ++ [pid]) rest

end JobControl.Spawn
