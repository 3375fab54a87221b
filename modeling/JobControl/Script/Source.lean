import JobControl.Script.Redirection

/-!
# Scripts in files

The commands of a file are carried out as they are read, up to the end of a line at a time.

## Main definitions

* `Run.follow` — carries out the commands that are read from a descriptor.
* `Run.openSource` — opens a file with commands.
-/

namespace JobControl.Run

/-- How many bytes of a script are read at a time. -/
def sourceChunk : Nat := 8192

/-- The next bytes of a script; nothing at its end. -/
def nextChunk (fd : Fd) : Nat → Run ByteArray
  | 0 => return ByteArray.empty
  | n + 1 => do
    match ← call (.read fd sourceChunk) with
    | .ok bytes => return bytes
    | .error e =>
      if e = .eintr then
        notice
        nextChunk fd n
      else return ByteArray.empty

/-- Shows the part of a script that was read, if that is wanted. -/
def display (before after : Reading) : Run Unit := do
  if (← get).isOn 'v' then
    let read := before.rest.take (before.rest.length - after.rest.length)
    complain ((String.ofList (read.filterMap fun
      | .char c => some c
      | _ => none)))

/-- Carries out the commands that are read from a descriptor, after some with a status. -/
def followFrom (evaluate : Evaluator) (fd : Fd) (status : Nat) (r : Reading) : Nat → Run Nat
  | 0 => return status
  | n + 1 => do
    match ← unit r with
    | none =>
      let bytes ← nextChunk fd Routine.rounds
      let r := if bytes.isEmpty then { r with isAll := true }
        else { r with rest := r.rest ++ Reader.glyphs (bytes.toList.map Text.octet) }
      followFrom evaluate fd status r n
    | some (.nothing, after) =>
      display r after
      return status
    | some (.commands script, after) =>
      display r after
      let status ← match script with
        | none => pure status
        | some script => evaluate script {}
      match (← get).skip with
      | .nothing => followFrom evaluate fd status after n
      | .back _ =>
        modify fun i => { i with skip := .nothing }
        return status
      | _ => return status

/-- Carries out the commands that are read from a descriptor. -/
def follow (evaluate : Evaluator) (fd : Fd) : Run Nat :=
  followFrom evaluate fd 0 { rest := [], isAll := false, line := 1 } Routine.rounds

/-- Opens a file with commands, out of the way of the descriptors that scripts name. -/
def openSource (path : String) : Run Fd := do
  match ← Redirect.openFile path .read Routine.rounds with
  | .error e => Redirect.complain path false e
  | .ok fd =>
    if fd < Redirect.leastOwn then
      match ← call (.duplicateFrom fd Redirect.leastOwn) with
      | .ok copy =>
        let _ ← call (.close fd)
        return copy
      | .error e => fail s!"{fd}: {e.sentence}"
    else return fd

end JobControl.Run
