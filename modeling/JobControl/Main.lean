import JobControl.Machine.Outside

/-!
# The program

The shell on a machine of its own.  Its standard input is read to the end before it starts; what it
writes is passed on when it has ended.
-/

namespace JobControl

/-- The directory in which the shell starts. -/
def startDirectory : String := "/tmp/home"

/-- The number of bytes that are read at a time. -/
def inputChunk : USize := 65536

/-- Reads to the end. -/
partial def readInput (stream : IO.FS.Stream) (before : ByteArray) : IO ByteArray := do
  let bytes ← stream.read inputChunk
  if bytes.isEmpty then return before else readInput stream (before ++ bytes)

/-- The machine on which the shell runs. -/
def ownMachine (prompt : Option String) (input : ByteArray) : Setup where
  directory := startDirectory
  files := []
  environment := [("PATH", "/usr/bin:/bin"), ("HOME", startDirectory)]
    ++ prompt.toList.map fun prompt => ("JOBSH_PROMPT", prompt)
  input := .bytes input
  standing := .apart

/-- The exit status that stands for the end of the shell. -/
def exitStatus : Option WaitStatus → UInt32
  | some status => UInt32.ofNat ((status.code.getD 0).toNat % 256)
  | none => 1

end JobControl

/-- Runs the shell with its arguments. -/
def main (arguments : List String) : IO UInt32 := do
  let input ← JobControl.readInput (← IO.getStdin) ByteArray.empty
  let setup := JobControl.ownMachine (← IO.getEnv "JOBSH_PROMPT") input
  let (ended, host) := JobControl.Host.runMain arguments setup.host
  (← IO.getStdout).write (host.written .output)
  (← IO.getStderr).write (host.written .error)
  return JobControl.exitStatus ended
