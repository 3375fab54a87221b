import JobControl.Line
import JobControl.Settings
import JobControl.Token

/-!
# The shell as a program

Started with a line, the shell runs it and leaves with its status.  Otherwise it runs the lines of
standard input until they end or one of them tells it to leave; on a terminal it shows a prompt
before each of them.

## Main definitions

* `Interactive.readLine` — the next line of standard input.
* `Interactive.lines` — runs the lines of standard input.
* `Interactive.main` — the shell with its arguments; the status it leaves with.
-/

namespace JobControl.Interactive

/-- Splits bytes after the first line feed, if there is one. -/
def splitLine? : List UInt8 → Option (List UInt8 × List UInt8)
  | [] => none
  | b :: rest =>
    if b = 10 then some ([b], rest) else (splitLine? rest).map fun (line, rest) => (b :: line, rest)

/-- The bytes up to and with the next line feed, or up to the end of standard input, and those read
beyond.  The bytes of `buffer` come before those not read yet.  A request that is interrupted is
made again. -/
def readLine (buffer : List UInt8) : Nat → Action (Except Errno (List UInt8 × List UInt8))
  | 0 => Action.unfinished
  | n + 1 => do
    match splitLine? buffer with
    | some (line, rest) => return .ok (line, rest)
    | none =>
      match ← Action.readInput with
      | .error e => if e = Errno.eintr then readLine buffer n else return .error e
      | .ok [] => return .ok (buffer, [])
      | .ok bytes => readLine (buffer ++ bytes) n

/-- Runs the lines of standard input; the status of the last one that was not empty. -/
def lines (prompt : String) (shell : Shell) (buffer : List UInt8) (status : Int) :
    Nat → Action Int
  | 0 => Action.unfinished
  | n + 1 => do
    if shell.terminal.isInteractive then
      Action.say (.prompt prompt)
    match ← readLine buffer (← Action.rounds) with
    | .error e =>
      Action.say (.readFailed e)
      return 1
    | .ok ([], _) =>
      if shell.terminal.isInteractive then
        Action.say .endOfLines
      return status
    | .ok (line, buffer) =>
      match ← Line.execute shell (Token.ofLine (Text.ofBytes line)) with
      | (_, .exit code) => return code
      | (shell, .empty) => lines prompt shell buffer status n
      | (shell, report) => lines prompt shell buffer report.status n

/-- Runs the lines of standard input, on its terminal if it is one that can be had. -/
def runInput (prompt : String) : Action Int := do
  let terminal ← match ← Terminal.init with
    | .ok terminal => pure terminal
    | .error e => do
      Action.log (.noTerminal e)
      Terminal.detach
  lines prompt { terminal } [] 0 (← Action.rounds)

/-- Runs a single line. -/
def runLine (line : String) : Action Int := do
  let terminal ← Terminal.detach
  let (_, report) ← Line.execute { terminal } (Token.ofLine line)
  return report.status

/-- The shell started with some settings; the status it leaves with. -/
def start (settings : Settings) : Action Int :=
  match settings.command with
  | some line => runLine line
  | none => runInput settings.prompt

/-- The shell started with some arguments; the status it leaves with. -/
def main (arguments : List String) : Action Int := do
  match Settings.ofArguments arguments (← Action.environment "JOBSH_PROMPT") with
  | .error e =>
    Action.say (.usage e)
    return e.exitCode
  | .ok settings => start settings

end JobControl.Interactive
