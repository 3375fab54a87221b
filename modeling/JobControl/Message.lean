import JobControl.Rejection
import JobControl.Settings
import JobControl.WaitStatus

/-!
# Messages and log entries

What the shell tells its user, on standard output or standard error, and what it records in its log.

## Main definitions

* `Message`, `Message.stream`, `Message.text` — what is said, where, and in which words.
* `LogEntry`, `LogEntry.level`, `LogEntry.text` — what is recorded.
-/

namespace JobControl

/-- Where a message goes. -/
inductive OutputStream
  | output
  | error
  deriving DecidableEq

/-- What the shell tells its user. -/
inductive Message
  /-- The prompt of an interactive shell. -/
  | prompt (text : String)
  /-- The end of the lines of an interactive shell. -/
  | endOfLines
  /-- A process group asked for by a builtin. -/
  | group (group : Option Pid)
  /-- The working directory. -/
  | directory (path : String)
  /-- The builtins with what they do. -/
  | menu (rows : List (String × String))
  /-- A group was launched in the background. -/
  | launched (group : Pid)
  /-- A group stopped, went on or finished. -/
  | changed (group : Pid) (state : State)
  /-- Nothing of a line was launched. -/
  | rejected (cause : Rejection)
  /-- Some stages of a line were not launched. -/
  | incomplete (cause : LaunchError)
  /-- A child could not be waited for. -/
  | waitFailed (failure : WaitFailure)
  /-- The lines cannot be read. -/
  | readFailed (errno : Errno)
  /-- The arguments do not start a shell. -/
  | usage (error : UsageError)
  /-- A builtin failed. -/
  | complaint (builtin cause : String)

namespace Message

/-- The stream that a message is written to. -/
def stream : Message → OutputStream
  | prompt _ | endOfLines | group _ | directory _ | menu _ => .output
  | usage error => if error.isRequest then .output else .error
  | _ => .error

/-- The words of a message. -/
def text : Message → String
  | prompt text => text
  | endOfLines => "\n"
  | group none => "-1\n"
  | group (some g) => s!"{g}\n"
  | directory path => s!"{path}\n"
  | menu rows => String.join (rows.map fun (name, purpose) => s!"{name} - {purpose}\n")
  | launched g => s!"[{g}]\n"
  | changed g state => s!"[{g}] {state.name}\n"
  | rejected cause => s!"jobsh: {cause.message}\n"
  | incomplete cause => s!"jobsh: {cause.message}\n"
  | waitFailed failure => s!"jobsh: {failure.message}\n"
  | readFailed errno => s!"jobsh: {errno.wording}\n"
  | usage error => error.message
  | complaint builtin cause => s!"{builtin}: {cause}\n"

end Message

/-- What the shell records in its log. -/
inductive LogEntry
  | continued (group : Pid)
  | finished (group : Pid)
  | movedToBackground (group : Pid)
  | backgroundChanged (group : Pid) (state : State)
  | waitFailed (failure : WaitFailure)
  /-- A child that could not be waited for is no longer followed. -/
  | forgotten (failure : WaitFailure)
  /-- A background job lost its place to another. -/
  | displaced (group : Pid)
  | hangUpFailed (group : Pid) (errno : Errno)
  | handOverFailed (group : Pid) (errno : Errno)
  | modesFailed (errno : Errno)
  | noTerminal (errno : Errno)

namespace LogEntry

/-- The level of an entry. -/
def level : LogEntry → String
  | continued _ | finished _ | movedToBackground _ | backgroundChanged _ _ => "INFO"
  | forgotten _ | displaced _ | hangUpFailed _ _ | handOverFailed _ _ | modesFailed _
  | noTerminal _ => "WARN"
  | waitFailed _ => "ERROR"

/-- The words of an entry. -/
def text : LogEntry → String
  | continued group => s!"group {group} continued"
  | finished group => s!"group {group} done"
  | movedToBackground group => s!"group {group} stopped, moving to background"
  | backgroundChanged group state => s!"background group {group} is now {state.name}"
  | waitFailed failure => failure.message
  | forgotten failure => s!"{failure.message}, forgetting it"
  | displaced group => s!"group {group} is no longer tracked; it will only be reaped"
  | hangUpFailed group errno => s!"hanging up stopped group {group}: {errno.symbolic}"
  | handOverFailed group errno => s!"tcsetpgrp({group}): {errno.symbolic}"
  | modesFailed errno => s!"tcsetattr: {errno.symbolic}"
  | noTerminal errno => s!"cannot take control of the terminal: {errno.symbolic}"

end LogEntry
end JobControl
