import JobControl.Errno
import JobControl.Pipeline

/-!
# Failures

Why a line is not launched, why a stage cannot be started, and why a child cannot be waited for,
with the texts shown and the status that a rejected line has.

## Main definitions

* `FileError` — why a file cannot be used.
* `LaunchError` — why a stage is not started.
* `Rejection` — why nothing of a line is started; `Rejection.status`, `Rejection.message`.
* `WaitFailure` — a child that could not be waited for.
-/

namespace JobControl

/-- The number of a process, or of the process group that it leads. -/
abbrev Pid := Nat

/-- Why a path cannot be used. -/
inductive FileError
  /-- The path holds a NUL character, so no file can have it. -/
  | nulInPath
  /-- The system refuses. -/
  | refused (errno : Errno)
  deriving DecidableEq

namespace FileError

/-- The text shown for a path that cannot be used. -/
def message : FileError → String
  | nulInPath => "file name contained an unexpected NUL byte"
  | refused errno => errno.wording

end FileError

/-- Why a stage is not started. -/
inductive LaunchError
  | fork (errno : Errno)
  | pipe (errno : Errno)
  /-- An argument of `program` holds a NUL character. -/
  | nulInArgument (program : String)
  deriving DecidableEq

namespace LaunchError

/-- The text shown for a stage that is not started. -/
def message : LaunchError → String
  | fork errno => s!"fork: {errno.symbolic}"
  | pipe errno => s!"pipe: {errno.symbolic}"
  | nulInArgument program => s!"{program}: argument contains a NUL byte"

end LaunchError

/-- Why nothing of a line is started. -/
inductive Rejection
  | malformed (error : SyntaxError)
  | programNotFound (program : String)
  | redirection (path : String) (cause : FileError)
  | launch (error : LaunchError)
  deriving DecidableEq

namespace Rejection

/-- The text shown for a rejected line. -/
def message : Rejection → String
  | malformed error => error.message
  | programNotFound program => s!"{program}: program not found"
  | redirection path cause => s!"{path}: {cause.message}"
  | launch error => error.message

/-- The status of a rejected line. -/
def status : Rejection → Int
  | malformed _ => 2
  | programNotFound _ => 127
  | redirection _ _ => 1
  | launch _ => 126

end Rejection

/-- A child that could not be waited for. -/
structure WaitFailure where
  pid : Pid
  errno : Errno
  deriving DecidableEq

namespace WaitFailure

/-- The text shown for a child that could not be waited for. -/
def message (f : WaitFailure) : String := s!"waitpid({f.pid}): {f.errno.symbolic}"

end WaitFailure
end JobControl
