import JobControl.Errno.Table

/-!
# System errors

A request to the system that fails answers with an error number.  Two vocabularies name it: the
symbol with a terse description, and the wording of the C library followed by the number.

## Main definitions

* `Errno` — an error number.
* `Errno.brief e` — the terse description.
* `Errno.symbolic e` — the symbol and the terse description.
* `Errno.wording e` — the C library's wording with the number.
-/

namespace JobControl

/-- The number that a failed request answers with. -/
structure Errno where
  number : Int
  deriving DecidableEq

namespace Errno

def eperm : Errno := ⟨1⟩
def enoent : Errno := ⟨2⟩
def esrch : Errno := ⟨3⟩
def eintr : Errno := ⟨4⟩
def eio : Errno := ⟨5⟩
def enxio : Errno := ⟨6⟩
def e2big : Errno := ⟨7⟩
def enoexec : Errno := ⟨8⟩
def ebadf : Errno := ⟨9⟩
def echild : Errno := ⟨10⟩
def eacces : Errno := ⟨13⟩
def ebusy : Errno := ⟨16⟩
def eexist : Errno := ⟨17⟩
def enotdir : Errno := ⟨20⟩
def eisdir : Errno := ⟨21⟩
def einval : Errno := ⟨22⟩
def emfile : Errno := ⟨24⟩
def enotty : Errno := ⟨25⟩
def etxtbsy : Errno := ⟨26⟩
def enospc : Errno := ⟨28⟩
def espipe : Errno := ⟨29⟩
def epipe : Errno := ⟨32⟩
def enametoolong : Errno := ⟨36⟩
def enotempty : Errno := ⟨39⟩
def eloop : Errno := ⟨40⟩

/-- What is known about the error. -/
def entry? (e : Errno) : Option ErrorEntry :=
  errorEntries.find? fun entry => entry.number = e.number

/-- The terse description. -/
def brief (e : Errno) : String :=
  match e.entry? with
  | some entry => entry.brief
  | none => "Unknown errno"

/-- The symbol and the terse description. -/
def symbolic (e : Errno) : String :=
  match e.entry? with
  | some entry => s!"{entry.symbol}: {entry.brief}"
  | none => "UnknownErrno: Unknown errno"

/-- The C library's sentence for the error. -/
def sentence (e : Errno) : String :=
  match e.entry? with
  | some entry => entry.wording
  | none => if e.number = 0 then "Success" else s!"Unknown error {e.number}"

/-- The C library's sentence with the number. -/
def wording (e : Errno) : String := s!"{e.sentence} (os error {e.number})"

end Errno
end JobControl
