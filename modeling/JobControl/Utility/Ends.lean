import JobControl.Utility.Amount
import JobControl.Utility.Operands

/-!
# The beginnings and the ends of files

## Main definitions

* `Extent` — how much of a file is meant.
* `Utility.head`, `Utility.tail` — copy the beginnings and the ends of files.
-/

namespace JobControl

/-- How much of a file is meant, and of which kind the parts are that are counted. -/
structure Extent where
  count : Nat
  inBytes : Bool := false
  /-- Whether it is counted from the other side: what is left out. -/
  isRest : Bool := false
  lineEnd : Char := '\n'

namespace Extent

/-- The place after a number of line ends, or how many of them are missing. -/
def afterLines (lineEnd : UInt8) (bytes : ByteArray) (count place : Nat) : Nat → Nat × Nat
  | 0 => (place, count)
  | n + 1 =>
    if count = 0 then (place, 0)
    else
      match bytes[place]? with
      | none => (place, count)
      | some b => afterLines lineEnd bytes (if b = lineEnd then count - 1 else count) (place + 1) n

/-- The place after the first parts of some bytes. -/
def first (e : Extent) (bytes : ByteArray) (count : Nat) : Nat :=
  if e.inBytes then Nat.min count bytes.size
  else (afterLines e.lineEnd.toNat.toUInt8 bytes count 0 (bytes.size + 1)).1

/-- The number of parts of some bytes. -/
def parts (e : Extent) (bytes : ByteArray) : Nat :=
  if e.inBytes then bytes.size
  else
    let lineEnd := e.lineEnd.toNat.toUInt8
    let ended := bytes.foldl (fun n b => if b = lineEnd then n + 1 else n) 0
    if bytes.isEmpty || bytes.get! (bytes.size - 1) = lineEnd then ended else ended + 1

/-- The place before the last parts of some bytes. -/
def last (e : Extent) (bytes : ByteArray) : Nat := e.first bytes (e.parts bytes - e.count)

end Extent

namespace Utility

open Routine

/-- The name under which an operand is announced. -/
def inputName (operand : String) : String := if operand = "-" then "standard input" else operand

/-- The line that announces a file. -/
def announcement (isFirst : Bool) (operand : String) : String :=
  (if isFirst then "" else "\n") ++ s!"==> {inputName operand} <==\n"

/-- Does something with each file, announced if it is to be; one if something fails. -/
def eachAnnounced (name : String) (isAnnounced : Bool) (body : String → Fd → Printer Nat)
    (isFirst : Bool) (status : Nat) : List String → Printer Nat
  | [] => return status
  | operand :: rest => do
    let result ← withInput operand fun fd => do
      if isAnnounced then Printer.put (announcement isFirst operand)
      body operand fd
    match result with
    | .ok outcome => eachAnnounced name isAnnounced body false (Nat.max status outcome) rest
    | .error e =>
      Printer.complain
        s!"{name}: cannot open {Quoting.always operand} for reading: {e.sentence}\n"
      eachAnnounced name isAnnounced body isFirst 1 rest

/-- Complains that a file cannot be read. -/
def unread (name operand : String) (e : Errno) : Printer Nat := do
  Printer.complain s!"{name}: error reading {Quoting.always (inputName operand)}: {e.sentence}\n"
  return 1

/-- The status of what may have failed to read a file. -/
def readStatus (name operand : String) (failure : Option Errno) : Printer Nat :=
  match failure with
  | none => return 0
  | some e => unread name operand e

/-- Whether files are announced: if there are several, unless options ask for something else. -/
def announces (found : Options.Found) : Bool :=
  match found.last? ["q", "v"] with
  | some option => option = "v"
  | none => 1 < found.operands.length

/-- What is wrong with an amount of bytes or lines. -/
def amountProblem (inBytes : Bool) : String :=
  "invalid number of " ++ if inBytes then "bytes" else "lines"

/-! ### Beginnings -/

/-- Copies the first bytes of a file. -/
def firstBytes (fd : Fd) (count : Nat) : Nat → Printer (Option Errno)
  | 0 => return none
  | n + 1 => do
    if count = 0 then return none
    match ← Printer.call (.read fd (Nat.min count 8192)) with
    | .error e => return some e
    | .ok bytes =>
      if bytes.isEmpty then return none
      else
        Printer.putBytes bytes
        firstBytes fd (count - bytes.size) n

/-- Copies the first lines of a file; what was read too much is left to be read again. -/
def firstLines (fd : Fd) (lineEnd : UInt8) (count : Nat) : Nat → Printer (Option Errno)
  | 0 => return none
  | n + 1 => do
    if count = 0 then return none
    match ← Printer.call (.read fd 8192) with
    | .error e => return some e
    | .ok bytes =>
      if bytes.isEmpty then return none
      else
        let (place, missing) := Extent.afterLines lineEnd bytes count 0 (bytes.size + 1)
        Printer.putBytes (bytes.extract 0 place)
        if missing = 0 then
          let _ ← Printer.call (.seekBack fd (bytes.size - place))
        firstLines fd lineEnd missing n

/-- Copies a file without its last parts. -/
def allButLast (fd : Fd) (e : Extent) : Printer (Option Errno) := do
  match ← Printer.lift (readAll fd) with
  | .error e => return some e
  | .ok bytes =>
    let place := e.last bytes
    Printer.putBytes (bytes.extract 0 place)
    let _ ← Printer.call (.seekBack fd (bytes.size - place))
    return none

/-- Copies the beginning of a file. -/
def beginning (fd : Fd) (e : Extent) : Printer (Option Errno) :=
  if e.isRest then allButLast fd e
  else if e.inBytes then firstBytes fd e.count rounds
  else firstLines fd e.lineEnd.toNat.toUInt8 e.count rounds

/-- An argument that is a number of lines with letters, as options. -/
def headNumber? (argument : String) : Option (List String) :=
  match argument.toList with
  | '-' :: d :: cs =>
    if d.isDigit then
      let digits := (d :: cs).takeWhile Char.isDigit
      let letters := (d :: cs).drop digits.length
      let inBytes := letters.any "cbkm".toList.contains
      let unit := (letters.filter "bkm".toList.contains).map Char.toString
      let others := (letters.filter "qvz".toList.contains).map fun c => s!"-{c}"
      let option := (if inBytes then "-c" else "-n") ++ String.ofList digits ++ String.join unit
      some (option :: others)
    else none
  | _ => none

/-- The options of `head`. -/
def headOptions : Options where
  letters := "c:n:qvz0123456789"
  names := [("bytes", "c", .required), ("lines", "n", .required), ("quiet", "q", .nothing),
    ("silent", "q", .nothing), ("verbose", "v", .nothing), ("zero-terminated", "z", .nothing)]

/-- The amount that an option asks for, and whether a sign comes before it. -/
def amountOf (rest kept text : String) : Bool × String :=
  let isRest := text.startsWith rest
  (isRest, if isRest || text.startsWith kept then (text.drop 1).toString else text)

/-- What is wrong with the amount that an option asks for; `rest` and `kept` are the signs that may
come before it, `kept` as a part of it. -/
def checkAmount (name rest kept option text : String) : Option (Routine Nat) :=
  if option = "c" || option = "n" then
    let (_, amount) := amountOf rest kept text
    match Amount.ofText amount with
    | .ok _ => none
    | .error problem => some (Amount.complain name (amountProblem (option = "c")) amount problem)
  else none

/-- The extent that options ask for; the last one counts. -/
def extentOf (rest kept : String) (found : Options.Found) : Extent :=
  let lineEnd := if found.has "z" then '\x00' else '\n'
  let last := found.chosen.reverse.find? fun entry => entry.1 = "c" || entry.1 = "n"
  match last with
  | none => { count := 10, lineEnd }
  | some (option, text) =>
    let (isRest, amount) := amountOf rest kept text
    { count := (Amount.ofText amount).toOption.getD 0, inBytes := option = "c", isRest, lineEnd }

/-- Copies the beginnings of files. -/
def head : Utility := fun name arguments =>
  let arguments := match arguments with
    | first :: rest => ((headNumber? first).getD [first]) ++ rest
    | [] => []
  let check (option text : String) : Option (Routine Nat) :=
    if option.toList.all Char.isDigit then
      some (misuse name s!"invalid trailing option -- {option}")
    else checkAmount name "-" "-" option text
  withValues headOptions 1 check name arguments fun found =>
    printing name 1 do
      let extent := extentOf "-" "-" found
      let body (operand : String) (fd : Fd) : Printer Nat := do
        readStatus name operand (← beginning fd extent)
      let operands := inputs found.operands
      let status ← eachAnnounced name (announces found) body true 0 operands
      Printer.lift (closingInput name "-" 1 operands status)

/-! ### Ends -/

/-- Copies what comes after the first parts of a file. -/
def afterFirst (fd : Fd) (e : Extent) : Printer (Option Errno) := do
  let step (missing : Nat) (bytes : ByteArray) : Printer (Nat × Bool) := do
    let (place, missing) :=
      if e.inBytes then (Nat.min missing bytes.size, missing - bytes.size)
      else Extent.afterLines e.lineEnd.toNat.toUInt8 bytes missing 0 (bytes.size + 1)
    Printer.putBytes (bytes.extract place bytes.size)
    return (missing, true)
  return (← eachPart fd chunk step (e.count - 1) rounds).2

/-- Copies the end of a file. -/
def ending (fd : Fd) (e : Extent) : Printer (Option Errno) := do
  if e.isRest then afterFirst fd e
  else
    match ← Printer.lift (readAll fd) with
    | .error e => return some e
    | .ok bytes =>
      Printer.putBytes (bytes.extract (e.last bytes) bytes.size)
      return none

/-- How long is waited before a file is looked at again, in microseconds. -/
def pause : Nat := 1000000

/-- Copies what is added to a file, for ever. -/
def follow (fd : Fd) : Nat → Printer Nat
  | 0 => return 0
  | n + 1 => do
    match ← Printer.lift (readAll fd) with
    | .ok bytes => Printer.putBytes bytes
    | .error _ => pure ()
    let _ ← Printer.flush
    Printer.call (.sleepUntil ((← Printer.call .now) + pause))
    follow fd n

/-- An argument that is a number of parts in the old way, as options. -/
def tailNumber? (argument : String) : Option (List String) :=
  match argument.toList with
  | sign :: cs =>
    let digits := cs.takeWhile Char.isDigit
    let rest := cs.drop digits.length
    let unit := rest.takeWhile "bcl".toList.contains
    let follows := rest.drop unit.length
    if (sign = '+' || (sign = '-' && !digits.isEmpty)) && unit.length ≤ 1 &&
        (follows = [] || follows = ['f']) then
      let count := if digits.isEmpty then "10" else String.ofList digits
      let plus := if sign = '+' then "+" else ""
      let option := match unit with
        | ['c'] => s!"-c{plus}{count}"
        | ['b'] => s!"-c{plus}{count}b"
        | _ => s!"-n{plus}{count}"
      some (option :: follows.map fun _ => "-f")
    else none
  | [] => none

/-- The arguments of `tail` with a number in the old way, if there are few enough of them, as
options. -/
def tailArguments (arguments : List String) : List String :=
  match arguments with
  | first :: rest =>
    let isOld := match rest with
      | [] => true
      | [other] => !(other.startsWith "-" && other ≠ "-")
      | dashes :: others => dashes = "--" && others.length ≤ 1
    match tailNumber? first with
    | some options => if isOld then options ++ rest else arguments
    | none => arguments
  | [] => []

/-- The options of `tail`. -/
def tailOptions : Options where
  letters := "c:n:fFqs:vz0123456789"
  names := [("bytes", "c", .required), ("lines", "n", .required), ("follow", "f", .optional),
    ("quiet", "q", .nothing), ("silent", "q", .nothing), ("verbose", "v", .nothing),
    ("zero-terminated", "z", .nothing), ("sleep-interval", "s", .required),
    ("retry", "retry", .nothing), ("pid", "pid", .required)]

/-- Copies the ends of files. -/
def tail : Utility := fun name arguments =>
  let misplaced (digit : String) : Routine Nat := do
    complain s!"{name}: option used in invalid context -- {digit}\n"
    return 1
  let check (option text : String) : Option (Routine Nat) :=
    if option.toList.all Char.isDigit then some (misplaced option)
    else checkAmount name "+" "-" option text
  withValues tailOptions 1 check name (tailArguments arguments) fun found =>
    printing name 1 do
      let extent := extentOf "+" "-" found
      let follows := found.has "f" || found.has "F"
      if extent.count = 0 && !extent.isRest && !follows then return 0
      let body (operand : String) (fd : Fd) : Printer Nat := do
        if let .error e ← Printer.call (.fileMetadata fd) then
          Printer.complain
            s!"{name}: cannot fstat {Quoting.always (inputName operand)}: {e.sentence}\n"
          return 1
        let status ← readStatus name operand (← ending fd extent)
        if follows && status = 0 then follow fd rounds else return status
      let operands := inputs found.operands
      let status ← eachAnnounced name (announces found) body true 0 operands
      Printer.lift (closingInput name "-" 1 operands status)

end Utility
end JobControl
