import JobControl.Machine.Task
import JobControl.Script.Parser

/-!
# The state of a script

What a script remembers while it runs: its arguments, its variables, its options, the processes that
it started and what it does when signals arrive.

## Main definitions

* `Interpreter` — the state.
* `Run α` — a part of a script that yields a value, or gives up.
* `Evaluator` — how a command inside another is carried out.
* `Run.notice` — takes note of the signals caught.
* `Run.say`, `Run.warn`, `Run.fail` — what a script prints.
* `Run.attempt` — carrying out something that may give up.
-/

namespace JobControl

/-- When an action of a script is carried out. -/
inductive Occasion
  /-- When the script ends. -/
  | leaving
  | signal (signal : Signal)
  deriving DecidableEq

namespace Occasion

/-- The number that stands for an occasion. -/
def number : Occasion → Nat
  | leaving => 0
  | signal s => s.number

end Occasion

/-- A variable of a script. -/
structure Variable where
  name : String
  /-- Its value, if it has one. -/
  value : Option String
  /-- Whether programs inherit it. -/
  isExported : Bool := false
  isReadOnly : Bool := false

/-- A process that a script started, with its end if that is known. -/
structure JobMember where
  pid : Pid
  status : Option WaitStatus := none

/-- The processes that a script started together. -/
structure ScriptJob where
  number : Nat
  members : List JobMember := []
  /-- Whether its end is known to whoever asked for it. -/
  isWaited : Bool := false

namespace ScriptJob

/-- Whether all processes have ended. -/
def isDone (j : ScriptJob) : Bool := j.members.all (·.status.isSome)

end ScriptJob

/-- What commands leave out that would be carried out next. -/
inductive Skip
  | nothing
  /-- The rest of some loops. -/
  | leave (loops : Nat)
  /-- The rest of this round of a loop, and of the loops inside it. -/
  | again (loops : Nat)
  /-- The rest of a function or of a file; `withStatus` if that was asked for with a status. -/
  | back (withStatus : Bool)
  deriving DecidableEq

/-- Why a script gives up what it does. -/
inductive Abort
  /-- Something was wrong, and the script has said so. -/
  | error
  /-- Nothing is left to do. -/
  | ending
  /-- The script asked to be left. -/
  | leaving
  deriving DecidableEq

/-- What a script remembers of a variable, or of its options, for the time after a function. -/
inductive Kept
  | variable (name : String) (before : Option Variable)
  | options (before : List Char)

/-- Where a script found a program. -/
structure FoundProgram where
  name : String
  path : String
  /-- The place of its directory among those in which programs are looked for. -/
  index : Nat
  /-- Whether it may be somewhere else by now. -/
  isStale : Bool := false

/-- What a script remembers. -/
structure Interpreter where
  /-- The name of the script. -/
  name : String
  /-- The command that is carried out, as complaints name it. -/
  command : Option String := none
  /-- The line of the command that is carried out. -/
  line : Nat := 0
  arguments : List String := []
  /-- The argument whose options are read next, and how many letters of the one before are read. -/
  nextArgument : Nat := 1
  readLetters : Option Nat := none
  /-- The variables, the oldest first. -/
  bindings : List Variable := []
  functions : List (String × Script) := []
  aliases : List (String × String) := []
  documents : List (Nat × Document) := []
  /-- The letters of the options that are on. -/
  options : List Char := []
  /-- What functions and commands put back when they end, the innermost first. -/
  scopes : List (List Kept) := []
  actions : List (Occasion × String) := []
  /-- The signals whose handling the script has settled, and whether they stay ignored. -/
  settled : List (Signal × Bool) := []
  /-- Whether a child has changed since children were asked for last. -/
  hasNews : Bool := false
  /-- Whether this is the process that the script began in. -/
  isMain : Bool := true
  /-- Whether the script comes from the standard input. -/
  isFromInput : Bool := false
  /-- The descriptor that the script is read from, if it is not the standard input. -/
  source : Option Fd := none
  /-- The signals caught for which nothing has been done yet. -/
  noticed : List Signal := []
  /-- Whether something could not be printed. -/
  hasLostOutput : Bool := false
  status : Nat := 0
  /-- The status before an action began. -/
  outerStatus : Option Nat := none
  /-- The status of the last command whose output took the place of a word. -/
  substituted : Nat := 0
  skip : Skip := .nothing
  /-- The number of loops that are carried out. -/
  loops : Nat := 0
  pid : Pid := 0
  lastBackground : Option Pid := none
  /-- The jobs, the latest first. -/
  jobs : List ScriptJob := []
  /-- Where programs were found, the first one first. -/
  found : List FoundProgram := []
  /-- The working directory as the script got there. -/
  directory : String := ""

/-- A part of a script that yields a value, or gives up. -/
abbrev Run := ExceptT Abort (StateT Interpreter Routine)

/-- In which circumstances a command is carried out. -/
structure Setting where
  /-- Whether nothing is left to do after it. -/
  isLast : Bool := false
  /-- Whether its failure is looked at, and is of no further consequence. -/
  isTested : Bool := false

/-- How a command is carried out; its status. -/
abbrev Evaluator := Script → Setting → Run Nat

namespace Interpreter

/-- Whether an option is on. -/
def isOn (i : Interpreter) (letter : Char) : Bool := i.options.contains letter

/-- A variable. -/
def variableNamed? (i : Interpreter) (name : String) : Option Variable :=
  i.bindings.find? fun v => v.name = name

/-- The value of a variable. -/
def value? (i : Interpreter) (name : String) : Option String :=
  (i.variableNamed? name).bind (·.value)

/-- What is done on an occasion. -/
def action? (i : Interpreter) (occasion : Occasion) : Option String := i.actions.lookup occasion

/-- Whether anything is to be done on some occasion. -/
def hasActions (i : Interpreter) : Bool := i.actions.any fun entry => entry.2 ≠ ""

end Interpreter

namespace Run

/-- Carries out a routine. -/
def lift {α : Type} (r : Routine α) : Run α := ExceptT.lift (StateT.lift r)

/-- Makes a request. -/
def call (request : SystemCall) : Run request.Answer := lift (Routine.call request)

/-- Carries out something that may give up. -/
def attempt {α : Type} (r : Run α) : Run (Except Abort α) := ExceptT.mk do
  return .ok (← r.run)

/-- Gives up as something else did, or has its value. -/
def resume {α : Type} (outcome : Except Abort α) : Run α := ExceptT.mk (pure outcome)

/-- Sets the status of the last command. -/
def setStatus (status : Nat) : Run Unit := modify fun i => { i with status }

/-- Ends the process by an interrupt. -/
def interrupt : Run Unit := do
  let _ ← call (.setHandling .int .default)
  let pid := (← call .identity).pid
  let _ ← call (.signal (.process pid) (some .int))

/-- Takes note of the signals caught; an interrupt for which nothing is arranged ends the script. -/
def notice : Run Unit := do
  let caught ← call .takeSignals
  unless caught.isEmpty do
    modify fun i => { i with
      hasNews := i.hasNews || caught.contains .chld
      noticed := i.noticed ++ caught.filter fun s =>
        !i.noticed.contains s && (s ≠ .chld || (i.action? (.signal s)).isSome) }
    if caught.contains .int && ((← get).action? (.signal .int)).isNone then interrupt

/-! ### Printing -/

/-- Writes bytes, even if signals come in between; whether that succeeds. -/
def writeFrom (fd : Fd) (bytes : ByteArray) : Nat → Run Bool
  | 0 => return false
  | n + 1 => do
    if bytes.isEmpty then return true
    match ← call (.write fd bytes) with
    | .ok count => writeFrom fd (bytes.extract count bytes.size) n
    | .error e =>
      if e = .eintr then
        notice
        writeFrom fd bytes n
      else return false

/-- Writes octets on a descriptor; whether that succeeds. -/
def write (fd : Fd) (octets : String) : Run Bool :=
  writeFrom fd (Text.octetArray octets) Routine.rounds

/-- Prints octets on standard output. -/
def say (octets : String) : Run Unit := do
  unless ← write Fd.standardOutput octets do
    modify fun i => { i with hasLostOutput := true }

/-- Prints octets on standard error. -/
def complain (octets : String) : Run Unit := do
  let _ ← write Fd.standardError octets

/-- Reads to the end, after what has been read, even if signals come in between. -/
def readFrom (fd : Fd) (before : ByteArray) : Nat → Run ByteArray
  | 0 => return before
  | n + 1 => do
    match ← call (.read fd Routine.chunk) with
    | .ok bytes => if bytes.isEmpty then return before else readFrom fd (before ++ bytes) n
    | .error e =>
      if e = .eintr then
        notice
        readFrom fd before n
      else return before

/-- Reads to the end. -/
def readAll (fd : Fd) : Run ByteArray := readFrom fd ByteArray.empty Routine.rounds

/-! ### Complaints -/

/-- Complains in the name of the script and of the command that is carried out. -/
def warn (problem : String) : Run Unit := do
  let i ← get
  let command := (i.command.map (· ++ ": ")).getD ""
  complain s!"{i.name}: {i.line}: {command}{problem}\n"

/-- Complains and gives up. -/
def fail {α : Type} (problem : String) : Run α := do
  setStatus 2
  warn problem
  throw .error

/-- The command named in complaints, for the time of something that may give up. -/
def named {α : Type} (command : Option String) (r : Run α) : Run α := do
  let outside := (← get).command
  modify fun i => { i with command }
  let outcome ← attempt r
  modify fun i => { i with command := outside }
  resume outcome

/-- The number that digits stand for; anything else is wrong. -/
def number (text : String) : Run Nat := do
  let wrong : Run Nat := fail s!"Illegal number: {text}"
  if text.toList.isEmpty || !text.toList.all Char.isDigit then wrong
  else
    let n := text.toNat!
    if n < 2147483648 then return n else wrong

end Run
end JobControl
