import JobControl.Machine.Information
import JobControl.Script.Commands.Variables
import JobControl.Text.Permissions

/-!
# Commands on processes

The commands of the script language about the processes that it starts, about signals and about what
processes are allowed.

## Main definitions

* `Commands.trap`, `Commands.kill` — signals.
* `Commands.wait`, `Commands.jobs`, `Commands.resume` — jobs.
* `Commands.umask`, `Commands.ulimit`, `Commands.times` — what a process may do and has done.
-/

namespace JobControl.Commands

/-! ### Signals -/

/-- Arranges an action for some occasions. -/
def arrangeAll (action : Option String) : List String → Run Nat
  | [] => return 0
  | text :: rest => do
    match Occasion.ofText? text with
    | none =>
      Run.complain s!"trap: {text}: bad trap\n"
      return 1
    | some occasion =>
      let action := if action = some "-" then none else action
      Run.arrange occasion action
      arrangeAll action rest

/-- The command `trap`: lists the actions for signals, or arranges one. -/
def trap : ScriptCommand := fun _ _ arguments => do
  let (_, operands) ← Run.options "" arguments
  match operands with
  | [] =>
    let i ← get
    let listed := i.actions.mergeSort fun a b => a.1.number ≤ b.1.number
    Run.say (String.join (listed.map fun (occasion, action) =>
      s!"trap -- {Text.quoted action} {occasion.name}\n"))
    return 0
  | [occasion] => arrangeAll none [occasion]
  | action :: occasions =>
    if (Occasion.digits? action).isSome then arrangeAll none operands
    else arrangeAll (some action) occasions

/-- How `kill` is used. -/
def killUsage : String :=
  "Usage: kill [-s sigspec | -signum | -sigspec] [pid | job]... or\nkill -l [exitstatus]"

/-- The signal that a text stands for, or no signal that is only asked for. -/
def signal? (text : String) : Option (Option Signal) :=
  match Occasion.ofText? text with
  | some (.signal s) => some (some s)
  | some .leaving => if (Occasion.digits? text).isSome then some none else none
  | none => none

/-- The job that a text with a percent sign stands for. -/
def job (text : Option String) : Run ScriptJob := do
  let i ← get
  let shown := text.getD ""
  let missing : Run ScriptJob := Run.fail s!"No such job: {shown}"
  let orMissing (found : Option ScriptJob) (problem : String) : Run ScriptJob :=
    match found with
    | some j => return j
    | none => Run.fail problem
  match (text.getD "%").toList with
  | ['%'] | ['%', '%'] | ['%', '+'] => orMissing i.jobs.head? "No current job"
  | ['%', '-'] => orMissing i.jobs[1]? "No previous job"
  | '%' :: rest =>
    match Occasion.digits? (String.ofList rest) with
    | some n => orMissing (i.jobs.find? fun j => j.number = n) s!"No such job: {shown}"
    | none => missing
  | _ => missing

/-- Whom a signal is sent to. -/
def recipient (text : String) : Run Recipient := do
  match text.toList with
  | '%' :: _ =>
    let j ← job (some text)
    return .group ((j.members.head?.map (·.pid)).getD 0)
  | '-' :: digits => return .group (← Run.number (String.ofList digits))
  | _ =>
    let n ← Run.number text
    return if n = 0 then .ownGroup else .process n

/-- Sends a signal to processes and groups. -/
def sendTo (signal : Option Signal) (targets : List String) : Run Nat := do
  let mut status := 0
  for target in targets do
    if let .error e ← Run.call (.signal (← recipient target) signal) then
      Run.warn s!"{e.sentence}\n"
      status := 1
  return status

/-- Lists the names of all signals, or of the one that a status stands for. -/
def listSignals : List String → Run Nat
  | [] => do
    Run.say ("0\n" ++ String.join ((Occasion.all.drop 1).map fun occasion => occasion.name ++ "\n"))
    return 0
  | text :: _ => do
    let n ← Run.number text
    let n := if n > 128 then n - 128 else n
    match if n = 0 then none else Occasion.ofNumber? n with
    | some occasion =>
      Run.say (occasion.name ++ "\n")
      return 0
    | none => Run.fail s!"invalid signal number or exit status: {text}"

/-- The command `kill`: sends a signal to processes. -/
def kill : ScriptCommand := fun _ _ arguments => do
  let send (signal : Option Signal) (targets : List String) : Run Nat :=
    if targets.isEmpty then Run.fail killUsage else sendTo signal targets
  match arguments with
  | [] => Run.fail killUsage
  | first :: rest =>
    match first.toList with
    | '-' :: name =>
      match signal? (String.ofList name) with
      | some signal => send signal rest
      | none =>
        let (options, targets) ← Run.options "ls:" arguments
        let mut signal := none
        for (letter, value) in options do
          if letter = 's' then
            match signal? value with
            | some found => signal := some found
            | none => Run.fail s!"invalid signal number or name: {value}"
        let isList := options.any fun o => o.1 = 'l'
        if isList && signal.isNone then listSignals targets
        else if isList then Run.fail killUsage
        else send (signal.getD (some .term)) targets
    | _ => send (some .term) arguments

/-! ### Jobs -/

/-- Waits until no job runs any more; whether no signal came in between. -/
def waitAll : Nat → Run Bool
  | 0 => return true
  | n + 1 => do
    let i ← get
    match i.jobs.find? fun j => !j.isDone with
    | none =>
      modify fun i => { i with jobs := i.jobs.map fun j => { j with isWaited := true } }
      return true
    | some _ => if ← Run.await none then waitAll n else return false

/-- The status of a wait that a signal ended. -/
def interrupted : Run Nat := do
  let signal := (← get).noticed.getLast?
  return 128 + (signal.map (·.number)).getD 0

/-- Waits for the jobs that texts stand for. -/
def waitEach (status : Nat) : List String → Run Nat
  | [] => return status
  | text :: rest => do
    let found ← if text.startsWith "%" then some <$> job (some text)
      else do
        let pid ← Run.number text
        pure ((← get).jobs.find? fun j => (j.members.getLast?.map (·.pid)) = some pid)
    match found with
    | none => waitEach status rest
    | some j =>
      if ← Run.await (some j.number) then
        Run.updateJob j.number fun j => { j with isWaited := true }
        waitEach (((← Run.job? j.number).map (·.status)).getD 0) rest
      else interrupted

/-- The command `wait`: waits for jobs, or for all of them. -/
def wait : ScriptCommand := fun _ _ arguments => do
  let (_, jobs) ← Run.options "" arguments
  if jobs.isEmpty then
    if ← waitAll Routine.rounds then return 0 else interrupted
  else waitEach 127 jobs

/-- The line about a job in a list; one that has ended is forgotten with it. -/
def listed (option : Option Char) (j : ScriptJob) : Run String := do
  let jobs := (← get).jobs
  let mark : Char :=
    if jobs.head?.any fun k => k.number = j.number then '+'
    else if jobs[1]?.any fun k => k.number = j.number then '-' else ' '
  if option = some 'p' then
    let first := (j.members.head?.map (·.pid)).getD 0
    return s!"{first}\n"
  else
    if j.isDone then Run.forgetJob j.number
    return j.description mark (option = some 'l')

/-- The command `jobs`: lists jobs. -/
def jobs : ScriptCommand := fun _ _ arguments => do
  let (options, operands) ← Run.options "lp" arguments
  Run.reap
  let option := options.getLast?.map (·.1)
  let lines ← if operands.isEmpty then (← get).jobs.mapM (listed option)
    else operands.mapM fun operand => do listed option (← job (some operand))
  Run.say (String.join lines)
  return 0

/-- The commands `fg` and `bg`, for which a script has no jobs of its own. -/
def resume : ScriptCommand := fun _ _ arguments => do
  let (_, operands) ← Run.options "" arguments
  let _ ← job operands.head?
  let shown := operands.headD "(null)"
  Run.fail s!"job {shown} not created under job control"

/-! ### Permissions and bounds -/

/-- The permissions that a mask leaves, as letters. -/
def symbolic (mask : Nat) : String :=
  let letters (user : Char) : String :=
    let bits := 7 - (mask >>> Text.Clause.shift user) % 8
    let shown := [('r', 4), ('w', 2), ('x', 1)].filter fun (_, bit) => bits &&& bit ≠ 0
    s!"{user}={String.ofList (shown.map (·.1))}"
  String.intercalate "," (['u', 'g', 'o'].map letters)

/-- The command `umask`: shows or sets the permissions that new files do not get. -/
def umask : ScriptCommand := fun _ _ arguments => do
  let (options, operands) ← Run.options "S" arguments
  let mask ← Run.call (.mask none)
  match operands with
  | [] =>
    Run.say ((if options.isEmpty then Machine.octal 4 mask else symbolic mask) ++ "\n")
    return 0
  | text :: _ =>
    if text = "" then return 0
    else if text.toList.head?.any Char.isDigit then
      if !text.toList.all fun c => '0' ≤ c && c ≤ '7' then Run.fail s!"Illegal number: {text}"
      let _ ← Run.call (.mask (some (Text.value 8 text.toList % 512)))
      return 0
    else
      match Text.clauses? "rwxXs" false text with
      | none => Run.fail s!"Illegal mode: {text}"
      | some clauses =>
        let allowed := clauses.foldl (Text.Clause.apply false 0) (0o777 - mask)
        let _ ← Run.call (.mask (some (0o777 - allowed % 512)))
        return 0

/-- The bounds that are known, each with its letter, what it is called and its value. -/
def limits : List (Char × String × String) :=
  [('t', "time(seconds)", "unlimited"), ('f', "file(blocks)", "unlimited"),
   ('d', "data(kbytes)", "unlimited"), ('s', "stack(kbytes)", "8192"),
   ('c', "coredump(blocks)", "0"),
   ('m', "memory(kbytes)", "unlimited"), ('l', "locked memory(kbytes)", "8192"),
   ('p', "process", "unlimited"), ('n', "nofiles", ""), ('v', "vmemory(kbytes)", "unlimited"),
   ('w', "locks", "unlimited"), ('r', "rtprio", "0")]

/-- Sets the bound on descriptors. -/
def setLimit (isFiles : Bool) (text : String) : Run Nat := do
  let refused : Run Nat := Run.fail s!"error setting limit ({Errno.eperm.sentence})"
  if text = "unlimited" then if isFiles then refused else return 0
  else
    match Occasion.digits? text with
    | none => if text = "" then setTo 0 else Run.fail "bad number"
    | some n => setTo n
where
  /-- Sets the bound to a number, which cannot be greater than before. -/
  setTo (n : Nat) : Run Nat := do
    if !isFiles then return 0
    if (← Run.call (.limit none)) < n then
      Run.fail s!"error setting limit ({Errno.eperm.sentence})"
    else
      let _ ← Run.call (.limit (some n))
      return 0

/-- The command `ulimit`: shows bounds, or sets the one on descriptors. -/
def ulimit : ScriptCommand := fun _ _ arguments => do
  let (options, operands) ← Run.options "HSatfdscmlpnvwr" arguments
  let files ← Run.call (.limit none)
  let value (letter : Char) (text : String) : String :=
    if letter = 'n' then toString files else text
  let isAll := options.any fun o => o.1 = 'a'
  let letter :=
    ((options.map (·.1)).filter fun c => !(['H', 'S', 'a'].contains c)).getLast?.getD 'f'
  match operands with
  | [] =>
    if isAll then
      Run.say (String.join (limits.map fun (letter, name, text) =>
        name ++ String.ofList (List.replicate (20 - name.length) ' ') ++ " " ++
          value letter text ++ "\n"))
    else
      Run.say (value letter (((limits.lookup letter).map (·.2)).getD "unlimited") ++ "\n")
    return 0
  | text :: rest =>
    if isAll || !rest.isEmpty then Run.fail "too many arguments"
    else setLimit (letter = 'n') text

/-- The command `times`: the time that the script and its children have used, which is hardly
any. -/
def times : ScriptCommand := fun _ _ _ => do
  Run.say "0m0.000000s 0m0.000000s\n0m0.000000s 0m0.000000s\n"
  return 0

end JobControl.Commands
