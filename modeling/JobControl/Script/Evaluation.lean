import JobControl.Script.Commands.Directories
import JobControl.Script.Commands.Flow
import JobControl.Script.Commands.Processes
import JobControl.Script.Condition
import JobControl.Script.Printing

/-!
# Carrying out commands

## Main definitions

* `Evaluation.commands` — the commands of the language itself.
* `Evaluation.simple` — carries out a command without a structure of its own.
* `Evaluation.evaluate` — carries out any command.
-/

namespace JobControl.Evaluation

/-! ### The commands of the language -/

/-- A command that only has a status. -/
def constant (status : Nat) : ScriptCommand := fun _ _ _ => return status

/-- The command `echo`. -/
def echo : ScriptCommand := fun _ _ arguments => do
  Run.say (Printing.echo arguments)
  return 0

/-- The command `printf`. -/
def printf : ScriptCommand := fun _ _ arguments => do
  let (_, operands) ← Run.options "" arguments
  match operands with
  | [] => Run.fail "usage: printf format [arg ...]"
  | template :: rest => Printing.format template rest

/-- The command `command` without a command to carry out: says what a name stands for. -/
def commandCommand : ScriptCommand := fun _ _ arguments => do
  let (options, operands) ← Run.options "pvV" arguments
  let path := if options.any fun o => o.1 = 'p' then some Run.usualPath else none
  match options.filter (fun o => o.1 ≠ 'p'), operands with
  | [], _ | _, [] => return 0
  | (letter, _) :: others, name :: _ =>
    let letter := (others.getLast?.map (·.1)).getD letter
    let (text, status) ← Run.describe name path (letter = 'V')
    Run.say text
    return status

/-- The commands of the language itself, by name. -/
def commands : List (String × ScriptCommand) :=
  [(":", constant 0), ("true", constant 0), ("false", constant 1), ("echo", echo),
   ("printf", printf), ("test", fun _ _ arguments => ScriptCondition.command "test" arguments),
   ("[", fun _ _ arguments => ScriptCondition.command "[" arguments),
   ("command", commandCommand), ("alias", Commands.aliases), ("unalias", Commands.unalias),
   ("hash", Commands.hash), ("type", Commands.type), ("export", Commands.exportCommand),
   ("readonly", Commands.readonly), ("local", Commands.localCommand), ("unset", Commands.unset),
   ("set", Commands.set), ("shift", Commands.shift), ("getopts", Commands.getopts),
   ("read", Commands.read), ("trap", Commands.trap), ("kill", Commands.kill),
   ("wait", Commands.wait), ("jobs", Commands.jobs), ("fg", Commands.resume),
   ("bg", Commands.resume), ("umask", Commands.umask), ("ulimit", Commands.ulimit),
   ("times", Commands.times), ("cd", Commands.cd), ("chdir", Commands.cd), ("pwd", Commands.pwd),
   ("break", Commands.leaveLoops .leave), ("continue", Commands.leaveLoops .again),
   ("return", Commands.back), ("exit", Commands.exitCommand), ("eval", Commands.eval),
   (".", Commands.dot), ("exec", Commands.exec)]

/-- Carries out a command of the language; its status. -/
def perform (evaluate : Evaluator) (setting : Setting) (name : String) (arguments : List String) :
    Run Nat :=
  Run.named (some name) do
    let command := (commands.lookup name).getD (constant 127)
    let status ← command evaluate setting arguments
    let isLost := (← get).hasLostOutput
    if isLost then
      modify fun i => { i with hasLostOutput := false }
      Run.warn s!"{(← get).command.getD name}: I/O error"
    return if isLost then status ||| 1 else status

/-! ### Substitutions -/

/-- What a script writes on its standard output, without the line ends at the end. -/
def substitution (evaluate : Evaluator) : Expansion.Substitution := fun script => do
  match ← Run.call (.pipe false) with
  | .error _ => Run.fail "Pipe call failed"
  | .ok (reading, writing) =>
    let job ← Run.newJob
    Run.fork evaluate (some job) .foreground do
      let _ ← Run.call (.close reading)
      Run.move writing Fd.standardOutput
      let status ← evaluate script { isLast := true }
      Run.setStatus status
    let _ ← Run.call (.close writing)
    let output ← Run.readAll reading
    let _ ← Run.call (.close reading)
    let status ← Run.waitFor job
    modify fun i => { i with substituted := status }
    let cs := (Text.ofArray output).toList.filter (· ≠ '\x00')
    return String.ofList (cs.reverse.dropWhile (· = '\n')).reverse

/-! ### Commands without a structure of their own -/

/-- Whether a text assigns a variable. -/
def isAssignment (w : Word) : Bool := Reader.isAssignment w

/-- The fields of words until there are some, and the words after them. -/
def firstFields (expand : Word → Run (List String)) : List Word → Run (List String × List Word)
  | [] => return ([], [])
  | w :: rest => do
    match ← expand w with
    | [] => firstFields expand rest
    | fields => return (fields, rest)

/-- A command after its name and its arguments are known. -/
structure Call where
  argv : List String
  found : Found
  /-- Where programs are looked for, if that is not where they usually are. -/
  path : Option String := none
  /-- Whether the command was named by another one, so that it is not special. -/
  isIndirect : Bool := false

/-- The name of a command that carries out others. -/
def indirection : String := "command"

/-- Goes past the options of a command that carries out another; nothing if it does not. -/
def pastOptions (arguments : List String) : Option (Bool × List String) :=
  match arguments with
  | argument :: rest =>
    match argument.toList with
    | ['-', '-'] => some (false, rest)
    | '-' :: c :: cs =>
      if (c :: cs).all (· = 'p') then
        match pastOptions rest with
        | some (_, rest) => some (true, rest)
        | none => none
      else none
    | _ => some (false, arguments)
  | [] => some (false, [])

/-- What a command is that is named by others in front of it. -/
def resolve (usual : Option String) (isIndirect : Bool) : Nat → List String → Run Call
  | 0, argv => return { argv, found := .nothing .enoent }
  | n + 1, argv => do
    let found ← Run.find (argv.headD "") usual isIndirect
    let here : Call := { argv, found, path := usual, isIndirect }
    if argv.headD "" ≠ indirection then return here
    match found, pastOptions (argv.drop 1) with
    | .command _, some (isUsual, rest) =>
      if rest.isEmpty then return here
      else resolve (if isUsual then some Run.usualPath else usual) true n rest
    | _, _ => return here

/-- The expanded words of a command.  Where the command assigns variables, its arguments that are
assignments are expanded as such. -/
def arguments (substitution : Expansion.Substitution) (words : List Word) : Run (List String) := do
  let expand := Expansion.fields substitution
  let (first, rest) ← firstFields expand words
  let name := (first.find? (· ≠ indirection)).getD ""
  let assigns := ["export", "readonly", "local"].contains name
  let others ← rest.mapM fun w =>
    if assigns && isAssignment w then do
      return [← Expansion.text substitution .assigned w]
    else expand w
  return first ++ others.flatten

/-- Shows a command, if that is wanted. -/
def trace (substitution : Expansion.Substitution) (fd : Fd) (texts : List String) : Run Unit := do
  let i ← get
  if i.isOn 'x' then
    let prompt := (i.value? "PS4").getD ""
    let r := { Run.beginning prompt with line := i.line }
    let shown ← match (Reader.quotedWord false false true r.depth).run r with
      | .ok (w, _) => Expansion.text substitution .never w
      | .error _ => pure prompt
    let _ ← Run.write fd (shown ++ String.intercalate " " texts ++ "\n")

/-- Calls a function. -/
def call (evaluate : Evaluator) (setting : Setting) (body : Script) (arguments : List String) :
    Run Nat := do
  let outside ← get
  modify fun i => { i with arguments, nextArgument := 1, readLetters := none, loops := 0 }
  let outcome ← Run.attempt (evaluate body { isTested := setting.isTested })
  modify fun i => { i with
    arguments := outside.arguments, nextArgument := outside.nextArgument
    readLetters := outside.readLetters, loops := outside.loops
    skip := match i.skip with
      | .back _ => .nothing
      | skip => skip }
  let _ ← Run.resume outcome
  return (← get).status

/-- Carries out a program, in a process of its own unless nothing is left to do after it. -/
def start (evaluate : Evaluator) (setting : Setting) (c : Call) (index : Nat) : Run Nat := do
  if setting.isLast && !(← get).hasActions then Run.become c.argv c.path index
  else
    let job ← Run.newJob
    Run.fork evaluate (some job) .foreground (Run.become c.argv c.path index)
    Run.waitFor job

/-- Carries out a command that was found. -/
def carryOut (evaluate : Evaluator) (setting : Setting) (c : Call) : Run Nat := do
  match c.found with
  | .nothing e =>
    let name := c.argv.headD ""
    Run.warn s!"{name}: {Run.reason e}"
    return 127
  | .program _ index => start evaluate setting c index
  | .function body => call evaluate setting body (c.argv.drop 1)
  | .command isSpecial =>
    let isSpecial := isSpecial && !c.isIndirect
    match ← Run.attempt (perform evaluate setting (c.argv.headD "") (c.argv.drop 1)) with
    | .ok status => return status
    | .error .error =>
      if isSpecial then throw .error
      else return (← get).status
    | .error abort => throw abort

/-- Carries out a command without a structure of its own. -/
def simple (evaluate : Evaluator) (setting : Setting) (line : Nat) (assignments words : List Word)
    (redirects : List Redirect) : Run Nat := do
  modify fun i => { i with line, substituted := 0 }
  let substitution := substitution evaluate
  let argv ← arguments substitution words
  let c ← if argv.isEmpty then pure { argv, found := .command true }
    else resolve none false (argv.length + 1) argv
  let isSpecial := match c.found with
    | .command isSpecial => isSpecial && !c.isIndirect
    | _ => false
  let name := c.argv.headD ""
  let isExec := name = "exec" && isSpecial
  let redirections ← Redirect.expand substitution redirects
  let failed : Run Nat := do
    if isSpecial && !argv.isEmpty then throw .error else return 2
  let stays : Run Bool := return isExec
  let body (stderr : Fd) : Run Nat := do
    let mut shown := []
    for w in assignments do
      let text ← Expansion.text substitution .assigned w
      shown := text :: shown
      let (name, value) := Run.assigned text
      if isSpecial then
        Run.setValue name value (isExec && c.argv.length > 1)
      else Run.keep text true
    trace substitution stderr (shown.reverse ++ argv)
    if argv.isEmpty then return (← get).substituted
    let c ← match c.found with
      | .program _ _ | .nothing _ =>
        if name.toList.contains '/' || assignments.isEmpty then pure c
        else pure { c with found := ← Run.find name c.path c.isIndirect }
      | _ => pure c
    carryOut evaluate setting c
  let whole := Redirect.during evaluate substitution redirections stays failed body
  let status ← if isSpecial then whole else Run.withScope whole
  Run.setStatus status
  if argv.isEmpty || (match c.found with | .command _ | .function _ => true | _ => false) then
    Run.reap
  return status

/-! ### Processes -/

/-- Connects the ends of pipes with the standard input and output of a stage. -/
def connect (incoming : Option Fd) (outgoing : Option (Fd × Fd)) : Run Unit := do
  if let some (reading, _) := outgoing then
    let _ ← Run.call (.close reading)
  if let some fd := incoming then
    Run.move fd Fd.standardInput
  if let some (_, writing) := outgoing then
    Run.move writing Fd.standardOutput

/-- Starts the stages of a pipeline, the first with `incoming` for its input. -/
def startStages (evaluate : Evaluator) (job : Nat) (footing : Run.Footing) (setting : Setting)
    (incoming : Option Fd) : List Script → Run Unit
  | [] => pure ()
  | stage :: rest => do
    let outgoing ← if rest.isEmpty then pure none else do
      match ← Run.call (.pipe false) with
      | .ok ends => pure (some ends)
      | .error _ =>
        if let some fd := incoming then
          let _ ← Run.call (.close fd)
        Run.fail "Pipe call failed"
    Run.fork evaluate (some job) footing do
      connect incoming outgoing
      let status ← evaluate stage { setting with isLast := true }
      Run.setStatus status
    if let some fd := incoming then
      let _ ← Run.call (.close fd)
    if let some (_, writing) := outgoing then
      let _ ← Run.call (.close writing)
    startStages evaluate job footing setting (outgoing.map (·.1)) rest

/-- Carries out a pipeline; its status is that of its last stage. -/
def pipeline (evaluate : Evaluator) (setting : Setting) (inBackground : Bool)
    (stages : List Script) : Run Nat := do
  let job ← Run.newJob
  startStages evaluate job (if inBackground then .background else .foreground) setting none stages
  if inBackground then return 0 else Run.waitFor job

/-- Carries out a command in a process of its own. -/
def separate (evaluate : Evaluator) (setting : Setting) (line : Nat) (inBackground : Bool)
    (body : Script) (redirects : List Redirect) : Run Nat := do
  if line ≠ 0 then modify fun i => { i with line }
  let substitution := substitution evaluate
  let redirections ← Redirect.expand substitution redirects
  let inside (setting : Setting) : Run Unit := do
    Redirect.perform evaluate substitution redirections
    let status ← evaluate body { setting with isLast := true }
    Run.setStatus status
  if !inBackground && setting.isLast && !(← get).hasActions then
    Run.beginAnew
    inside setting
    throw .ending
  else
    let job ← Run.newJob
    let setting := if inBackground then { setting with isTested := false } else setting
    Run.fork evaluate (some job) (if inBackground then .background else .foreground)
      (inside setting)
    if inBackground then return 0 else Run.waitFor job

/-! ### Loops and choices -/

/-- How a loop goes on after a part of it. -/
inductive Turn
  | goOn
  | again
  | leave
  deriving DecidableEq

/-- Says how a loop goes on after a part of it, which may have asked to leave out the rest. -/
def turn : Run Turn := do
  match (← get).skip with
  | .nothing => return .goOn
  | .leave n =>
    modify fun i => { i with skip := if n ≤ 1 then .nothing else .leave (n - 1) }
    return .leave
  | .again n =>
    modify fun i => { i with skip := if n ≤ 1 then .nothing else .again (n - 1) }
    return if n ≤ 1 then .again else .leave
  | .back _ => return .leave

/-- Whether what is left out is the rest of a function. -/
def isBack : Run Bool := do
  match (← get).skip with
  | .back _ => return true
  | _ => return false

/-- Carries out the rounds of a loop with a test; `status` is that of the last round. -/
def rounds (evaluate : Evaluator) (setting : Setting) (untilSuccess : Bool) (test body : Script)
    (status : Nat) : Nat → Run Nat
  | 0 => return status
  | n + 1 => do
    let tested ← evaluate test { isTested := true }
    let left ← isBack
    match ← turn with
    | .leave => return if left then tested else status
    | .again => rounds evaluate setting untilSuccess test body status n
    | .goOn =>
      if (tested = 0) = untilSuccess then return status
      let status ← evaluate body setting
      match ← turn with
      | .leave => return status
      | _ => rounds evaluate setting untilSuccess test body status n

/-- Carries out the rounds of a loop over values. -/
def eachOf (evaluate : Evaluator) (setting : Setting) (name : String) (body : Script)
    (status : Nat) : List String → Run Nat
  | [] => return status
  | value :: rest => do
    Run.assign name value
    let status ← evaluate body setting
    match ← turn with
    | .leave => return status
    | _ => eachOf evaluate setting name body status rest

/-- Carries out a loop. -/
def looping (body : Run Nat) : Run Nat := do
  modify fun i => { i with loops := i.loops + 1 }
  let status ← body
  modify fun i => { i with loops := i.loops - 1 }
  return status

/-- The branch of a choice for a value; its patterns are expanded one after the other. -/
def branch? (substitution : Expansion.Substitution) (value : String) :
    List (List Word × Option Script) → Run (Option Script)
  | [] => return none
  | (words, body) :: rest => do
    let rec accepting : List Word → Run Bool
      | [] => return false
      | w :: others => do
        let pattern ← Expansion.pattern substitution w
        if pattern.accepts value.toList then return true else accepting others
    if ← accepting words then return body else branch? substitution value rest

/-! ### Any command -/

/-- Whether a failure of a command may end the script. -/
def mayEnd : Script → Bool
  | .simple _ _ _ _ | .subshell _ _ _ | .background _ _ _ | .pipeline _ _ => true
  | _ => false

/-- Carries out a command, `inside` those that are inside it; its status. -/
def step (inside : Evaluator) (script : Script) (setting : Setting) : Run Nat := do
  let substitution := substitution inside
  let tested : Setting := { isTested := setting.isTested }
  match script with
  | .simple line assignments words redirects =>
    simple inside setting line assignments words redirects
  | .pipeline inBackground stages => pipeline inside setting inBackground stages
  | .negated command => return if (← inside command { isTested := true }) = 0 then 1 else 0
  | .both first second =>
    let status ← inside first { isTested := true }
    if status ≠ 0 || (← get).skip ≠ .nothing then return status else inside second setting
  | .either first second =>
    let status ← inside first { isTested := true }
    if status = 0 || (← get).skip ≠ .nothing then return status else inside second setting
  | .sequence first second =>
    let status ← inside first tested
    if (← get).skip ≠ .nothing then return status else inside second setting
  | .redirected line body redirects =>
    modify fun i => { i with line }
    let redirections ← Redirect.expand substitution redirects
    Redirect.during inside substitution redirections (return false) (return 2) fun _ =>
      inside body tested
  | .background line body redirects => separate inside setting line true body redirects
  | .subshell line body redirects => separate inside setting line false body redirects
  | .conditional test body otherwise =>
    let status ← inside test { isTested := true }
    if (← get).skip ≠ .nothing then return status
    else if status = 0 then inside body setting
    else
      match otherwise with
      | some body => inside body setting
      | none => return 0
  | .loop untilSuccess test body =>
    looping (rounds inside tested untilSuccess test body 0 Routine.rounds)
  | .each line name words body =>
    modify fun i => { i with line }
    let fields ← words.mapM (Expansion.fields substitution)
    looping (eachOf inside tested name body 0 fields.flatten)
  | .choice line word branches =>
    modify fun i => { i with line }
    let value ← Expansion.text substitution .first word
    match ← branch? substitution value branches with
    | some body => inside body setting
    | none => return 0
  | .define _ name body =>
    modify fun i => { i with
      functions := (name, body) :: i.functions.filter fun entry => entry.1 ≠ name }
    return 0

/-- Carries out a command; its status. -/
def evaluate : Nat → Evaluator
  | 0, _, _ => return 0
  | n + 1, script, setting => do
    let inside : Evaluator := evaluate n
    if (← get).isOn 'n' then return 0
    Run.act inside
    let status ← step inside script setting
    Run.setStatus status
    Run.act inside
    if setting.isLast || ((← get).isOn 'e' && mayEnd script && !setting.isTested && status ≠ 0) then
      throw .ending
    return (← get).status

/-- How deep commands can be nested. -/
def depth : Nat := 1000000

end JobControl.Evaluation
