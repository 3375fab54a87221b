import JobControl.Script.Commands.Names

/-!
# Commands on variables

The commands of the script language that change its variables, its arguments and its options.

## Main definitions

* `Commands.export`, `Commands.readonly`, `Commands.local`, `Commands.unset` — variables.
* `Commands.set`, `Commands.shift`, `Commands.getopts` — arguments and options.
* `Commands.read` — reads a line.
-/

namespace JobControl.Commands

/-- Marks the variables that arguments name, or lists those that are marked. -/
def marking (name : String) (change : Variable → Variable) (isMarked : Variable → Bool) :
    ScriptCommand := fun _ _ arguments => do
  let (options, names) ← Run.options "p" arguments
  if options.isEmpty && !names.isEmpty then
    for text in names do
      Run.mark text change
  else Run.say ((← get).listing (name ++ " ") isMarked)
  return 0

/-- The command `export`. -/
def exportCommand : ScriptCommand :=
  marking "export" (fun v => { v with isExported := true }) (·.isExported)

/-- The command `readonly`. -/
def readonly : ScriptCommand :=
  marking "readonly" (fun v => { v with isReadOnly := true }) (·.isReadOnly)

/-- The command `local`: gives variables a value up to the end of a function. -/
def localCommand : ScriptCommand := fun _ _ arguments => do
  if (← get).scopes.isEmpty then Run.fail "not in a function"
  for text in arguments do
    Run.keep text false
  return 0

/-- The command `unset`: forgets variables or functions. -/
def unset : ScriptCommand := fun _ _ arguments => do
  let (options, names) ← Run.options "vf" arguments
  for name in names do
    if options.getLast?.any fun o => o.1 = 'f' then
      modify fun i => { i with functions := i.functions.filter fun entry => entry.1 ≠ name }
    else Run.unset name
  return 0

/-- Gives the script other arguments. -/
def setArguments (arguments : List String) : Run Unit := modify fun i =>
  { i with arguments, nextArgument := 1, readLetters := none }

/-- The command `set`: options and arguments of the script. -/
def set : ScriptCommand := fun _ _ arguments => do
  if arguments.isEmpty then
    Run.say ((← get).listing "" (·.value.isSome))
    return 0
  let remainder ← Run.setOptions false arguments
  if remainder.isReset || !remainder.rest.isEmpty then setArguments remainder.rest
  return 0

/-- The command `shift`: drops arguments of the script. -/
def shift : ScriptCommand := fun _ _ arguments => do
  let count ← match arguments with
    | [] => pure 1
    | text :: _ => Run.number text
  let i ← get
  if i.arguments.length < count then Run.fail "can't shift that many"
  setArguments (i.arguments.drop count)
  return 0

/-! ### Options of the script -/

/-- Where the reading of options stands. -/
structure OptionPlace where
  /-- The option that was read, or a sign that there is none. -/
  letter : Char
  /-- How many arguments are read, the one that is being read included. -/
  next : Nat
  /-- How many letters of it are read, if there are more. -/
  letters : Option Nat := none
  isDone : Bool := false

/-- Reads an option with its argument; `p` is what follows it in its argument. -/
def readOption (known : List Char) (arguments : List String) (letter : Char) (p : List Char)
    (next used : Nat) : Run OptionPlace := do
  let isSilent := known.head? = some ':'
  let place (letter : Char) (next : Nat) (isOpen : Bool) : OptionPlace :=
    { letter, next, letters := if isOpen then some used else none }
  let missing (usual : Char) (complaint : String) : Run Char := do
    if isSilent then
      Run.assign "OPTARG" letter.toString
      return usual
    else
      Run.complain complaint
      modify fun i => { i with bindings := i.bindings.filter fun v => v.name ≠ "OPTARG" }
      return '?'
  match Run.optionKind? known letter with
  | none =>
    let letter ← missing '?' s!"Illegal option -{letter}\n"
    return place letter next true
  | some false =>
    Run.assign "OPTARG" ""
    return place letter next true
  | some true =>
    match p, arguments[next - 1]? with
    | [], none =>
      let letter ← missing ':' s!"No arg for -{letter} option\n"
      return place letter next true
    | [], some value =>
      Run.assign "OPTARG" value
      return place letter (next + 1) false
    | p, _ =>
      Run.assign "OPTARG" (String.ofList p)
      return place letter next false

/-- The command `getopts`: reads the next option of the arguments. -/
def getopts : ScriptCommand := fun _ _ arguments => do
  match arguments with
  | known :: name :: rest =>
    let i ← get
    let all := if rest.isEmpty then i.arguments else rest
    let (next, letters) := if i.nextArgument > all.length + 1 then (1, none)
      else (i.nextArgument, i.readLetters)
    let left : List Char := match letters, all[next - 2]? with
      | some used, some text => if next ≤ 1 then [] else text.toList.drop used
      | _, _ => []
    let place ← match left, (all[next - 1]?).map (·.toList) with
      | letter :: p, _ =>
        readOption known.toList all letter p next (letters.getD 0 + 1)
      | [], some ['-', '-'] => pure { letter := '?', next := next + 1, isDone := true }
      | [], some ('-' :: letter :: p) => readOption known.toList all letter p (next + 1) 2
      | [], _ => pure { letter := '?', next, isDone := true }
    Run.assign "OPTIND" (toString place.next)
    Run.assign name place.letter.toString
    modify fun i => { i with nextArgument := place.next, readLetters := place.letters }
    return if place.isDone then 1 else 0
  | _ => Run.fail "Usage: getopts optstring var [arg]"

/-! ### Reading a line -/

/-- A character of a line; a quoted one never separates fields. -/
structure LineCharacter where
  char : Char
  quoted : Bool

/-- The characters up to the end of the line, the last one first, and whether the input ended
before.  After a backslash a character is quoted, and the end of a line is passed over, unless
`raw`. -/
def readLine (raw quoting : Bool) (before : List LineCharacter) :
    Nat → Run (List LineCharacter × Bool)
  | 0 => return (before, true)
  | n + 1 => do
    match ← Run.call (.read Fd.standardInput 1) with
    | .error e =>
      if e = .eintr then
        Run.notice
        if (← get).noticed.isEmpty then readLine raw quoting before n else return (before, true)
      else return (before, true)
    | .ok bytes =>
      match bytes.toList with
      | [] => return (before, true)
      | 0 :: _ => readLine raw quoting before n
      | b :: _ =>
        let c := Text.octet b
        if quoting then
          if c = '\n' then readLine raw false before n
          else readLine raw false (⟨c, true⟩ :: before) n
        else if c = '\\' && !raw then readLine raw true before n
        else if c = '\n' then return (before, false)
        else readLine raw false (⟨c, false⟩ :: before) n

/-- Whether a character is blank. -/
def isBlank (c : Char) : Bool := c = ' ' || c = '\t' || c = '\n'

/-- The text of characters. -/
def textOf (cs : List LineCharacter) : String := String.ofList (cs.map (·.char))

/-- How much is kept of what is left for the last variable, `count` characters of which are read:
blanks at its end are dropped, and a separator there if it is the only one.  `end?` is where the
part begins that will be dropped, and `absorbs` says whether one more separator may belong to it. -/
def lastLength (separators : List Char) (count : Nat) (isFirst absorbs : Bool) (end? : Option Nat) :
    List LineCharacter → Nat
  | [] => end?.getD count
  | c :: cs =>
    let separates := !c.quoted && separators.contains c.char
    let blank := separates && isBlank c.char
    if isFirst then
      if separates then lastLength separators (count + 1) false blank (some count) cs
      else lastLength separators (count + 1) true absorbs none cs
    else if blank then
      lastLength separators (count + 1) false absorbs (some (end?.getD count)) cs
    else
      lastLength separators (count + 1) false false (if separates && absorbs then end? else none) cs

/-- What follows a separator: blanks, and one more separator if the first one was blank. -/
def afterSeparator (separators : List Char) (absorbs : Bool) :
    List LineCharacter → List LineCharacter
  | [] => []
  | c :: cs =>
    if c.quoted || !separators.contains c.char then c :: cs
    else if isBlank c.char then afterSeparator separators absorbs cs
    else if absorbs then afterSeparator separators false cs
    else c :: cs

/-- Gives the fields of a line to some variables; the last of them takes what is left. -/
def assignFields (separators : List Char) : List String → List LineCharacter → Run Unit
  | [], _ => pure ()
  | [name], cs => Run.assign name (textOf (cs.take (lastLength separators 0 true false none cs)))
  | name :: names, cs => do
    let separates (c : LineCharacter) : Bool := !c.quoted && separators.contains c.char
    let field := cs.takeWhile fun c => !separates c
    Run.assign name (textOf field)
    match cs.drop field.length with
    | [] => assignFields separators names []
    | c :: rest => assignFields separators names (afterSeparator separators (isBlank c.char) rest)

/-- The command `read`: reads a line into variables. -/
def read : ScriptCommand := fun _ _ arguments => do
  let (options, names) ← Run.options "p:r" arguments
  if let some prompt := options.lookup 'p' then
    if ← Run.call (.isTerminal Fd.standardInput) then
      Run.complain prompt
  if names.isEmpty then Run.fail "arg count"
  let raw := options.any fun o => o.1 = 'r'
  let (characters, ended) ← readLine raw false [] Routine.rounds
  let separators := (← get).separators
  let line := characters.reverse.dropWhile fun c =>
    !c.quoted && isBlank c.char && separators.contains c.char
  for name in names do
    Run.checkName name
  assignFields separators names line
  return if ended then 1 else 0

end JobControl.Commands
