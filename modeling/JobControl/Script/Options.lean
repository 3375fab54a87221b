import JobControl.Script.Variables

/-!
# Options of commands and of scripts

## Main definitions

* `Run.options` — separates the options of a command from its operands.
* `Run.setOptions` — sets the options of a script.
-/

namespace JobControl

namespace Interpreter

/-- The options of a script, each with its letter.  Two of them have letters that cannot be
written. -/
def optionNames : List (String × Char) :=
  [("errexit", 'e'), ("noglob", 'f'), ("ignoreeof", 'I'), ("interactive", 'i'), ("monitor", 'm'),
   ("noexec", 'n'), ("stdin", 's'), ("xtrace", 'x'), ("verbose", 'v'), ("vi", 'V'), ("emacs", 'E'),
   ("noclobber", 'C'), ("allexport", 'a'), ("notify", 'b'), ("nounset", 'u'), ("privileged", 'p'),
   ("nolog", '\x01'), ("debug", '\x02')]

/-- The state with an option on or off. -/
def setOption (i : Interpreter) (letter : Char) (on : Bool) : Interpreter :=
  let others := i.options.filter fun other => other ≠ letter &&
    !(on && ((letter = 'V' && other = 'E') || (letter = 'E' && other = 'V')))
  { i with options := if on then letter :: others else others }

/-- The options as a table, or as commands that set them. -/
def optionListing (i : Interpreter) (asCommands : Bool) : String :=
  if asCommands then
    String.join (optionNames.map fun (name, letter) =>
      (if i.isOn letter then "set -o " else "set +o ") ++ name ++ "\n")
  else
    "Current option settings\n" ++ String.join (optionNames.map fun (name, letter) =>
      name ++ String.ofList (List.replicate (16 - name.length) ' ') ++
        (if i.isOn letter then "on" else "off") ++ "\n")

end Interpreter

namespace Run

/-- Whether a letter is an option, and then whether it takes an argument. -/
def optionKind? (known : List Char) (letter : Char) : Option Bool :=
  match known with
  | [] => none
  | c :: ':' :: rest => if c = letter then some true else optionKind? rest letter
  | c :: rest => if c = letter then some false else optionKind? rest letter

/-- Separates the options in some letters and the arguments after them from the operands. -/
def optionsFrom (known : List Char) :
    Nat → List Char → List String → Run (List (Char × String) × List String)
  | 0, _, rest => return ([], rest)
  | n + 1, letter :: letters, rest => do
    match optionKind? known letter, letters, rest with
    | none, _, _ => fail s!"Illegal option -{letter}"
    | some false, _, _ =>
      return (← optionsFrom known n letters rest).map ((letter, "") :: ·) id
    | some true, [], [] => fail s!"No arg for -{letter} option"
    | some true, [], value :: rest =>
      return (← optionsFrom known n [] rest).map ((letter, value) :: ·) id
    | some true, letters, rest =>
      return (← optionsFrom known n [] rest).map ((letter, String.ofList letters) :: ·) id
  | n + 1, [], argument :: rest =>
    match argument.toList with
    | ['-', '-'] => return ([], rest)
    | '-' :: letter :: letters => optionsFrom known n (letter :: letters) rest
    | _ => return ([], argument :: rest)
  | _ + 1, [], [] => return ([], [])

/-- Separates the options of a command from its operands.  In `known` a colon follows the letters
that take an argument. -/
def options (known : String) (arguments : List String) :
    Run (List (Char × String) × List String) :=
  optionsFrom known.toList ((arguments.map fun a => a.length + 2).foldl (· + ·) 0 + 1) [] arguments

/-- What the options of a script leave. -/
structure Remainder where
  /-- Whether the script is among the arguments. -/
  wantsCommand : Bool := false
  /-- What follows the options. -/
  rest : List String
  /-- Whether the options end with a pair of dashes. -/
  isReset : Bool := false

/-- Sets an option that has a name, or lists all of them. -/
def setNamedOption (name : Option String) (on : Bool) : Run Unit := do
  match name with
  | none => say ((← get).optionListing (!on))
  | some name =>
    match Interpreter.optionNames.lookup name with
    | some letter => modify fun i => i.setOption letter on
    | none => fail s!"Illegal option -o {name}"

/-- Sets the options in some letters; the arguments that are left. -/
def setLetters (isStart on : Bool) (rest : List String) : List Char → Run (Bool × List String)
  | [] => return (false, rest)
  | 'o' :: letters => do
    setNamedOption rest.head? on
    setLetters isStart on (rest.drop 1) letters
  | letter :: letters => do
    if isStart && letter = 'c' then
      return (← setLetters isStart on rest letters).map (fun _ => true) id
    else if isStart && letter = 'l' then setLetters isStart on rest letters
    else if letter = 'p' || Interpreter.optionLetters.contains letter then
      modify fun i => i.setOption letter on
      setLetters isStart on rest letters
    else fail s!"Illegal option -{letter}"

/-- Sets the options of a script, at its start or later on. -/
def setOptionsFrom (isStart wantsCommand : Bool) : Nat → List String → Run Remainder
  | 0, rest => return { wantsCommand, rest }
  | _, [] => return { wantsCommand, rest := [] }
  | n + 1, argument :: rest => do
    match argument.toList with
    | ['-'] =>
      unless isStart do
        modify fun i => { i with options := i.options.filter fun c => c ≠ 'x' && c ≠ 'v' }
      return { wantsCommand, rest }
    | ['-', '-'] => return { wantsCommand, rest, isReset := true }
    | sign :: letters =>
      if sign = '-' || sign = '+' then
        let (found, rest) ← setLetters isStart (sign = '-') rest letters
        setOptionsFrom isStart (wantsCommand || found) n rest
      else return { wantsCommand, rest := argument :: rest }
    | [] => return { wantsCommand, rest := argument :: rest }

/-- Sets the options of a script, at its start or later on. -/
def setOptions (isStart : Bool) (arguments : List String) : Run Remainder :=
  setOptionsFrom isStart false (arguments.length + 1) arguments

end Run
end JobControl
