import JobControl.Script.Occasions

/-!
# The variables of a script

## Main definitions

* `Interpreter.parameter?` — the value of a parameter.
* `Interpreter.environment` — what programs inherit.
* `Run.assign`, `Run.unset`, `Run.mark` — changes of variables.
* `Run.keep`, `Run.withScope` — changes that end with a function or a command.
* `Interpreter.listing` — variables as a script lists them.
-/

namespace JobControl

/-- A text between quotation marks, so that it is read as it is. -/
def Text.quoted (text : String) : String :=
  let rec parts : Nat → List Char → List Char
    | 0, _ => []
    | n + 1, cs =>
      let plain := cs.takeWhile (· ≠ '\'')
      let rest := cs.drop plain.length
      let marks := rest.takeWhile (· = '\'')
      let rest := rest.drop marks.length
      let quotedMarks := if marks.isEmpty then [] else '"' :: marks ++ ['"']
      '\'' :: plain ++ '\'' :: quotedMarks ++ if rest.isEmpty then [] else parts n rest
  String.ofList (parts (text.length + 1) text.toList)

namespace Interpreter

/-- The letters of the options that are on, in the order in which a script prints them. -/
def optionLetters : List Char :=
  ['e', 'f', 'I', 'i', 'm', 'n', 's', 'x', 'v', 'V', 'E', 'C', 'a', 'b', 'u']

/-- The letters of the options that are on. -/
def flags (i : Interpreter) : String :=
  String.ofList ((optionLetters.filter i.isOn).reverse)

/-- The value of a parameter that is not a variable or all arguments. -/
def special? (i : Interpreter) (name : String) : Option (Option String) :=
  match name with
  | "?" => some (some (toString i.status))
  | "$" => some (some (toString i.pid))
  | "#" => some (some (toString i.arguments.length))
  | "!" => some (i.lastBackground.map toString)
  | "-" => some (some i.flags)
  | "0" => some (some i.name)
  | _ => (Occasion.digits? name).map fun n => if n = 0 then some i.name else i.arguments[n - 1]?

/-- The value of a parameter. -/
def parameter? (i : Interpreter) (name : String) : Option String :=
  match i.special? name with
  | some value => value
  | none => i.value? name

/-- The number of places among which variables are distributed, and the place of a variable. -/
def places : Nat := 39

/-- The place of a variable. -/
def place (name : String) : Nat :=
  let numbers := name.toList.map Char.toNat
  (16 * numbers.headD 0 + numbers.foldl (· + ·) 0) % places

/-- What programs inherit: the variables that are exported and have a value, place by place. -/
def environment (i : Interpreter) : List (String × String) :=
  let exported := i.bindings.filterMap fun v =>
    if v.isExported then v.value.map fun value => (v.name, value) else none
  exported.mergeSort fun a b => place a.1 ≤ place b.1

/-- Variables as a script lists them, each line after a text. -/
def listing (i : Interpreter) (before : String) (isListed : Variable → Bool) : String :=
  let listed := (i.bindings.filter isListed).mergeSort fun a b => a.name ≤ b.name
  String.join (listed.map fun v =>
    before ++ v.name ++ ((v.value.map fun value => "=" ++ Text.quoted value).getD "") ++ "\n")

/-- The characters that separate fields. -/
def separators (i : Interpreter) : List Char := ((i.value? "IFS").getD " \t\n").toList

/-- The variables with one of them changed. -/
def setVariable (i : Interpreter) (v : Variable) : Interpreter :=
  { i with bindings :=
      if (i.variableNamed? v.name).isSome then
        i.bindings.map fun other => if other.name = v.name then v else other
      else i.bindings ++ [v] }

end Interpreter

namespace Run

/-- What follows from a new value of a variable. -/
def afterAssignment (name : String) (value : Option String) : Run Unit := do
  if name = "PATH" then modify fun i => { i with found := [] }
  if name = "OPTIND" then
    let next ← match value with
      | some text => if text = "" then pure 1 else number text
      | none => pure 1
    modify fun i => { i with nextArgument := Nat.max 1 next, readLetters := none }

/-- Gives a variable a value, or takes it away. -/
def setValue (name : String) (value : Option String) (isExported : Bool) : Run Unit := do
  let i ← get
  let v := (i.variableNamed? name).getD { name, value := none }
  if v.isReadOnly then fail s!"{name}: is read only"
  modify fun i => i.setVariable { v with
    value, isExported := v.isExported || isExported || (value.isSome && i.isOn 'a') }
  afterAssignment name value

/-- Gives a variable a value. -/
def assign (name value : String) : Run Unit := setValue name (some value) false

/-- Complains unless a text can name a variable. -/
def checkName (name : String) : Run Unit := do
  unless Reader.isGoodName name do
    let start := String.ofList (name.toList.takeWhile (· ≠ '='))
    fail s!"{start}: bad variable name"

/-- Forgets a variable. -/
def unset (name : String) : Run Unit := do
  checkName name
  if ((← get).variableNamed? name).any (·.isReadOnly) then fail s!"{name}: is read only"
  modify fun i => { i with bindings := i.bindings.filter fun v => v.name ≠ name }
  afterAssignment name none

/-- The name and the value of a text that assigns a variable. -/
def assigned (text : String) : String × Option String :=
  let name := text.toList.takeWhile (· ≠ '=')
  match text.toList.drop name.length with
  | _ :: value => (String.ofList name, some (String.ofList value))
  | [] => (text, none)

/-- Has a variable exported or read only, and gives it a value if the text has one. -/
def mark (text : String) (change : Variable → Variable) : Run Unit := do
  let (name, value) := assigned text
  let known := (← get).variableNamed? name
  if value.isSome || known.isNone then
    checkName name
    setValue name value false
  modify fun i => i.setVariable (change ((i.variableNamed? name).getD { name, value := none }))

/-! ### Changes that end -/

/-- Remembers a variable for the end of the innermost scope. -/
def keepVariable (name : String) : Run Unit := modify fun i =>
  match i.scopes with
  | [] => i
  | scope :: rest => { i with scopes := (.variable name (i.variableNamed? name) :: scope) :: rest }

/-- Gives a variable a value, or only a place of its own, up to the end of the innermost scope. -/
def keep (text : String) (isExported : Bool) : Run Unit := do
  let (name, value) := assigned text
  if name = "-" && value.isNone then
    modify fun i => match i.scopes with
      | [] => i
      | scope :: rest => { i with scopes := (.options i.options :: scope) :: rest }
  else
    let known := (← get).variableNamed? name
    checkName name
    keepVariable name
    if value.isSome || known.isNone then setValue name value isExported

/-- Puts back what was remembered. -/
def restore (kept : List Kept) : Run Unit := do
  for entry in kept do
    match entry with
    | .options options => modify fun i => { i with options }
    | .variable name (some v) =>
      modify fun i => i.setVariable v
      if name = "PATH" then modify fun i => { i with found := [] }
    | .variable name none =>
      modify fun i => { i with bindings := i.bindings.filter fun v => v.name ≠ name }
      if name = "PATH" then modify fun i => { i with found := [] }

/-- Carries out something in a scope of its own. -/
def withScope {α : Type} (r : Run α) : Run α := do
  let outside := (← get).scopes
  modify fun i => { i with scopes := [] :: i.scopes }
  let outcome ← attempt r
  let kept := (← get).scopes.head?.getD []
  modify fun i => { i with scopes := outside }
  restore kept
  resume outcome

end Run
end JobControl
