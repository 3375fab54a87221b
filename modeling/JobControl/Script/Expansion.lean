import JobControl.Script.Arithmetic
import JobControl.Script.Pattern
import JobControl.Script.Variables

/-!
# From words to fields

The substitutions of a word are carried out, the results are split into fields, and fields that are
patterns become the names of files.

## Main definitions

* `Atom` — a part of an expanded word.
* `Expansion.word` — carries out the substitutions of a word.
* `Expansion.split` — the fields of some atoms.
* `Expansion.names` — the names of files that have the form of a field.
* `Expansion.fields`, `Expansion.text`, `Expansion.pattern` — a word as fields, as a text, as a
  pattern.
-/

namespace JobControl

/-- A part of an expanded word. -/
inductive Atom
  /-- A character; a quoted one stands for itself, and where it may the character separates
  fields. -/
  | char (c : Char) (quoted splits : Bool)
  /-- A quotation mark: even if nothing is quoted, there is something. -/
  | mark
  /-- Here begins a result; `keepsLast` if even an empty field at its end counts. -/
  | edge (keepsLast : Bool)
  /-- Here one argument of the script ends and the next begins; `always` if empty ones count. -/
  | boundary (always : Bool)

namespace Expansion

/-- What a substitution needs to carry out the commands of a script: what they write. -/
abbrev Substitution := Script → Run String

/-- How a tilde counts. -/
inductive Tilde
  | never
  /-- At the beginning of a word. -/
  | first
  /-- After the first equals sign of a word, and after colons that follow. -/
  | assigned
  deriving DecidableEq

/-- What becomes of a word. -/
structure Purpose where
  /-- Whether it is split into fields. -/
  isSplit : Bool
  /-- Whether it stands in for the value of a parameter, so that even its own characters separate
  fields. -/
  isOperand : Bool := false
  tilde : Tilde := .never

/-! ### Texts -/

/-- The atoms of a text. -/
def ofText (quoted splits : Bool) (text : String) : List Atom :=
  text.toList.map fun c => .char c quoted splits

/-- The atoms of the result of a substitution.  Between the arguments of the script in it there are
null characters. -/
def ofResult (quoted isEach : Bool) (text : String) : List Atom :=
  let atoms := text.toList.map fun c =>
    if c = '\x00' then Atom.boundary (quoted && isEach) else .char c quoted (!quoted)
  if quoted && !isEach then atoms else .edge (quoted && isEach) :: atoms

/-- The text of some atoms. -/
def textOf (atoms : List Atom) : String :=
  String.ofList (atoms.filterMap fun
    | .char c _ _ => some c
    | _ => none)

/-- The characters of some atoms, for a pattern. -/
def characters (atoms : List Atom) : List PatternCharacter :=
  atoms.filterMap fun
    | .char c quoted _ => some ⟨c, quoted⟩
    | _ => none

/-! ### Home directories -/

/-- The home directory of a user, or of the user of the script. -/
def home? (i : Interpreter) (user : String) : Option String :=
  if user = "" then i.value? "HOME" else if user = "root" then some "/root" else none

/-- A text whose tilde at the beginning stands for a home directory, as what is quoted and what is
not. -/
def withHome? (i : Interpreter) (inAssignment isAlone : Bool) (cs : List Char) :
    Option (String × List Char) :=
  match cs with
  | '~' :: rest =>
    let user := rest.takeWhile fun c => c ≠ '/' && !(inAssignment && c = ':')
    let after := rest.drop user.length
    if after.isEmpty && !isAlone then none
    else (home? i (String.ofList user)).map fun home => (home, after)
  | _ => none

/-- The pieces of the text of an assignment after its equals sign. -/
def assignedText (i : Interpreter) (isAlone : Bool) : Nat → List Char → Word
  | 0, _ => []
  | n + 1, cs =>
    let (before, cs) : Word × List Char := match withHome? i true isAlone cs with
      | some (home, rest) => ([.text home true], rest)
      | none => ([], cs)
    let part := cs.takeWhile (· ≠ ':')
    match cs.drop part.length with
    | [] => before ++ [.text (String.ofList part) false]
    | c :: rest =>
      before ++ .text (String.ofList (part ++ [c])) false :: assignedText i isAlone n rest

/-- A word with the tildes at their places replaced; `isAfter` if an equals sign came before. -/
def assignedTildes (i : Interpreter) (isAfter : Bool) : Word → Word
  | [] => []
  | .text content false :: rest =>
    let cs := content.toList
    let last := if isAfter then ':' else '='
    let plain := cs.takeWhile (· ≠ last)
    let before := plain ++ (cs.drop plain.length).take 1
    let after := assignedText i rest.isEmpty (cs.length + 1) (cs.drop before.length)
    .text (String.ofList before) false :: after ++
      assignedTildes i (isAfter || plain.length < cs.length) rest
  | piece :: rest => piece :: assignedTildes i isAfter rest

/-- A word with its tildes replaced. -/
def withoutTildes (i : Interpreter) (tilde : Tilde) (w : Word) : Word :=
  match tilde, w with
  | .first, .text content false :: rest =>
    match withHome? i false rest.isEmpty content.toList with
    | some (home, after) => .text home true :: .text (String.ofList after) false :: rest
    | none => w
  | .assigned, w => assignedTildes i false w
  | _, w => w

/-- A word in which the marks around all arguments of the script are taken away: if there are none,
there is nothing. -/
def withoutMarks : Word → Word
  | .mark :: .parameter "@" .none true :: .mark :: rest =>
    .parameter "@" .none true :: withoutMarks rest
  | piece :: rest => piece :: withoutMarks rest
  | [] => []

/-! ### Parameters -/

/-- The value of a parameter.  Between the arguments of the script there are null characters if they
become fields of their own. -/
def value? (i : Interpreter) (purpose : Purpose) (quoted : Bool) (name : String) : Option String :=
  if name = "@" || name = "*" then
    let separator : List Char :=
      if purpose.isSplit && (!quoted || name = "@") then ['\x00']
      else (i.value? "IFS").elim [' '] fun separators => separators.toList.take 1
    some (String.intercalate (String.ofList separator) i.arguments)
  else i.parameter? name

/-- A value less a part at its beginning or end that has the form of a pattern. -/
def trimmed (atEnd longest : Bool) (pattern : Pattern) (value : String) : String :=
  let cs := value.toList
  let rest := if atEnd then pattern.withoutSuffix longest cs else pattern.withoutPrefix longest cs
  String.ofList rest

/-- Complains that a parameter has no value. -/
def complain {α : Type} (name : String) (message : Option String) (emptyToo : Bool) : Run α :=
  let usual := "parameter not set" ++ if emptyToo then " or null" else ""
  Run.fail s!"{name}: {message.getD usual}"

/-- The value of an expression. -/
def calculate (source : String) : Run String := do
  match Arithmetic.evaluate (← get).value? source with
  | .ok (value, assigned) =>
    for (name, n) in assigned do
      Run.assign name (toString n)
    return toString value
  | .error (.expression problem) => Run.fail s!"arithmetic expression: {problem}: \"{source}\""
  | .error (.number text) => Run.fail s!"Illegal number: {text}"

mutual

/-- The atoms of a word. -/
def word (substitution : Substitution) (purpose : Purpose) : Nat → Word → Run (List Atom)
  | 0, _ => return []
  | n + 1, w => do
    let pieces := withoutMarks (withoutTildes (← get) purpose.tilde w)
    let atoms ← pieces.mapM (piece substitution { purpose with tilde := .never } n)
    return atoms.flatten
termination_by structural n => n

/-- The atoms of a piece of a word. -/
def piece (substitution : Substitution) (purpose : Purpose) : Nat → Piece → Run (List Atom)
  | 0, _ => return []
  | n + 1, p => do
    match p with
    | .text content quoted =>
      let splits := purpose.isOperand && !quoted
      let atoms := ofText quoted splits content
      return if splits then .edge false :: atoms else atoms
    | .mark => return [.mark]
    | .command none _ => return []
    | .command (some script) quoted =>
      let output ← substitution script
      return ofResult quoted false output
    | .arithmetic expression quoted =>
      let source ← word substitution { isSplit := false } n expression
      return ofResult quoted false (← calculate (textOf source))
    | .parameter name change quoted => parameter substitution purpose n name change quoted
termination_by structural n => n

/-- The atoms of a parameter with what is done with its value. -/
def parameter (substitution : Substitution) (purpose : Purpose) :
    Nat → String → Change → Bool → Run (List Atom)
  | 0, _, _, _ => return []
  | n + 1, name, change, quoted => do
    let i ← get
    let isEach := name = "@" && !i.arguments.isEmpty
    let result (text : String) : List Atom := ofResult quoted isEach text
    let value := value? i purpose quoted name
    match change with
    | .wrong => Run.fail "Bad substitution"
    | .substitute kind emptyToo operand =>
      let isAbsent := value.isNone || (emptyToo && value = some "")
      let alternative (isSplit : Bool) : Run (List Atom) :=
        let tilde := if quoted then .never else .first
        word substitution { isSplit, isOperand := !quoted, tilde } n operand
      match kind, isAbsent with
      | .default, true | .alternative, false => alternative purpose.isSplit
      | .assign, true =>
        let text := textOf (← alternative false)
        unless Reader.isGoodName name do Run.fail s!"{name}: bad variable name"
        Run.assign name text
        return result text
      | .complain, true =>
        if operand.isEmpty then complain name none emptyToo
        else complain name (some (textOf (← alternative false))) emptyToo
      | .alternative, true => return []
      | _, false => return result (value.getD "")
    | change =>
      if value.isNone && i.isOn 'u' then complain name none false
      match change with
      | .length => return ofResult quoted false (toString (value.getD "").length)
      | .trim atEnd longest pattern =>
        let atoms ← word substitution { isSplit := false, tilde := .first } n pattern
        match value with
        | none => return []
        | some value =>
          return result (trimmed atEnd longest (.ofCharacters (characters atoms)) value)
      | _ => return (value.map result).getD []
termination_by structural n => n

end

/-- How deep substitutions can be nested. -/
def depth : Nat := 10000

/-! ### Fields -/

/-- The field that is being read. -/
inductive Field
  /-- It has no characters yet; `absorbs` if a separator may still belong to the blank before. -/
  | fresh (absorbs : Bool)
  /-- Its characters, the last one first. -/
  | begun (characters : List PatternCharacter)

/-- The fields of some atoms; `keepsLast` if even an empty field at the end counts. -/
def split (separators : List Char) (keepsLast : Bool) (field : Field) :
    List Atom → List (List PatternCharacter)
  | [] =>
    match field with
    | .begun characters => [characters.reverse]
    | .fresh _ => if keepsLast then [[]] else []
  | .mark :: rest =>
    match field with
    | .begun _ => split separators keepsLast field rest
    | .fresh _ => split separators keepsLast (.begun []) rest
  | .edge keepsLast :: rest =>
    match field with
    | .begun _ => split separators keepsLast field rest
    | .fresh _ => split separators keepsLast (.fresh false) rest
  | .boundary always :: rest =>
    match field with
    | .begun characters => characters.reverse :: split separators keepsLast (.fresh !always) rest
    | .fresh _ =>
      if always then [] :: split separators keepsLast (.fresh false) rest
      else split separators keepsLast field rest
  | .char c quoted splits :: rest =>
    let isBlank := c = ' ' || c = '\t' || c = '\n'
    if splits && separators.contains c then
      match field with
      | .begun characters => characters.reverse :: split separators keepsLast (.fresh isBlank) rest
      | .fresh absorbs =>
        if isBlank then split separators keepsLast field rest
        else if absorbs then split separators keepsLast (.fresh false) rest
        else [] :: split separators keepsLast (.fresh false) rest
    else
      let before := match field with
        | .begun characters => characters
        | .fresh _ => []
      split separators keepsLast (.begun (⟨c, quoted⟩ :: before)) rest

/-! ### Names of files -/

/-- The parts of a field between slashes. -/
def parts : List PatternCharacter → List (List PatternCharacter)
  | [] => [[]]
  | c :: cs =>
    if c.char = '/' then [] :: parts cs
    else
      match parts cs with
      | [] => [[c]]
      | part :: rest => (c :: part) :: rest

/-- Whether a part of a field is more than a name. -/
def isPattern (part : List PatternCharacter) : Bool :=
  (Pattern.ofCharacters part).any fun
    | .exactly _ => false
    | _ => true

/-- The name that a part of a field stands for that is no pattern. -/
def plainName (part : List PatternCharacter) : String :=
  String.ofList ((Pattern.unescaped part).map (·.char))

/-- The names that go on from a beginning as the parts of a field say. -/
def matching (beginning : String) : List (List PatternCharacter) → Routine (List String)
  | [] => pure [beginning]
  | part :: rest => do
    let ending := if rest.isEmpty then "" else "/"
    if isPattern part then
      let pattern := Pattern.ofCharacters part
      let isHidden := (Pattern.unescaped part).head?.any fun c => c.char = '.'
      match ← Routine.call (.entries (if beginning = "" then "." else beginning)) with
      | .error _ => return []
      | .ok names =>
        let names := (if isHidden then "." :: ".." :: names else names).filter fun name =>
          pattern.accepts name.toList && (isHidden || !name.startsWith ".")
        let found ← names.mapM fun name => matching (beginning ++ name ++ ending) rest
        return found.flatten
    else if rest.isEmpty then
      let path := beginning ++ plainName part
      return if (← Routine.call (.metadata path false)).toOption.isSome then [path] else []
    else matching (beginning ++ plainName part ++ ending) rest

/-- The files whose names have the form of a field, or else the field itself. -/
def names (field : List PatternCharacter) : Routine (List String) := do
  let text := String.ofList (field.map (·.char))
  let parts := parts field
  if parts.any isPattern then
    let found ← matching "" parts
    return if found.isEmpty then [text] else found.mergeSort
  else return [text]

/-! ### Words -/

/-- The fields of a word. -/
def fields (substitution : Substitution) (w : Word) : Run (List String) := do
  let atoms ← word substitution { isSplit := true, tilde := .first } depth w
  let i ← get
  let fields := split i.separators false (.fresh false) atoms
  if i.isOn 'f' then return fields.map fun field => String.ofList (field.map (·.char))
  let found ← fields.mapM fun field => Run.lift (names field)
  return found.flatten

/-- A word as one text. -/
def text (substitution : Substitution) (tilde : Tilde) (w : Word) : Run String := do
  return textOf (← word substitution { isSplit := false, tilde } depth w)

/-- A word as a pattern. -/
def pattern (substitution : Substitution) (w : Word) : Run Pattern := do
  let atoms ← word substitution { isSplit := false, tilde := .first } depth w
  return .ofCharacters (characters atoms)

end Expansion
end JobControl
