import JobControl.Script.Arithmetic
import JobControl.Script.Interpreter
import JobControl.Utility.Condition

/-!
# Conditions of scripts

The commands `test` and `[` of the script language: conditions on texts, numbers and files, joined
by connectives.

## Main definitions

* `ScriptCondition.Token` — what an argument is.
* `ScriptCondition.evaluate` — whether a condition holds.
-/

namespace JobControl.ScriptCondition

/-- What an argument is. -/
inductive Token
  | ended
  | operand
  | negation
  | conjunction
  | disjunction
  | opening
  | closing
  /-- An operator with one operand. -/
  | unary (letter : Char)
  /-- An operator between two operands. -/
  | binary (name : String)
  deriving DecidableEq

/-- The operators between two operands. -/
def binaries : List String :=
  ["=", "!=", "<", ">", "-eq", "-ne", "-gt", "-ge", "-lt", "-le", "-nt", "-ot", "-ef"]

/-- The letters of operators with one operand. -/
def unaries : List Char := ['n', 'z', 't'] ++ Condition.letters

/-- The operator that an argument is, if it is one. -/
def operator? (text : String) : Option Token :=
  match text with
  | "!" => some .negation
  | "-a" => some .conjunction
  | "-o" => some .disjunction
  | "(" => some .opening
  | ")" => some .closing
  | _ =>
    if binaries.contains text then some (.binary text)
    else
      match text.toList with
      | ['-', letter] => if unaries.contains letter then some (.unary letter) else none
      | _ => none

/-- Whether an argument is an operator between two operands. -/
def isBinary (text : String) : Bool := binaries.contains text

/-- What the first of some arguments is.  An operator without an operand, or one that stands where
the operand of another does, is an operand. -/
def token : List String → Token
  | [] => .ended
  | text :: rest =>
    match operator? text, rest with
    | some (.unary _), [] => .operand
    | some (.unary letter), next :: _ :: _ => if isBinary next then .operand else .unary letter
    | some .opening, [] => .operand
    | some found, _ => found
    | none, _ => .operand

/-- Judging a condition; the arguments from the one that is looked at on. -/
abbrev Judge := StateT (List String) Run

/-- Complains about a condition. -/
def wrong {α : Type} (operator problem : String) : Judge α :=
  Run.fail (if operator = "" then problem else s!"{operator}: {problem}")

/-- Goes on to the next argument, and says what it is. -/
def step : Judge Token := do
  modify (·.drop 1)
  return token (← get)

/-- What the argument after the present one is. -/
def ahead : Judge Token := return token ((← get).drop 1)

/-- The integer that a text spells. -/
def number (text : String) : Judge Int := do
  let cs := text.toList.dropWhile Text.isSpace
  let isDecimal := match cs with
    | '-' :: c :: _ | '+' :: c :: _ => c.isDigit
    | c :: _ => c.isDigit
    | [] => false
  let (negative, digits) := Text.sign cs
  let (n, rest) := Text.inBase 10 digits
  let value : Int := if negative then -n else n
  let limit : Int := Arithmetic.greatest
  if isDecimal && rest.all Text.isSpace && -limit - 1 ≤ value && value ≤ limit then return value
  else Run.fail (α := Int) s!"Illegal number: {text}"

/-- Whether a condition on two operands holds. -/
def compare (a name b : String) : Judge Bool := do
  let numbers (holds : Int → Int → Bool) : Judge Bool := do
    return holds (← number a) (← number b)
  match name with
  | "=" => return a = b
  | "!=" => return a ≠ b
  | "<" => return a < b
  | ">" => return b < a
  | "-eq" => numbers fun m n => m = n
  | "-ne" => numbers fun m n => m ≠ n
  | "-lt" => numbers fun m n => m < n
  | "-le" => numbers fun m n => m ≤ n
  | "-gt" => numbers fun m n => n < m
  | "-ge" => numbers fun m n => n ≤ m
  | _ => Run.lift (Condition.binary name a b)

/-- Whether a condition on one operand holds. -/
def inspect (letter : Char) (operand : String) : Judge Bool := do
  match letter with
  | 'n' => return operand ≠ ""
  | 'z' => return operand = ""
  | 't' => Run.call (.isTerminal (← number operand).toNat)
  | letter => Run.lift (Condition.unary letter operand)

/-- The argument that is looked at. -/
def present (operator : String) : Judge String := do
  match (← get).head? with
  | some text => return text
  | none => wrong operator "argument expected"

mutual

/-- Whether one of some conditions holds; `t` is what the present argument is. -/
def either (t : Token) : Nat → Judge Bool
  | 0 => return false
  | n + 1 => do
    let first ← both t n
    if (← ahead) ≠ .disjunction then return first
    let _ ← step
    let second ← either (← step) n
    return first || second
termination_by structural n => n

/-- Whether all of some conditions hold. -/
def both (t : Token) : Nat → Judge Bool
  | 0 => return false
  | n + 1 => do
    let first ← negated t n
    if (← ahead) ≠ .conjunction then return first
    let _ ← step
    let second ← both (← step) n
    return first && second
termination_by structural n => n

/-- Whether a condition holds, which may be negated. -/
def negated (t : Token) : Nat → Judge Bool
  | 0 => return false
  | n + 1 => do
    if t ≠ .negation then primary t n
    else
      let t ← ahead
      unless t = .ended do modify (·.drop 1)
      return !(← negated t n)
termination_by structural n => n

/-- Whether a condition without connectives holds. -/
def primary (t : Token) : Nat → Judge Bool
  | 0 => return false
  | n + 1 => do
    match t with
    | .ended => return false
    | .opening =>
      let t ← step
      if t = .closing then return false
      let result ← either t n
      unless (← step) = .closing do wrong "" "closing paren expected"
      return result
    | .unary letter =>
      modify (·.drop 1)
      inspect letter (← present (String.ofList ['-', letter]))
    | _ =>
      let first ← present ""
      match ← ahead with
      | .binary name =>
        modify (·.drop 2)
        compare first name (← present name)
      | _ => return first ≠ ""
termination_by structural n => n

end

/-- Whether the condition that some arguments spell holds. -/
def judge (t : Option Token) (arguments : List String) : Run Bool := do
  let (result, rest) ← (either (t.getD (token arguments)) (4 * arguments.length + 8)).run arguments
  match rest with
  | text :: _ :: _ =>
    Run.fail (if text = "" then "unexpected operator" else s!"{text}: unexpected operator")
  | _ => return result

/-- Whether the condition that some arguments spell holds.  If there are only few, their number
decides what they mean. -/
def evaluate : List String → Run Bool
  | [] => return false
  | [a, name, b] =>
    if isBinary name then judge (some .operand) [a, name, b]
    else if a = "(" && b = ")" then judge none [name]
    else if a = "!" then return !(← evaluate [name, b])
    else judge none [a, name, b]
  | [a, b, c, d] =>
    if a = "(" && d = ")" then judge none [b, c]
    else if a = "!" then return !(← evaluate [b, c, d])
    else judge none [a, b, c, d]
  | arguments => judge none arguments

/-- The commands `test` and `[`, the second of which ends with the other bracket. -/
def command (name : String) (arguments : List String) : Run Nat := do
  let isBracket := name.startsWith "["
  if isBracket && !(arguments.getLast?.any fun text => text.startsWith "]") then
    Run.fail "missing ]"
  else
    let holds ← evaluate (if isBracket then arguments.dropLast else arguments)
    return if holds then 0 else 1

end JobControl.ScriptCondition
