import JobControl.Text.Number
import JobControl.Utility.Condition
import JobControl.Utility.Output

/-!
# Tests

Conditions on texts, numbers and files.

## Main definitions

* `Test` — a part of a test that reads arguments.
* `Test.unary`, `Test.binary` — conditions on one and on two arguments.
* `Test.posix` — a condition, read by the number of its arguments.
* `Utility.test` — whether the condition in its arguments holds.
-/

namespace JobControl

/-- A part of a test that reads arguments; the state is the place of the next one.  It fails with
what is wrong with the condition. -/
abbrev Test := ReaderT (Array String) (StateT Nat (ExceptT String Routine))

namespace Test

/-- Gives up. -/
def wrong {α : Type} (problem : String) : Test α := throw problem

/-- Carries out a routine. -/
def lift {α : Type} (r : Routine α) : Test α := fun _ place => ExceptT.lift do
  return (← r, place)

/-- An argument some places from here. -/
def peek? (distance : Nat) : Test (Option String) := return (← read)[(← get) + distance]?

/-- Whether an argument some places from here is a given one. -/
def isAt (distance : Nat) (text : String) : Test Bool := return (← peek? distance) = some text

/-- How many arguments are left. -/
def left : Test Nat := return (← read).size - (← get)

/-- Complains that something is missing. -/
def missing {α : Type} : Test α := do
  let last := (← read).back?.getD ""
  wrong s!"missing argument after {Quoting.plain last}"

/-- The next argument. -/
def next : Test String := do
  match ← peek? 0 with
  | some text =>
    modify (· + 1)
    return text
  | none => missing

/-- Goes past some arguments. -/
def skip (count : Nat) : Test Unit := modify (· + count)

/-! ### Conditions without others inside -/

/-- The integer that a text spells between blanks. -/
def integer (text : String) : Test Int := do
  let isBlank (c : Char) : Bool := c = ' ' || c = '\t'
  let (negative, digits) : Bool × List Char := match text.toList.dropWhile isBlank with
    | '-' :: rest => (true, rest)
    | '+' :: rest => (false, rest)
    | rest => (false, rest)
  let (n, rest) := Text.inBase 10 digits
  if digits.head?.any Char.isDigit && (rest.dropWhile isBlank).isEmpty then
    return if negative then -(n : Int) else n
  else wrong s!"invalid integer {Quoting.plain text}"

/-- The letters of conditions on one argument. -/
def letters : List Char := 'a' :: 'n' :: 'N' :: 't' :: 'z' :: Condition.letters

/-- A condition on one argument. -/
def unary : Test Bool := do
  let operator ← next
  let letter := (operator.toList.drop 1).headD ' '
  if !letters.contains letter then wrong s!"{Quoting.plain operator}: unary operator expected"
  let operand ← next
  match letter with
  | 'n' => return operand ≠ ""
  | 'z' => return operand = ""
  | 'N' => return false
  | 'a' => lift (Condition.unary 'e' operand)
  | 't' =>
    let n ← integer operand
    if n < 0 || n ≥ Nat.pow 2 31 then return false else lift (Routine.call (.isTerminal n.toNat))
  | letter => lift (Condition.unary letter operand)

/-- Whether two integers compare as an operator says. -/
def compare (operator : String) (m n : Int) : Bool :=
  match operator with
  | "-eq" => m = n
  | "-ne" => m ≠ n
  | "-lt" => m < n
  | "-le" => m ≤ n
  | "-gt" => m > n
  | _ => m ≥ n

/-- The operators on integers and on files. -/
def comparisons : List String := ["-eq", "-ne", "-lt", "-le", "-gt", "-ge"]
def relations : List String := ["-nt", "-ot", "-ef"]

/-- Whether a text is an operator on two arguments. -/
def isBinary (text : Option String) : Bool :=
  text.any fun text => (["=", "==", "!="] ++ comparisons ++ relations).contains text

/-- A condition on two arguments; the length of the first is meant if `isLength`. -/
def binary (isLength : Bool) : Test Bool := do
  if isLength then skip 1
  let left ← next
  let operator ← next
  let isRightLength := (← isAt 0 "-l") && 2 ≤ (← Test.left)
  if isRightLength then skip 1
  let right ← next
  if comparisons.contains operator then
    let value (isLength : Bool) (text : String) : Test Int :=
      if isLength then return text.length else integer text
    return compare operator (← value isLength left) (← value isRightLength right)
  else if relations.contains operator then
    if isLength || isRightLength then wrong s!"{operator} does not accept -l"
    lift (Condition.binary operator left right)
  else return (left = right) != (operator = "!=")

/-- A condition that is an argument: whether it is not empty. -/
def single : Test Bool := return (← next) ≠ ""

/-- Whether an argument is a dash and a letter. -/
def isSwitch (text : Option String) : Bool :=
  match text.map (·.toList) with
  | some ['-', _] => true
  | _ => false

/-- A condition made of two arguments. -/
def double : Test Bool := do
  if ← isAt 0 "!" then
    skip 1
    return !(← single)
  else if isSwitch (← peek? 0) then unary
  else missing

/-! ### Conditions with others inside -/

/-- Conditions of which one has to hold, and inside them those that all have to hold; `term` is how
each of them is read. -/
def junction (operator : String) (term : Test Bool) (isEnough : Bool) (value : Bool) :
    Nat → Test Bool
  | 0 => return value
  | n + 1 => do
    let next ← term
    let value := if isEnough then value || next else value && next
    if ← isAt 0 operator then
      skip 1
      junction operator term isEnough value n
    else return value

/-- A condition with connectives, `term` being how those between them are read. -/
def expression (term : Test Bool) : Test Bool := do
  if (← left) = 0 then missing
  let size := (← read).size
  junction "-o" (junction "-a" term false true size) true false size

/-- A condition made of three arguments. -/
def triple (term : Test Bool) : Test Bool := do
  if isBinary (← peek? 1) then binary false
  else if ← isAt 0 "!" then
    skip 1
    return !(← double)
  else if (← isAt 0 "(") && (← isAt 2 ")") then
    skip 1
    let value ← single
    skip 1
    return value
  else if (← isAt 1 "-a") || (← isAt 1 "-o") then expression term
  else
    let operator := (← peek? 1).getD ""
    wrong s!"{Quoting.plain operator}: binary operator expected"

/-- A condition, read by the number of its arguments. -/
def posix (term : Test Bool) (count : Nat) : Test Bool := do
  match count with
  | 1 => single
  | 2 => double
  | 3 => triple term
  | _ =>
    if count = 4 && (← isAt 0 "!") then
      skip 1
      return !(← triple term)
    else if count = 4 && (← isAt 0 "(") && (← isAt 3 ")") then
      skip 1
      let value ← double
      skip 1
      return value
    else expression term

/-- Goes past signs of negation; whether their number is odd. -/
def negations : Nat → Test Bool
  | 0 => return false
  | n + 1 => do
    if ← isAt 0 "!" then
      skip 1
      if (← left) = 0 then missing
      return !(← negations n)
    else return false

/-- How many arguments are inside brackets: those up to the first closing one, if that comes
soon. -/
def insideCount : Test Nat := do
  let all ← read
  let place ← get
  let closes (count : Nat) : Bool := all[place + count]? = some ")"
  return ([1, 2, 3, 4].find? closes).getD (all.size - place)

/-- A condition between connectives. -/
def term : Nat → Test Bool
  | 0 => return false
  | n + 1 => do
    let negated ← negations (← read).size
    if (← left) = 0 then missing
    let value ←
      if ← isAt 0 "(" then
        skip 1
        if (← left) = 0 then missing
        let value ← posix (term n) (← insideCount)
        match ← peek? 0 with
        | some ")" =>
          skip 1
          pure value
        | some other => wrong (Quoting.plain ")" ++ s!" expected, found {Quoting.plain other}")
        | none => wrong (Quoting.plain ")" ++ " expected")
      else if 4 ≤ (← left) && (← isAt 0 "-l") && isBinary (← peek? 2) then binary true
      else if 3 ≤ (← left) && isBinary (← peek? 1) then binary false
      else if isSwitch (← peek? 0) then unary
      else single
    return negated != value

/-- Whether the condition in some arguments holds. -/
def condition : Test Bool := do
  let size := (← read).size
  let value ← posix (term (size + 1)) size
  match ← peek? 0 with
  | none => return value
  | some extra => wrong s!"extra argument {Quoting.plain extra}"

end Test

namespace Utility

/-- Whether the condition in its arguments holds; that of a bracket ends with the other one. -/
def test (isBracket : Bool) : Utility := fun name arguments => do
  let complain (problem : String) : Routine Nat := do
    Routine.complain s!"{name}: {problem}\n"
    return 2
  if isBracket && arguments.getLast? ≠ some "]" then
    complain ("missing " ++ Quoting.plain "]")
  else
    let arguments := if isBracket then arguments.dropLast else arguments
    if arguments.isEmpty then return 1
    match ← ((Test.condition arguments.toArray).run 0).run with
    | .ok (holds, _) => return if holds then 0 else 1
    | .error problem => complain problem

end Utility
end JobControl
