import JobControl.Script.Reader
import JobControl.Text.Number

/-!
# Arithmetic of scripts

Expressions over integers of sixty-four bits with the operators of the C language.  An expression is
evaluated while it is read, so that the first thing that is wrong with it counts.

## Main definitions

* `Arithmetic.Term` — an operand or an operator.
* `Arithmetic.terms` — the terms of an expression.
* `Arithmetic.evaluate` — the value of an expression, with the variables that it assigns.
-/

namespace JobControl.Arithmetic

/-! ### Numerals -/

/-- The greatest integer. -/
def greatest : Nat := Nat.pow 2 63 - 1

/-- The value of a text that may have a sign and blanks around it; nothing if there is anything
else. -/
def ofText? (text : String) : Option Int :=
  match Text.integer? text.toList with
  | none => if text.toList.all Text.isSpace then some 0 else none
  | some (n, rest) =>
    if rest.all Text.isSpace && -(greatest : Int) - 1 ≤ n && n ≤ greatest then some n else none

/-! ### Terms -/

/-- A smallest part of an expression. -/
inductive Term
  | number (n : Int)
  | name (text : String)
  | operator (text : String)
  /-- An assignment, with the operator that it carries out before. -/
  | assign (operator : Option String)
  /-- Something that cannot be in an expression. -/
  | wrong
  deriving DecidableEq

/-- The operators, longer ones first. -/
def operators : List String :=
  ["<<", ">>", "<=", ">=", "==", "!=", "&&", "||", "+", "-", "*", "/", "%", "<", ">", "&", "^", "|",
    "!", "~", "(", ")", "?", ":"]

/-- The operators that may be combined with an assignment. -/
def assigning : List String := ["<<", ">>", "+", "-", "*", "/", "%", "&", "^", "|"]

/-- The terms of an expression. -/
def terms : Nat → List Char → List Term
  | 0, _ => []
  | _, [] => []
  | n + 1, c :: cs =>
    if c = ' ' || c = '\t' || c = '\n' then terms n cs
    else if c.isDigit then
      let (value, rest) := Text.numeral (c :: cs)
      .number (Nat.min value greatest) :: terms n rest
    else if Reader.isNameStart c then
      let name := (c :: cs).takeWhile Reader.isName
      .name (String.ofList name) :: terms n ((c :: cs).drop name.length)
    else
      let isHere (text : String) : Bool := text.toList.isPrefixOf (c :: cs)
      match assigning.find? fun operator => isHere (operator ++ "=") with
      | some operator => .assign (some operator) :: terms n ((c :: cs).drop (operator.length + 1))
      | none =>
        match operators.find? isHere with
        | some operator => .operator operator :: terms n ((c :: cs).drop operator.length)
        | none => if c = '=' then .assign none :: terms n cs else [.wrong]

/-! ### Values -/

/-- How tightly an operator between two operands binds; the least number binds most. -/
def strength? : String → Option Nat
  | "*" | "/" | "%" => some 0
  | "+" | "-" => some 1
  | "<<" | ">>" => some 2
  | "<" | ">" | "<=" | ">=" => some 3
  | "==" | "!=" => some 4
  | "&" => some 5
  | "^" => some 6
  | "|" => some 7
  | _ => none

/-- The number of different strengths. -/
def strengths : Nat := 8

/-- One for what holds and zero for what does not. -/
def truth (b : Bool) : Int := if b then 1 else 0

/-- An integer as sixty-four bits, and back. -/
def bits (n : Int) : BitVec 64 := BitVec.ofInt 64 n

/-- The value of an operator between two operands; nothing if it divides by zero. -/
def apply (operator : String) (a b : Int) : Option Int :=
  match operator with
  | "|" => some (bits a ||| bits b).toInt
  | "^" => some (bits a ^^^ bits b).toInt
  | "&" => some (bits a &&& bits b).toInt
  | "==" => some (truth (a = b))
  | "!=" => some (truth (a ≠ b))
  | "<" => some (truth (a < b))
  | ">" => some (truth (b < a))
  | "<=" => some (truth (a ≤ b))
  | ">=" => some (truth (b ≤ a))
  | "<<" => some (bits a <<< (b % 64).toNat).toInt
  | ">>" => some ((bits a).sshiftRight (b % 64).toNat).toInt
  | "+" => some (bits (a + b)).toInt
  | "-" => some (bits (a - b)).toInt
  | "*" => some (bits (a * b)).toInt
  | "/" => if b = 0 then none else some (bits (a.tdiv b)).toInt
  | "%" => if b = 0 then none else some (a.tmod b)
  | _ => none

/-! ### Expressions -/

/-- Why an expression has no value. -/
inductive Failure
  /-- Something is wrong with the expression. -/
  | expression (problem : String)
  /-- The value of a variable is no number. -/
  | number (text : String)

/-- How far an expression is read, and the variables that it has assigned. -/
structure Progress where
  rest : List Term
  assigned : List (String × Int) := []

/-- Reading and evaluating a part of an expression. -/
abbrev Evaluation := StateT Progress (Except Failure)

/-- The next term, which stays. -/
def next? : Evaluation (Option Term) := do return (← get).rest.head?

/-- Goes past the next term. -/
def advance : Evaluation Unit := modify fun p => { p with rest := p.rest.drop 1 }

/-- The expression is wrong. -/
def wrong {α : Type} (problem : String) : Evaluation α := throw (.expression problem)

/-- Goes past an operator. -/
def expect (operator : String) : Evaluation Unit := do
  if (← next?) = some (.operator operator) then advance else wrong s!"expecting '{operator}'"

/-- The value of a variable. -/
def valueOf (valueOf? : String → Option String) (name : String) : Evaluation Int := do
  match (← get).assigned.lookup name with
  | some n => return n
  | none =>
    let text := (valueOf? name).getD ""
    match ofText? text with
    | some n => return n
    | none => throw (.number text)

/-- The value of an operator between two operands; it does not matter if `idle`. -/
def combine (idle : Bool) (operator : String) (a b : Int) : Evaluation Int :=
  if idle then return b
  else
    match apply operator a b with
    | some n => return n
    | none => wrong "division by zero"

/-- The operator between operands that comes next. -/
def binary? : Evaluation (Option (String × Nat)) := do
  match ← next? with
  | some (.operator operator) =>
    return (strength? operator).map fun strength => (operator, strength)
  | _ => return none

mutual

/-- The value of an expression, which may be an assignment; it does not matter if `idle`. -/
def assignment (known : String → Option String) (idle : Bool) : Nat → Evaluation Int
  | 0 => wrong "expecting primary"
  | n + 1 => do
    match (← get).rest with
    | .name name :: .assign operator :: _ =>
      advance
      advance
      let value ← assignment known idle n
      if idle then return value
      let value ← match operator with
        | none => pure value
        | some operator => do combine false operator (← valueOf known name) value
      modify fun p => { p with assigned := (name, value) :: p.assigned }
      return value
    | _ => choice known idle n
termination_by structural n => n

/-- The value of an expression with a choice. -/
def choice (known : String → Option String) (idle : Bool) : Nat → Evaluation Int
  | 0 => wrong "expecting primary"
  | n + 1 => do
    let a ← either known idle n
    if (← next?) ≠ some (.operator "?") then return a
    advance
    let b ← assignment known (idle || a = 0) n
    expect ":"
    let c ← choice known (idle || a ≠ 0) n
    return if a ≠ 0 then b else c
termination_by structural n => n

/-- The value of an expression of which one part has to hold. -/
def either (known : String → Option String) (idle : Bool) : Nat → Evaluation Int
  | 0 => wrong "expecting primary"
  | n + 1 => do
    let a ← both known idle n
    if (← next?) ≠ some (.operator "||") then return a
    advance
    let b ← either known (idle || a ≠ 0) n
    return truth (a ≠ 0 || b ≠ 0)
termination_by structural n => n

/-- The value of an expression of which all parts have to hold. -/
def both (known : String → Option String) (idle : Bool) : Nat → Evaluation Int
  | 0 => wrong "expecting primary"
  | n + 1 => do
    let a ← operation known idle n
    if (← next?) ≠ some (.operator "&&") then return a
    advance
    let b ← both known (idle || a = 0) n
    return truth (a ≠ 0 && b ≠ 0)
termination_by structural n => n

/-- The value of operators between operands. -/
def operation (known : String → Option String) (idle : Bool) : Nat → Evaluation Int
  | 0 => wrong "expecting primary"
  | n + 1 => do
    let a ← operand known idle n
    operationFrom known idle strengths a n
termination_by structural n => n

/-- The value of operators that bind more than `bound`, after their first operand. -/
def operationFrom (known : String → Option String) (idle : Bool) (bound : Nat) (a : Int) :
    Nat → Evaluation Int
  | 0 => wrong "expecting primary"
  | n + 1 => do
    match ← binary? with
    | none => return a
    | some (operator, strength) =>
      if bound ≤ strength then return a
      advance
      let b ← operand known idle n
      let b ← operationFrom known idle strength b n
      operationFrom known idle bound (← combine idle operator a b) n
termination_by structural n => n

/-- The value of an operand with its signs and brackets. -/
def operand (known : String → Option String) (idle : Bool) : Nat → Evaluation Int
  | 0 => wrong "expecting primary"
  | n + 1 => do
    match ← next? with
    | some (.operator "(") =>
      advance
      let value ← assignment known idle n
      expect ")"
      return value
    | some (.number value) =>
      advance
      return value
    | some (.name name) =>
      advance
      if idle then return 0 else valueOf known name
    | some (.operator "+") =>
      advance
      operand known idle n
    | some (.operator "-") =>
      advance
      return (bits (-(← operand known idle n))).toInt
    | some (.operator "!") =>
      advance
      return truth ((← operand known idle n) = 0)
    | some (.operator "~") =>
      advance
      return -(← operand known idle n) - 1
    | _ => wrong "expecting primary"
termination_by structural n => n

end

/-- The value of an expression, and the variables that it assigns, the first one first. -/
def evaluate (known : String → Option String) (source : String) :
    Except Failure (Int × List (String × Int)) :=
  let cs := source.toList
  let start : Progress := { rest := terms (cs.length + 1) cs }
  let whole : Evaluation Int := do
    let value ← assignment known false (8 * cs.length + 16)
    unless (← get).rest.isEmpty do wrong "expecting EOF"
    return value
  match whole.run start with
  | .ok (value, p) => .ok (value, p.assigned.reverse)
  | .error e => .error e

end JobControl.Arithmetic
