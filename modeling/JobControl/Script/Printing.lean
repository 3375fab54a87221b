import JobControl.Script.Interpreter
import JobControl.Text.Escape
import JobControl.Text.Format

/-!
# Printing in scripts

The commands `echo` and `printf` of the script language.

## Main definitions

* `Printing.unescape` — a text whose escapes are replaced.
* `Printing.echo` — texts between spaces.
* `Printing.format` — texts by a format.
-/

namespace JobControl.Printing

open Text (Conversion)

/-- The character that an escape in a format stands for, after the backslash, and what follows it.
What is no escape is left as it is. -/
def escape (cs : List Char) : Char × List Char :=
  match Text.code? 8 3 cs with
  | some found => found
  | none =>
    match cs with
    | c :: rest =>
      match Text.escaped? c with
      | some d => (d, rest)
      | none => ('\\', cs)
    | [] => ('\\', [])

/-- A text whose escapes are replaced, and whether one of them ends all printing. -/
def unescape : Nat → List Char → List Char × Bool
  | 0, cs => (cs, false)
  | n + 1, cs =>
    match cs with
    | [] => ([], false)
    | '\\' :: 'c' :: _ => ([], true)
    | '\\' :: rest =>
      let rest := match rest with
        | '0' :: d :: rest' => if Text.isOctal d then d :: rest' else rest
        | rest => rest
      let (c, rest) := escape rest
      (unescape n rest).map (c :: ·) id
    | c :: rest => (unescape n rest).map (c :: ·) id

/-- The text that `echo` prints: its arguments between spaces, and a line end unless `-n` comes
first. -/
def echo (arguments : List String) : String :=
  let (newline, arguments) := match arguments with
    | "-n" :: rest => (false, rest)
    | all => (true, all)
  let rec texts : List String → List Char
    | [] => if newline then ['\n'] else []
    | text :: rest =>
      let (cs, ended) := unescape (text.length + 1) text.toList
      if ended then cs
      else if rest.isEmpty then cs ++ texts rest
      else cs ++ ' ' :: texts rest
  String.ofList (texts arguments)

/-! ### Formats -/

/-- How far a format is printed. -/
structure Progress where
  arguments : List String
  /-- What is printed, the last text first. -/
  printed : List String := []
  status : Nat := 0
  /-- Whether an argument has ended all printing. -/
  isEnded : Bool := false

/-- Printing by a format. -/
abbrev Printer := StateT Progress Run

/-- Prints a text. -/
def put (text : String) : Printer Unit := modify fun p => { p with printed := text :: p.printed }

/-- The next argument. -/
def argument? : Printer (Option String) := do
  let p ← get
  set { p with arguments := p.arguments.drop 1 }
  return p.arguments.head?

/-- Complains about an argument that is no number, or not only one. -/
def complain (text problem : String) : Printer Unit := do
  modify fun p => { p with status := 1 }
  Run.warn s!"{text}: {problem}"

/-- Complains about what follows a number in an argument. -/
def checkRest (text : String) (found : Bool) (rest : List Char) (isLarge : Bool) :
    Printer Unit := do
  if !rest.isEmpty then
    complain text (if found then "not completely converted" else "expected numeric value")
  else if isLarge then complain text "Numerical result out of range"

/-- The octet after a quotation mark that an argument begins with. -/
def quoted? (text : String) : Option Nat :=
  match text.toList with
  | c :: rest => if c = '\'' || c = '"' then some ((rest.head?.map Char.toNat).getD 0) else none
  | [] => none

/-- The next argument as an integer. -/
def integer (hasSign : Bool) : Printer Int := do
  match ← argument? with
  | none => return 0
  | some text =>
    match quoted? text with
    | some n => return n
    | none =>
      let found := Text.integer? text.toList
      let (n, rest) := found.getD (0, text.toList)
      let least : Int := if hasSign then -(Nat.pow 2 63) else -(Nat.pow 2 64 - 1)
      let greatest : Int := if hasSign then Nat.pow 2 63 - 1 else Nat.pow 2 64 - 1
      let isLarge := n < least || n > greatest
      checkRest text found.isSome rest isLarge
      return if n > greatest then greatest
        else if n < least then if hasSign then least else greatest
        else n

/-- The number of bits of a real number. -/
def realBits : Nat := 53

/-- The next argument as a real number. -/
def real : Printer Text.Real := do
  match ← argument? with
  | none => return Text.Real.zero
  | some text =>
    match quoted? text with
    | some n => return .ofInt n
    | none =>
      let found := Text.real? text.toList
      let (r, rest) := found.getD (Text.Real.zero, text.toList)
      checkRest text found.isSome rest false
      return r.rounded realBits

/-- Reads the width or the precision of a conversion. -/
def measure (cs : List Char) : Printer (Int × List Char) := do
  match Conversion.measure cs with
  | (.fixed n, rest) => return (n, rest)
  | (.argument, rest) => return (← integer true, rest)

/-- Prints an argument by a conversion. -/
def convert (c : Conversion) (source : List Char) : Printer Unit := do
  match c.letter with
  | 'b' =>
    let text := (← argument?).getD ""
    let (cs, ended) := unescape (text.length + 1) text.toList
    put (c.text (String.ofList cs))
    modify fun p => { p with isEnded := ended }
  | 'c' => put (c.padded [(((← argument?).getD "").toList.head?).getD '\x00'])
  | 's' => put (c.text ((← argument?).getD ""))
  | 'd' | 'i' => put (c.integer (← integer true))
  | 'o' | 'u' | 'x' | 'X' => put (c.integer (← integer false))
  | 'a' | 'A' | 'e' | 'E' | 'f' | 'F' | 'g' | 'G' => put (c.real 1 (← real))
  | _ =>
    Run.say (String.join (← get).printed.reverse)
    Run.fail (α := Unit) s!"%{String.ofList source}: invalid directive"

/-- Prints arguments by a format once. -/
def once : Nat → List Char → Printer Unit
  | 0, _ => pure ()
  | n + 1, cs => do
    if (← get).isEnded then return
    match cs with
    | [] => pure ()
    | '\\' :: rest =>
      let (c, rest) := escape rest
      put c.toString
      once n rest
    | '%' :: '%' :: rest =>
      put "%"
      once n rest
    | '%' :: rest =>
      let (flags, after) := Conversion.flagsOf "#-+ 0" rest
      let (width, after) ← measure after
      let c := ({ flags } : Conversion).withWidth width
      let (c, after) ← match after with
        | '.' :: after => do
          let (n, after) ← measure after
          pure (c.withPrecision n, after)
        | after => pure (c, after)
      match after with
      | [] =>
        Run.say (String.join (← get).printed.reverse)
        Run.fail (α := Unit) "missing format character"
      | letter :: after =>
        convert { c with letter } (rest.take (rest.length - after.length))
        once n after
    | c :: rest =>
      put c.toString
      once n rest

/-- Prints arguments by a format, again as long as arguments are left. -/
def repeated (cs : List Char) : Nat → Printer Unit
  | 0 => pure ()
  | n + 1 => do
    let before := (← get).arguments.length
    once (cs.length + 1) cs
    let p ← get
    unless p.isEnded || p.arguments.isEmpty || p.arguments.length = before do repeated cs n

/-- The command `printf`. -/
def format (template : String) (arguments : List String) : Run Nat := do
  let ((), p) ← (repeated template.toList (arguments.length + 1)).run { arguments }
  Run.say (String.join p.printed.reverse)
  return p.status

end JobControl.Printing
