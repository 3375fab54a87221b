import JobControl.Text.Escape
import JobControl.Text.Format
import JobControl.Utility.Output

/-!
# Utilities that print texts

## Main definitions

* `Utility.echo` — prints its arguments.
* `Utility.printf` — prints its arguments by a format.
* `Utility.yes` — prints its arguments again and again.
-/

namespace JobControl.Utility

open Text (Conversion)

/-! ### Texts between spaces -/

/-- The octet of an escape after the backslash, and what follows it; what is no escape is none. -/
def echoEscape? (cs : List Char) : Option (Char × List Char) :=
  match cs with
  | 'x' :: rest => Text.code? 16 2 rest
  | '0' :: rest => some ((Text.code? 8 3 rest).getD ('\x00', rest))
  | c :: rest =>
    if Text.isOctal c then Text.code? 8 3 cs else (Text.escaped? c).map fun d => (d, rest)
  | [] => none

/-- A text whose escapes are replaced, and whether one of them ends all printing. -/
def echoText : Nat → List Char → List Char × Bool
  | 0, cs => (cs, false)
  | n + 1, cs =>
    match cs with
    | [] => ([], false)
    | '\\' :: 'c' :: _ => ([], true)
    | '\\' :: rest =>
      match echoEscape? rest with
      | some (c, rest) => (echoText n rest).map (c :: ·) id
      | none => (echoText n rest).map ('\\' :: ·) id
    | c :: rest => (echoText n rest).map (c :: ·) id

/-- Whether an argument is made of flags. -/
def isEchoFlags (argument : String) : Bool :=
  match argument.toList with
  | '-' :: c :: cs => (c :: cs).all "neE".toList.contains
  | _ => false

/-- Prints its arguments. -/
def echo : Utility := fun name arguments => printing name 1 do
  let flags := ((arguments.takeWhile isEchoFlags).map fun a => a.toList.drop 1).flatten
  let text := String.intercalate " " (arguments.dropWhile isEchoFlags)
  let isEscaped := (flags.filter (· ≠ 'n')).getLast? = some 'e'
  let (cs, isEnded) := if isEscaped then echoText (text.length + 1) text.toList
    else (text.toList, false)
  Printer.put (String.ofList cs ++ if flags.contains 'n' || isEnded then "" else "\n")
  return 0

/-- Prints a line again and again. -/
def repeatLine (name : String) (bytes : ByteArray) : Nat → Routine Nat
  | 0 => pure 0
  | n + 1 => do
    match ← Routine.writeAll Fd.standardOutput bytes with
    | .error e =>
      report name "standard output" e
      return 1
    | .ok () => repeatLine name bytes n

/-- Prints its arguments again and again. -/
def yes : Utility := fun name arguments => do
  let line := (if arguments.isEmpty then "y" else String.intercalate " " arguments) ++ "\n"
  let block := String.join (List.replicate (8192 / line.length + 1) line)
  repeatLine name (Text.octetArray block) Routine.rounds

/-! ### Formats -/

/-- How far a format is printed. -/
structure Progress where
  arguments : List String
  status : Nat := 0

/-- Printing by a format, which may end with a status before its time. -/
abbrev Formatting := ExceptT Nat (StateT Progress Printer)

namespace Formatting

/-- Prints a text. -/
def put (text : String) : Formatting Unit := ExceptT.lift (StateT.lift (Printer.put text))

/-- The next argument. -/
def argument? : Formatting (Option String) := do
  let p ← get
  set { p with arguments := p.arguments.drop 1 }
  return p.arguments.head?

/-- Complains and goes on. -/
def warn (name text : String) : Formatting Unit :=
  ExceptT.lift (StateT.lift (Printer.complain s!"{name}: {text}\n"))

/-- Complains and ends. -/
def fail {α : Type} (name text : String) : Formatting α := do
  warn name text
  throw 1

/-- Complains about a number and goes on. -/
def complain (name text problem : String) : Formatting Unit := do
  modify fun p => { p with status := 1 }
  warn name s!"{Quoting.plain text}: {problem}"

/-- The octet that an argument with a quotation mark stands for. -/
def quoted? (name text : String) : Formatting (Option Nat) := do
  match text.toList with
  | mark :: c :: rest =>
    if mark = '\'' || mark = '"' then
      unless rest.isEmpty do
        let problem := "character(s) following character constant have been ignored"
        warn name s!"warning: {String.ofList rest}: {problem}"
      return some c.toNat
    else return none
  | _ => return none

/-- Complains about what follows a number. -/
def checkRest (name text : String) (isNumber isLarge : Bool) (rest : List Char) :
    Formatting Unit := do
  if isLarge then complain name text "Numerical result out of range"
  else if !rest.isEmpty then
    complain name text
      (if isNumber then "value not completely converted" else "expected a numeric value")

/-- An argument as an integer. -/
def integer (name text : String) (hasSign : Bool) : Formatting Int := do
  match ← quoted? name text with
  | some n => return n
  | none =>
    let found := Text.integer? text.toList
    let (n, rest) := found.getD (0, text.toList)
    let least : Int := if hasSign then -(Nat.pow 2 63) else -(Nat.pow 2 64 - 1)
    let greatest : Int := if hasSign then Nat.pow 2 63 - 1 else Nat.pow 2 64 - 1
    checkRest name text found.isSome (n < least || n > greatest) rest
    return if n > greatest then greatest
      else if n < least then if hasSign then least else greatest
      else n

/-- The number of bits of a real number. -/
def realBits : Nat := 64

/-- An argument as a real number. -/
def real (name text : String) : Formatting Text.Real := do
  match ← quoted? name text with
  | some n => return .ofInt n
  | none =>
    let found := Text.real? text.toList
    let (r, rest) := found.getD (Text.Real.zero, text.toList)
    checkRest name text found.isSome false rest
    return r.rounded realBits

/-- The octets of an escape after the backslash, and what follows it; nothing if it ends all
printing.  A zero may come first in an octal number of three more digits if `zeroFirst`. -/
def escape (name : String) (zeroFirst : Bool) (cs : List Char) :
    Formatting (Option (List Char × List Char)) := do
  let digits := match cs with
    | '0' :: rest => if zeroFirst then rest else cs
    | cs => cs
  match cs with
  | 'c' :: _ => return none
  | '"' :: rest => return some (['"'], rest)
  | 'x' :: rest =>
    match Text.code? 16 2 rest with
    | some (c, rest) => return some ([c], rest)
    | none => fail name "missing hexadecimal number in escape"
  | c :: rest =>
    if Text.isOctal c then
      let (d, rest) := (Text.code? 8 3 digits).getD ('\x00', digits)
      return some ([d], rest)
    else if c = 'u' || c = 'U' then
      let count := if c = 'u' then 4 else 8
      let code := Text.digits 16 (rest.take count)
      if code.length < count then fail name "missing hexadecimal number in escape"
      let n := Text.value 16 code
      let rest := rest.drop count
      if n < 0xa0 && !(['$', '@', '\x60'].contains (Char.ofNat n)) then
        fail name s!"invalid universal character name \\{c}{String.ofList code}"
      else if n < 128 then return some ([Char.ofNat n], rest)
      else
        let width := if n < 0x10000 then 4 else 8
        let shown := (Machine.hexadecimal width n).toUpper.toList
        return some ('\\' :: (if n < 0x10000 then 'u' else 'U') :: shown, rest)
    else
      match Text.escaped? c with
      | some d => return some ([d], rest)
      | none => return some (['\\', c], rest)
  | [] => return some (['\\'], [])

/-- Prints a text whose escapes are replaced. -/
def escaped (name : String) : Nat → List Char → Formatting Unit
  | 0, _ => pure ()
  | n + 1, cs => do
    match cs with
    | [] => pure ()
    | '\\' :: rest =>
      match ← escape name true rest with
      | none => throw 0
      | some (text, rest) =>
        put (String.ofList text)
        escaped name n rest
    | c :: rest =>
      put c.toString
      escaped name n rest

/-- The conversions that a flag does not go with. -/
def excluded (flag : Char) : List Char :=
  match flag with
  | '\'' | 'I' => "aAceEosxX".toList
  | '#' => "cdisu".toList
  | '0' => "cs".toList
  | _ => []

/-- Reads a width or a precision. -/
def measure (name : String) (isWidth : Bool) (cs : List Char) : Formatting (Int × List Char) := do
  match Conversion.measure cs with
  | (.fixed n, rest) => return (n, rest)
  | (.argument, rest) =>
    match ← argument? with
    | none => return (0, rest)
    | some text =>
      let n ← integer name text true
      if n ≥ Nat.pow 2 31 || (isWidth && n < -(Nat.pow 2 31)) then
        let what := if isWidth then "field width" else "precision"
        fail name s!"invalid {what}: {Quoting.plain text}"
      return (n, rest)

/-- Prints the next argument by a conversion. -/
def convert (name : String) (c : Conversion) : Formatting Unit := do
  let argument := (← argument?).getD ""
  match c.letter with
  | 'c' => put (c.padded [(argument.toList.head?).getD '\x00'])
  | 's' => put (c.text argument)
  | 'd' | 'i' => put (c.integer (← integer name argument true))
  | 'o' | 'u' | 'x' | 'X' => put (c.integer (← integer name argument false))
  | _ => put (c.real 4 (← real name argument))

/-- Prints the next argument by the conversion at the beginning of some characters; what follows
it. -/
def directive (name : String) (cs : List Char) : Formatting (List Char) := do
  let (flags, after) := Conversion.flagsOf "'-+ #0I" cs
  let (width, after) ← measure name true after
  let c := ({ flags } : Conversion).withWidth width
  let (c, isPrecise, after) ← match after with
    | '.' :: after => do
      let (n, after) ← measure name false after
      pure (c.withPrecision n, true, after)
    | after => pure (c, false, after)
  let after := after.dropWhile "lLhjtz".toList.contains
  let letter := after.headD '\x00'
  let isWrong := !"aAcdeEfFgGiosuxX".toList.contains letter || (isPrecise && letter = 'c') ||
    flags.any fun flag => (excluded flag).contains letter
  if isWrong then
    let source := cs.take (cs.length - after.length + 1)
    fail name s!"%{String.ofList source}: invalid conversion specification"
  convert name { c with letter }
  return after.drop 1

/-- Prints arguments by a format once. -/
def once (name : String) : Nat → List Char → Formatting Unit
  | 0, _ => pure ()
  | n + 1, cs => do
    match cs with
    | [] => pure ()
    | '\\' :: rest =>
      match ← escape name false rest with
      | none => throw 0
      | some (text, rest) =>
        put (String.ofList text)
        once name n rest
    | '%' :: '%' :: rest =>
      put "%"
      once name n rest
    | '%' :: 'b' :: rest =>
      let text := ((← argument?).getD "").toList
      escaped name (text.length + 1) text
      once name n rest
    | '%' :: 'q' :: rest =>
      if let some text ← argument? then put (Quoting.name text)
      once name n rest
    | '%' :: rest =>
      let rest ← directive name rest
      once name n rest
    | c :: rest =>
      put c.toString
      once name n rest

/-- Prints arguments by a format, again as long as arguments are left. -/
def repeated (name : String) (cs : List Char) : Nat → Formatting Unit
  | 0 => pure ()
  | n + 1 => do
    let before := (← get).arguments.length
    once name (cs.length + 1) cs
    match (← get).arguments with
    | [] => pure ()
    | next :: others =>
      if others.length + 1 = before then
        warn name s!"warning: ignoring excess arguments, starting with {Quoting.plain next}"
      else repeated name cs n

end Formatting

/-- Prints its arguments by a format. -/
def printf : Utility := fun name arguments =>
  match if arguments.head? = some "--" then arguments.drop 1 else arguments with
  | [] => misuse name "missing operand"
  | template :: rest => printing name 1 do
    let body := Formatting.repeated name template.toList (rest.length + 1)
    let (outcome, progress) ← (body.run).run { arguments := rest }
    return match outcome with
      | .ok () => progress.status
      | .error status => status

end JobControl.Utility
