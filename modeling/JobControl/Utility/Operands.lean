import JobControl.Utility.Options
import JobControl.Utility.Output

/-!
# Operands of utilities

How utilities read the files that they are called with.

## Main definitions

* `Utility.withOptions` — a utility whose options are all right.
* `Utility.withInput` — does something with the open file of an operand.
* `Utility.eachPart` — does something with each part of a file.
* `Utility.foldLines` — does something with each line of a file.
-/

namespace JobControl.Utility

open Routine

/-- A utility whose options are all right, each with its value; `wrong` is the status if one is no
option of it.  What is wrong with a value is said first if it comes first. -/
def withValues (options : Options) (wrong : Nat) (check : String → String → Option (Routine Nat))
    (name : String) (arguments : List String) (body : Options.Found → Routine Nat) :
    Routine Nat := do
  let found := options.read arguments
  match found.chosen.findSome? fun (option, value) => check option value, found.problem with
  | some refused, _ => refused
  | none, none => body found
  | none, some problem =>
    let _ ← misuse name problem
    return wrong

/-- A utility whose options are all right; `wrong` is the status if they are not. -/
def withOptions (options : Options) (wrong : Nat) : (name : String) → (arguments : List String) →
    (Options.Found → Routine Nat) → Routine Nat :=
  withValues options wrong fun _ _ => none

/-- The operands, or standard input if there are none. -/
def inputs (operands : List String) : List String := if operands.isEmpty then ["-"] else operands

/-- Does something with the open file of an operand; standard input stands for a dash. -/
def withInput {α : Type} (operand : String) (body : Fd → Printer α) : Printer (Except Errno α) := do
  if operand = "-" then return .ok (← body Fd.standardInput)
  else
    match ← Printer.call (.openFile operand .read 0 true) with
    | .error e => return .error e
    | .ok fd =>
      let value ← body fd
      let _ ← Printer.call (.close fd)
      return .ok value

/-- Opens a file in place of standard input. -/
def openAsInput (path : String) : Routine (Except Errno Unit) := do
  match ← call (.openFile path .read 0 false) with
  | .error e => return .error e
  | .ok fd =>
    if fd ≠ Fd.standardInput then
      let _ ← call (.duplicate fd Fd.standardInput)
      let _ ← call (.close fd)
    return .ok ()

/-- The status after the operands; it is `lost` if standard input is one of them and cannot be
closed. -/
def closingInput (name subject : String) (lost : Nat) (operands : List String) (status : Nat) :
    Routine Nat := do
  if operands.contains "-" then
    if let .error e ← call (.close Fd.standardInput) then
      report name subject e
      return lost
  return status

/-- Does something with each part of a file as it comes, up to the end or until that is enough; why
the file cannot be read. -/
def eachPart {σ : Type} (fd : Fd) (size : Nat) (step : σ → ByteArray → Printer (σ × Bool)) (s : σ) :
    Nat → Printer (σ × Option Errno)
  | 0 => return (s, none)
  | n + 1 => do
    match ← Printer.call (.read fd size) with
    | .error e => return (s, some e)
    | .ok bytes =>
      if bytes.isEmpty then return (s, none)
      else
        let (s, goesOn) ← step s bytes
        if goesOn then eachPart fd size step s n else return (s, none)

/-- A line of a file. -/
structure InputLine where
  text : String
  /-- Whether its end is there. -/
  isEnded : Bool

/-- The complete lines of some octets, and what follows them; `before` comes before the first. -/
def splitLines (isEnd : Char → Bool) (before : List Char) : List Char → List String × List Char
  | [] => ([], before)
  | c :: cs =>
    if isEnd c then (splitLines isEnd [] cs).map (String.ofList before.reverse :: ·) id
    else splitLines isEnd (c :: before) cs

/-- Does something with lines in turn, until that is enough. -/
def eachOf {σ α : Type} (step : σ → α → Printer (σ × Bool)) (s : σ) : List α → Printer (σ × Bool)
  | [] => return (s, true)
  | x :: rest => do
    let (s, goesOn) ← step s x
    if goesOn then eachOf step s rest else return (s, false)

/-- Does something with each line of a file, up to the end or until that is enough; why the file
cannot be read. -/
def foldLines {σ : Type} (fd : Fd) (lineEnd : Char) (step : σ → InputLine → Printer (σ × Bool))
    (s : σ) : Printer (σ × Option Errno) := do
  let part (state : σ × List Char × Bool) (bytes : ByteArray) :
      Printer ((σ × List Char × Bool) × Bool) := do
    let (s, before, _) := state
    let (lines, rest) := splitLines (· = lineEnd) before (Text.ofArray bytes).toList
    let (s, goesOn) ← eachOf step s (lines.map fun text => ⟨text, true⟩)
    return ((s, rest, goesOn), goesOn)
  let ((s, rest, goesOn), failure) ← eachPart fd chunk part (s, [], true) rounds
  if rest.isEmpty || !goesOn then return (s, failure)
  else
    let (s, _) ← step s ⟨String.ofList rest.reverse, false⟩
    return (s, failure)

/-- The lines of some octets. -/
def linesOf (lineEnd : Char) (octets : String) : List InputLine :=
  let (lines, rest) := splitLines (· = lineEnd) [] octets.toList
  lines.map (fun text => ⟨text, true⟩) ++
    if rest.isEmpty then [] else [⟨String.ofList rest.reverse, false⟩]

end JobControl.Utility
