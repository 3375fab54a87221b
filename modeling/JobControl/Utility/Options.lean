/-!
# Options of utilities

The arguments of a utility are options, some of which take a value, and operands.  Options may stand
after operands, up to a pair of dashes.

## Main definitions

* `Options` — the options that a utility knows.
* `Options.Found` — the options and the operands among arguments.
* `Options.read` — finds them.
-/

namespace JobControl

/-- Whether an option takes a value. -/
inductive Need
  | nothing
  /-- Only one that is written together with it. -/
  | optional
  | required
  deriving DecidableEq

/-- The options that a utility knows. -/
structure Options where
  /-- The letters; a colon follows those that take a value, two if it may be left out. -/
  letters : String
  /-- Longer names, each with the option that it stands for. -/
  names : List (String × String × Need) := []
  /-- Whether everything after the first operand is an operand. -/
  isStrict : Bool := false

namespace Options

/-- The options and the operands among arguments. -/
structure Found where
  /-- The options, each with its value. -/
  chosen : List (String × String) := []
  operands : List String := []
  /-- What is wrong with the first option that is wrong. -/
  problem : Option String := none

namespace Found

/-- What is found together with more options before. -/
def adding (options : List (String × String)) (f : Found) : Found :=
  { f with chosen := options ++ f.chosen }

/-- Whether an option is there. -/
def has (f : Found) (option : String) : Bool := f.chosen.any fun entry => entry.1 = option

/-- The value of an option; the last one counts. -/
def value? (f : Found) (option : String) : Option String := f.chosen.reverse.lookup option

/-- The last of some options. -/
def last? (f : Found) (options : List String) : Option String :=
  ((f.chosen.reverse.map (·.1)).filter options.contains).head?

end Found

/-- Whether a letter is an option, and then what it takes. -/
def need? (letter : Char) : List Char → Option Need
  | [] => none
  | c :: ':' :: ':' :: rest => if c = letter then some .optional else need? letter rest
  | c :: ':' :: rest => if c = letter then some .required else need? letter rest
  | c :: rest => if c = letter then some .nothing else need? letter rest

/-- What options say about the argument after them. -/
inductive Next
  | free
  /-- It is the value of an option; the problem is what to say if there is none. -/
  | value (option problem : String)
  /-- One of the options is wrong. -/
  | wrong (problem : String)

/-- The options that letters stand for, and what they say about the next argument. -/
def cluster (o : Options) : List Char → List (String × String) × Next
  | [] => ([], .free)
  | letter :: rest =>
    let option := letter.toString
    match need? letter o.letters.toList with
    | none => ([], .wrong s!"invalid option -- '{letter}'")
    | some .nothing => (o.cluster rest).map ((option, "") :: ·) id
    | some .optional => ([(option, String.ofList rest)], .free)
    | some .required =>
      if rest.isEmpty then ([], .value option s!"option requires an argument -- '{letter}'")
      else ([(option, String.ofList rest)], .free)

/-- The option that a longer name, or the beginning of one, stands for. -/
def named (o : Options) (text : String) : List (String × String) × Next :=
  let name := String.ofList (text.toList.takeWhile (· ≠ '='))
  let value? := if name.length = text.length then none
    else some (String.ofList (text.toList.drop (name.length + 1)))
  let matching := o.names.filter fun entry => entry.1.startsWith name
  let exact := matching.filter fun entry => entry.1 = name
  match if exact.isEmpty then matching else exact with
  | [] => ([], .wrong s!"unrecognized option '--{text}'")
  | (full, option, need) :: others =>
    if others.any fun entry => entry.2.1 ≠ option then
      let all := String.join (matching.map fun entry => s!" '--{entry.1}'")
      ([], .wrong s!"option '--{text}' is ambiguous; possibilities:{all}")
    else
      match need, value? with
      | .nothing, some _ => ([], .wrong s!"option '--{full}' doesn't allow an argument")
      | .required, none => ([], .value option s!"option '--{full}' requires an argument")
      | _, value? => ([(option, value?.getD "")], .free)

/-- The options and the operands among arguments. -/
def read (o : Options) : List String → Found
  | [] => {}
  | argument :: rest =>
    let options? := match argument.toList with
      | ['-', '-'] => some ([], Next.free)
      | '-' :: '-' :: name => some (o.named (String.ofList name))
      | '-' :: letter :: letters => some (o.cluster (letter :: letters))
      | _ => none
    match options? with
    | none =>
      if o.isStrict then { operands := argument :: rest }
      else
        let found := o.read rest
        { found with operands := argument :: found.operands }
    | some (chosen, .free) =>
      if argument = "--" then { operands := rest } else (o.read rest).adding chosen
    | some (chosen, .wrong problem) => { chosen, problem := some problem }
    | some (chosen, .value option problem) =>
      match rest with
      | [] => { chosen, problem := some problem }
      | value :: rest => (o.read rest).adding (chosen ++ [(option, value)])

end Options
end JobControl
