import JobControl.Text.Utf8

/-!
# Settings

The arguments the shell is started with.  Options come first: `-c`, `--command` and `--prompt` take
a value, attached to them or as the next argument that is not an option; `-v`, `--verbose`, `-h`,
`--help`, `-V` and `--version` take none.  One-letter options may share a dash.

## Main definitions

* `Settings` — the line to run, the prompt, whether to log in detail.
* `UsageError` — why arguments are refused, or answered with a text instead of a shell.
* `Settings.ofArguments` — the settings that arguments spell.
-/

namespace JobControl

/-- What the shell is asked to do when it is started. -/
structure Settings where
  /-- A single line to run, in place of those of standard input. -/
  command : Option String
  /-- The text shown before each line on a terminal. -/
  prompt : String
  /-- Whether to log in detail. -/
  verbose : Bool
  deriving DecidableEq

/-- Why arguments do not start a shell. -/
inductive UsageError
  | unknownArgument
  /-- An option lacks its value. -/
  | invalidValue
  /-- An option occurs twice. -/
  | argumentConflict
  /-- An option that takes no value has one. -/
  | tooManyValues
  /-- A value is not a text. -/
  | invalidUtf8
  | displayHelp
  | displayVersion
  deriving DecidableEq

namespace UsageError

/-- Whether a text was asked for. -/
def isRequest : UsageError → Bool
  | displayHelp | displayVersion => true
  | _ => false

/-- The status with which the shell leaves. -/
def exitCode (e : UsageError) : Int := if e.isRequest then 0 else 2

/-- How to start the shell. -/
def usage : String := "Usage: jobsh [OPTIONS]\n"

/-- What is shown in place of a shell. -/
def message : UsageError → String
  | displayVersion => "jobsh 0.1.0\n"
  | displayHelp => "A job-control shell\n\n" ++ usage
  | unknownArgument => "error: unexpected argument\n\n" ++ usage
  | invalidValue => "error: a value is required\n\n" ++ usage
  | argumentConflict => "error: an option cannot be used multiple times\n\n" ++ usage
  | tooManyValues => "error: unexpected value\n\n" ++ usage
  | invalidUtf8 => "error: invalid UTF-8 was detected in one or more arguments\n\n" ++ usage

end UsageError

namespace Settings

/-- The prompt when nothing sets another. -/
def defaultPrompt : String := "jobsh> "

/-- The least level of the log. -/
def logFilter (s : Settings) : String := if s.verbose then "debug" else "warn"

/-- The options. -/
inductive Switch
  | command
  | prompt
  | verbose
  | help
  | version
  deriving DecidableEq

namespace Switch

/-- The option with a long name. -/
def ofLong? (name : String) : Option Switch :=
  [("command", command), ("prompt", prompt), ("verbose", verbose), ("help", help),
    ("version", version)].lookup name

/-- The option with a letter. -/
def ofLetter? (letter : Char) : Option Switch :=
  [('c', command), ('v', verbose), ('h', help), ('V', version)].lookup letter

/-- Whether an option takes a value. -/
def takesValue : Switch → Bool
  | command | prompt => true
  | verbose | help | version => false

end Switch

/-- What has been read of the arguments. -/
structure Reading where
  command : Option String := none
  prompt : Option String := none
  verbose : Bool := false
  /-- The option whose value is the next argument, with that value once it is read. -/
  pending : Option (Switch × Option String) := none

namespace Reading

/-- Records an option that takes a value. -/
def assign (r : Reading) (switch : Switch) (value : String) : Except UsageError Reading :=
  match switch with
  | .command =>
    if r.command.isSome then .error .argumentConflict else .ok { r with command := some value }
  | .prompt =>
    if r.prompt.isSome then .error .argumentConflict else .ok { r with prompt := some value }
  | _ => .ok r

/-- Records the option that waits for its value, which must have been read. -/
def settle (r : Reading) : Except UsageError Reading :=
  match r.pending with
  | none => .ok r
  | some (_, none) => .error .invalidValue
  | some (switch, some value) => { r with pending := none }.assign switch value

/-- Records an option that takes no value. -/
def flag (r : Reading) (switch : Switch) : Except UsageError Reading := do
  let r ← r.settle
  match switch with
  | .help => .error .displayHelp
  | .version => .error .displayVersion
  | _ => if r.verbose then .error .argumentConflict else .ok { r with verbose := true }

/-- Records an option with the value attached to it. -/
def attached (r : Reading) (switch : Switch) (value : String) : Except UsageError Reading := do
  (← r.settle).assign switch value

/-- Leaves an option waiting for its value. -/
def await (r : Reading) (switch : Switch) : Except UsageError Reading := do
  return { ← r.settle with pending := some (switch, none) }

/-- Reads a long option: the characters after its two dashes. -/
def long (r : Reading) (body : List Char) : Except UsageError Reading :=
  let name := String.ofList (body.takeWhile (· ≠ '='))
  match Switch.ofLong? name, body.dropWhile (· ≠ '=') with
  | none, _ => .error .unknownArgument
  | some switch, [] => if switch.takesValue then r.await switch else r.flag switch
  | some switch, _ :: value =>
    if switch.takesValue then r.attached switch (String.ofList value) else .error .tooManyValues

/-- Reads one-letter options: the characters after their dash. -/
def letters (r : Reading) : List Char → Except UsageError Reading
  | [] => .ok r
  | letter :: rest =>
    match Switch.ofLetter? letter with
    | none => .error .unknownArgument
    | some switch =>
      if switch.takesValue then
        match rest with
        | [] => r.await switch
        | '=' :: value => r.attached switch (String.ofList value)
        | value => r.attached switch (String.ofList value)
      else do
        (← r.flag switch).letters rest

/-- Reads an argument that is no option: the value of the option that waits for one. -/
def plain (r : Reading) (argument : String) : Except UsageError Reading :=
  match r.pending with
  | some (switch, none) => .ok { r with pending := some (switch, some argument) }
  | _ => .error .unknownArgument

/-- Reads the arguments in order; none may follow a lone pair of dashes. -/
def arguments (r : Reading) : List String → Except UsageError Reading
  | [] => r.settle
  | argument :: rest =>
    match argument.toList with
    | ['-', '-'] => if rest.isEmpty then r.settle else .error .unknownArgument
    | '-' :: '-' :: body => do (← r.long body).arguments rest
    | '-' :: letter :: body => do (← r.letters (letter :: body)).arguments rest
    | _ => do (← r.plain argument).arguments rest

end Reading

/-- The prompt: the one that the arguments name, else the one of the environment, which has to be a
text. -/
def choosePrompt (named : Option String) (environmentPrompt : Option (List UInt8)) :
    Except UsageError String :=
  match named, environmentPrompt with
  | some prompt, _ => .ok prompt
  | none, some bytes => (Text.ofBytes? bytes).elim (.error .invalidUtf8) .ok
  | none, none => .ok defaultPrompt

/-- The settings that arguments spell, with a prompt from the environment if they name none. -/
def ofArguments (arguments : List String) (environmentPrompt : Option (List UInt8)) :
    Except UsageError Settings := do
  let r ← ({} : Reading).arguments arguments
  let prompt ← choosePrompt r.prompt environmentPrompt
  return { command := r.command, prompt, verbose := r.verbose }

end Settings
end JobControl
