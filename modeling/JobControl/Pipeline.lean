/-!
# Pipelines

The words of a line read as a pipeline: stages between bars, each a command with its arguments and
at most one file for its input and one for its output.  A last `&` puts the pipeline in the
background; anywhere else it is an argument.

## Main definitions

* `Command`, `Pipeline` — what a line asks for.
* `SyntaxError` — the ways in which words fail to be a pipeline, with their texts.
* `Pipeline.stages c ts` — the commands of `ts`, the first of which continues `c`.
* `Pipeline.ofTokens ts` — the pipeline that the words `ts` spell.
-/

namespace JobControl

/-- A program with its arguments, and the files that replace its input and output. -/
structure Command where
  argv : List String := []
  input : Option String := none
  output : Option String := none
  deriving DecidableEq

/-- The commands of a line, and whether the shell waits for them. -/
structure Pipeline where
  commands : List Command
  background : Bool
  deriving DecidableEq

/-- Why a list of words is no pipeline. -/
inductive SyntaxError
  /-- The words end after a redirection. -/
  | missingTarget (operator : String)
  /-- An operator stands where the file of a redirection should. -/
  | unexpectedOperator (operator found : String)
  /-- A stage names no program. -/
  | emptyStage
  deriving DecidableEq

namespace SyntaxError

/-- The text shown for a line that is no pipeline. -/
def message : SyntaxError → String
  | missingTarget operator => s!"syntax error: expected a file name after '{operator}'"
  | unexpectedOperator operator found =>
    s!"syntax error: unexpected '{found}' after '{operator}'"
  | emptyStage => "syntax error: empty command"

end SyntaxError

/-- The two redirections. -/
inductive Redirection
  | input
  | output
  deriving DecidableEq

namespace Redirection

/-- The redirection that a word announces. -/
def ofToken? (token : String) : Option Redirection :=
  if token = "<" then some input else if token = ">" then some output else none

end Redirection

namespace Command

/-- The program that a command names. -/
def name? (c : Command) : Option String := c.argv.head?

/-- The command with one more argument. -/
def push (c : Command) (argument : String) : Command := { c with argv := c.argv ++ [argument] }

/-- The command with a file in place of its input or output; the last one named counts. -/
def redirect (c : Command) (path : String) : Redirection → Command
  | .input => { c with input := some path }
  | .output => { c with output := some path }

/-- A command that names a program. -/
def complete (c : Command) : Except SyntaxError Command :=
  if c.argv.isEmpty then .error .emptyStage else .ok c

end Command

namespace Pipeline

/-- Whether a word stands for itself in no place: a bar or a redirection. -/
def isOperator (token : String) : Bool := token = "|" || token = "<" || token = ">"

/-- The commands that `tokens` spell, the first of which continues `command`. -/
def stages (command : Command) : List String → Except SyntaxError (List Command)
  | [] => do
    let command ← command.complete
    return [command]
  | token :: rest =>
    if token = "|" then do
      let command ← command.complete
      return command :: (← stages {} rest)
    else
      match Redirection.ofToken? token, rest with
      | none, rest => stages (command.push token) rest
      | some _, [] => .error (.missingTarget token)
      | some r, target :: rest =>
        if isOperator target then .error (.unexpectedOperator token target)
        else stages (command.redirect target r) rest

/-- The words without a last `&`, and whether there was one. -/
def splitBackground (tokens : List String) : List String × Bool :=
  if tokens.getLast? = some "&" then (tokens.dropLast, true) else (tokens, false)

/-- The pipeline that `tokens` spell; one malformed stage rejects them all. -/
def ofTokens (tokens : List String) : Except SyntaxError Pipeline := do
  let (tokens, background) := splitBackground tokens
  return { commands := ← stages {} tokens, background }

end Pipeline
end JobControl
