/-!
# The language of scripts

The commands of the script language, as trees.  All texts are octets.

## Main definitions

* `Piece`, `Word` — a word is a run of texts and substitutions.
* `Change` — what a substitution does with the value of a parameter.
* `Redirect` — a redirection of a descriptor.
* `Script` — a command.
-/

namespace JobControl

/-- When a word stands in for the value of a parameter, and what happens then. -/
inductive Substitute
  /-- The word is used where there is no value. -/
  | default
  /-- The word is used where there is a value. -/
  | alternative
  /-- The word is assigned where there is no value. -/
  | assign
  /-- The word says what is wrong where there is no value. -/
  | complain
  deriving DecidableEq

/-- What a redirection does with its descriptor. -/
inductive RedirectKind
  | input
  /-- For writing; `clobber` if an existing file may always be emptied. -/
  | output (clobber : Bool)
  | append
  | update
  deriving DecidableEq

mutual

/-- A part of a word.  A quoted part is neither split into fields nor matched against file names. -/
inductive Piece
  | text (content : String) (quoted : Bool)
  /-- A quotation mark: even if nothing is quoted, there is something. -/
  | mark
  | parameter (name : String) (change : Change) (quoted : Bool)
  /-- What a script writes on its standard output. -/
  | command (script : Option Script) (quoted : Bool)
  /-- The value of an expression. -/
  | arithmetic (expression : List Piece) (quoted : Bool)

/-- What a substitution does with the value of a parameter. -/
inductive Change
  | none
  | length
  /-- A word stands in for the value; an empty value counts as none if `emptyToo`. -/
  | substitute (kind : Substitute) (emptyToo : Bool) (word : List Piece)
  /-- The value less a part at its beginning or end that has the form of a pattern. -/
  | trim (atEnd longest : Bool) (pattern : List Piece)
  /-- There is no such substitution. -/
  | wrong

/-- A redirection of a descriptor. -/
inductive Redirect
  | file (fd : Nat) (kind : RedirectKind) (name : List Piece)
  /-- A copy of another descriptor, which a word names. -/
  | copy (fd : Nat) (source : List Piece)
  /-- A text in the script, known by its number. -/
  | document (fd : Nat) (number : Nat)

/-- A command of the script language.  The numbers are those of lines. -/
inductive Script
  /-- A command without a structure of its own. -/
  | simple (line : Nat) (assignments : List (List Piece)) (words : List (List Piece))
      (redirects : List Redirect)
  | pipeline (inBackground : Bool) (stages : List Script)
  | negated (command : Script)
  | both (first second : Script)
  | either (first second : Script)
  | sequence (first second : Script)
  | redirected (line : Nat) (body : Script) (redirects : List Redirect)
  /-- Carried out in a process of its own that is not waited for. -/
  | background (line : Nat) (body : Script) (redirects : List Redirect)
  /-- Carried out in a process of its own. -/
  | subshell (line : Nat) (body : Script) (redirects : List Redirect)
  | conditional (test body : Script) (otherwise : Option Script)
  /-- Repeated while the test succeeds, or until it does. -/
  | loop (untilSuccess : Bool) (test body : Script)
  /-- Repeated for each field of some words. -/
  | each (line : Nat) (name : String) (words : List (List Piece)) (body : Script)
  | choice (line : Nat) (word : List Piece) (branches : List (List (List Piece) × Option Script))
  | define (line : Nat) (name : String) (body : Script)

end

/-- A word of a script. -/
abbrev Word := List Piece

namespace Word

/-- The text of a word without substitutions and quotes. -/
def literal? : Word → Option String
  | [] => some ""
  | .text content false :: rest => (literal? rest).map (content ++ ·)
  | _ => none

/-- The text of a word whose quotes are taken off. -/
def unquoted : Word → String
  | [] => ""
  | .text content _ :: rest => content ++ unquoted rest
  | _ :: rest => unquoted rest

/-- All arguments of a script, each as a field of its own. -/
def allArguments : Word := [.parameter "@" .none true]

end Word

/-- A text in a script that a command reads; its substitutions are carried out. -/
structure Document where
  word : Word

end JobControl
