import JobControl.Script.Shell
import JobControl.Utility.Characters
import JobControl.Utility.Copies
import JobControl.Utility.Copying
import JobControl.Utility.Counts
import JobControl.Utility.Creation
import JobControl.Utility.Ends
import JobControl.Utility.Environment
import JobControl.Utility.Fields
import JobControl.Utility.Listing
import JobControl.Utility.Names
import JobControl.Utility.Order
import JobControl.Utility.Permissions
import JobControl.Utility.Printing
import JobControl.Utility.Removal
import JobControl.Utility.Search
import JobControl.Utility.Sequence
import JobControl.Utility.TerminalControl
import JobControl.Utility.Test
import JobControl.Utility.Waiting

/-!
# The programs of the machine

## Main definitions

* `Utility.table` — the utilities by name.
* `Utility.names` — the names of all programs.
* `Utility.programs` — what they do.
-/

namespace JobControl.Utility

/-- The utilities by name. -/
def table : List (String × Utility) :=
  [("true", fun _ _ => return 0), ("false", fun _ _ => return 1),
   ("echo", echo), ("printf", printf), ("yes", yes), ("seq", seq), ("sleep", sleep),
   ("test", test false), ("[", test true), ("basename", basename), ("dirname", dirname),
   ("cat", cat), ("tee", tee), ("head", head), ("tail", tail), ("wc", wc),
   ("grep", grep), ("cut", cut), ("tr", tr), ("sort", sort), ("uniq", uniq),
   ("rm", rm), ("rmdir", rmdir), ("unlink", unlink), ("mkdir", mkdir), ("mkfifo", mkfifo),
   ("touch", touch), ("chmod", chmod), ("cp", cp), ("mv", mv), ("ln", ln), ("ls", ls)]

/-- The utilities that use their environment. -/
def dependent : List (String × (List (String × String) → Utility)) :=
  [("env", env), ("printenv", printenv), ("pwd", pwd), ("stty", stty)]

/-- The program that carries out scripts. -/
def scriptProgram : String := "sh"

/-- The names of all programs. -/
def names : List String := scriptProgram :: table.map (·.1) ++ dependent.map (·.1)

/-- What the programs do, for their arguments and their environment. -/
def programs : Programs := fun program =>
  if program = scriptProgram then some Script.program
  else
    match table.lookup program, dependent.lookup program with
    | some utility, _ => some fun argv _ => utility (argv.headD program) (argv.drop 1)
    | none, some utility =>
      some fun argv environment => utility environment (argv.headD program) (argv.drop 1)
    | none, none => none

end JobControl.Utility
