/-!
# Permissions in texts

How the permissions of files are written: with letters and signs, or with octal digits.

## Main definitions

* `Text.Clause` — a change of permissions for some users.
* `Text.clauses?` — the changes that a text such as `u+w,go=r` asks for.
* `Text.Clause.apply` — permissions after a change.
-/

namespace JobControl.Text

/-- How a change treats the permissions that it names. -/
inductive ClauseSign
  | add
  | remove
  | set
  deriving DecidableEq

/-- A change of permissions for some users: for the owner, the group or others, or for nobody in
particular. -/
structure Clause where
  users : List Char
  sign : ClauseSign
  /-- The letters of the permissions, or of the user whose permissions are taken. -/
  letters : List Char

namespace Clause

/-- The sign that a character is. -/
def sign? : Char → Option ClauseSign
  | '+' => some .add
  | '-' => some .remove
  | '=' => some .set
  | _ => none

/-- The place of the permissions of a user, in bits. -/
def shift : Char → Nat
  | 'u' => 6
  | 'g' => 3
  | _ => 0

/-- The permissions of some users among all. -/
def mask (users : List Char) : Nat :=
  users.foldl (fun bits user => bits ||| if user = 'a' then 0o777 else 7 <<< shift user) 0

/-- The permissions that a letter names, for all users, where `bits` are there already.  Only where
somebody may execute a file, or where it is a directory, a capital counts. -/
def permission (isDirectory : Bool) (bits : Nat) : Char → Nat
  | 'r' => 0o444
  | 'w' => 0o222
  | 'x' => 0o111
  | 'X' => if isDirectory || bits &&& 0o111 ≠ 0 then 0o111 else 0
  | 's' => 0o6000
  | 't' => 0o1000
  | user => ((bits >>> shift user) % 8) * 0o111

/-- The special permissions of some users. -/
def special (users : List Char) : Nat :=
  users.foldl (fun bits user => bits ||| match user with
    | 'u' => 0o4000
    | 'g' => 0o2000
    | 'o' => 0o1000
    | _ => 0o7000) 0

/-- Permissions after a change.  What is named for nobody in particular does not reach the
permissions in `masked`. -/
def apply (isDirectory : Bool) (masked : Nat) (bits : Nat) (c : Clause) : Nat :=
  let named := c.letters.foldl (fun all letter => all ||| permission isDirectory bits letter) 0
  let reach := if c.users.isEmpty then 0o7777 - (masked &&& 0o777)
    else mask c.users ||| special c.users
  let without (n part : Nat) : Nat := n - (n &&& part)
  match c.sign with
  | .add => bits ||| (named &&& reach)
  | .remove => without bits (named &&& reach)
  | .set =>
    let cleared := if c.users.isEmpty then 0o7777 else reach
    let kept := if isDirectory then 0o6000 else 0
    without bits (without cleared kept) ||| (named &&& reach)

end Clause

/-- The changes for some users at the beginning of some characters, and what follows them. -/
def signs? (known : List Char) (users : List Char) :
    Nat → List Char → Option (List Clause × List Char)
  | 0, _ => none
  | n + 1, cs =>
    match cs with
    | [] => some ([], [])
    | c :: rest =>
      match Clause.sign? c with
      | none => some ([], cs)
      | some sign =>
        let copied := rest.takeWhile "ugo".toList.contains
        let letters := if copied.isEmpty then rest.takeWhile known.contains else copied.take 1
        (signs? known users n (rest.drop letters.length)).map
          (.map ({ users, sign, letters } :: ·) id)

/-- The changes that a text asks for, clause by clause; `known` are the letters of permissions. -/
def clausesFrom? (known : List Char) (needsSign : Bool) : Nat → List Char → Option (List Clause)
  | 0, _ => none
  | n + 1, cs =>
    let users := cs.takeWhile "ugoa".toList.contains
    match signs? known users (cs.length + 1) (cs.drop users.length) with
    | none => none
    | some (found, rest) =>
      if found.isEmpty && (needsSign || users.isEmpty) then none
      else
        match rest with
        | [] => some found
        | ',' :: [] => if needsSign then none else some found
        | ',' :: rest => (clausesFrom? known needsSign n rest).map (found ++ ·)
        | _ => none

/-- The changes that a text asks for; `known` are the letters of permissions. -/
def clauses? (known : String) (needsSign : Bool) (text : String) : Option (List Clause) :=
  clausesFrom? known.toList needsSign (text.length + 1) text.toList

end JobControl.Text
