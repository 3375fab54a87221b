import JobControl.Utility.Permissions

/-!
# Listing directories

## Main definitions

* `Listing` — how files are listed.
* `Listing.lines` — files as they are listed.
* `Listing.directory` — lists a directory.
* `Utility.ls` — lists files and directories.
-/

namespace JobControl

/-- A file that is listed. -/
structure ListedFile where
  name : String
  /-- Where it is found. -/
  path : String
  status : FileStatus
  /-- What it says, if it is a symbolic link. -/
  target : String := ""

/-- How files are listed. -/
structure Listing where
  name : String
  /-- Whether names that begin with a dot are listed, and those of the directory itself and the one
  above. -/
  showsHidden : Bool
  showsDots : Bool
  isLong : Bool
  showsOwner : Bool
  showsGroup : Bool
  showsNumbers : Bool
  /-- Whether a character at the end says what a file is; only for directories if
  `marksDirectories`. -/
  marksAll : Bool
  marksDirectories : Bool
  quotes : Bool
  isRecursive : Bool
  /-- Whether directories are listed as other files are. -/
  asFiles : Bool
  /-- Whether symbolic links are followed, or at least those that are operands. -/
  follows : Bool
  followsOperands : Bool
  byTime : Bool
  bySize : Bool
  isUnsorted : Bool
  isReversed : Bool
  betweenCommas : Bool

namespace Listing

/-! ### Files -/

/-- The letter for the kind of a file. -/
def kindLetter (kind : FileKind) : Char :=
  match kind with
  | .regular => '-'
  | .directory => 'd'
  | .symlink => 'l'
  | .fifo => 'p'
  | .device => 'c'

/-- The character at the end of a name that says what a file is. -/
def markOf (l : Listing) (status : FileStatus) : String :=
  if status.kind = .directory then if l.marksAll || l.marksDirectories then "/" else ""
  else if !l.marksAll then ""
  else
    match status.kind with
    | .symlink => "@"
    | .fifo => "|"
    | .regular => if status.mode &&& 0o111 ≠ 0 then "*" else ""
    | _ => ""

/-- A name as it is listed. -/
def shown (l : Listing) (name : String) : String := if l.quotes then "\"" ++ name ++ "\"" else name

/-- Files in the order in which they are listed. -/
def sorted (l : Listing) (files : List ListedFile) : List ListedFile :=
  if l.isUnsorted then files
  else
    let inOrder (a b : ListedFile) : Bool :=
      if l.byTime && a.status.modified ≠ b.status.modified then
        b.status.modified < a.status.modified
      else if l.bySize && a.status.size ≠ b.status.size then b.status.size < a.status.size
      else a.name ≤ b.name
    let files := files.mergeSort inOrder
    if l.isReversed then files.reverse else files

/-- The size of a block, and how many a file takes. -/
def blockSize : Nat := 4096

/-- How many thousands of bytes a file takes. -/
def blocks (status : FileStatus) : Nat :=
  match status.kind with
  | .regular => (status.size + blockSize - 1) / blockSize * (blockSize / 1024)
  | .directory => blockSize / 1024
  | _ => 0

/-- A text with blanks before it, or after it, up to a width. -/
def padded (width : Nat) (isLeft : Bool) (text : String) : String :=
  let blanks := String.ofList (List.replicate (width - text.length) ' ')
  if isLeft then text ++ blanks else blanks ++ text

/-- Whom a file belongs to. -/
def owner (status : FileStatus) : String := if status.isOwn then "user" else "root"

/-- Files at length, one a line. -/
def longLines (l : Listing) (files : List ListedFile) : List String :=
  let width (text : ListedFile → String) : Nat :=
    (files.map fun f => (text f).length).foldl Nat.max 0
  let links (f : ListedFile) : String := toString f.status.links
  let size (f : ListedFile) : String := toString f.status.size
  let people (f : ListedFile) : String := owner f.status
  files.map fun f =>
    let person := padded (width people) true (owner f.status)
    let columns :=
      [(kindLetter f.status.kind).toString ++ Utility.permissionText f.status.mode,
        padded (width links) false (links f)] ++
      (if l.showsOwner then [person] else []) ++ (if l.showsGroup then [person] else []) ++
      [padded (width size) false (size f), "Jan  1 00:00"]
    let arrow := if f.status.kind = .symlink then " -> " ++ f.target else l.markOf f.status
    String.intercalate " " columns ++ " " ++ l.shown f.name ++ arrow

/-- Files as they are listed. -/
def lines (l : Listing) (files : List ListedFile) : String :=
  let files := l.sorted files
  let names := files.map fun f =>
    (if l.showsNumbers then s!"{f.status.ino} " else "") ++ l.shown f.name ++ l.markOf f.status
  if l.isLong then String.join ((l.longLines files).map (· ++ "\n"))
  else if l.betweenCommas then
    if names.isEmpty then "" else String.intercalate ", " names ++ "\n"
  else String.join (names.map (· ++ "\n"))

/-! ### Directories -/

/-- Complains that something cannot be done with a file. -/
def complain (l : Listing) (deed path : String) (e : Errno) : Printer Unit :=
  Printer.complain s!"{l.name}: {deed} {Quoting.always path}: {e.sentence}\n"

/-- What is known about a file. -/
def look (l : Listing) (name path : String) (follow : Bool) :
    Printer (Except Errno ListedFile) := do
  match ← Printer.call (.metadata path (follow || l.follows)) with
  | .error e => return .error e
  | .ok status =>
    if status.kind = .symlink then
      let target := (← Printer.call (.readSymlink path)).toOption.getD ""
      return .ok { name, path, status, target }
    else return .ok { name, path, status }

/-- The files in a directory, and whether all could be found. -/
def lookAll (l : Listing) (path : String) : List String → Printer (List ListedFile × Bool)
  | [] => return ([], true)
  | name :: rest => do
    let inside := if path.endsWith "/" then path ++ name else path ++ "/" ++ name
    let found ← l.look name inside false
    let plain := if l.follows then { l with follows := false } else l
    let (others, all) ← l.lookAll path rest
    match found, ← plain.look name inside false with
    | .ok file, _ => return (file :: others, all)
    | .error e, itself =>
      let isTold :=
        l.isLong || l.marksAll || l.marksDirectories || l.byTime || l.bySize || l.isRecursive
      if isTold then l.complain "cannot access" (if path = "." then name else inside) e
      return (itself.toOption.toList ++ others, all && !isTold)

/-- The names in a directory that are listed. -/
def listed (l : Listing) (names : List String) : List String :=
  (if l.showsDots then [".", ".."] else []) ++
    names.filter fun name => l.showsHidden || !name.startsWith "."

/-- Lists a directory, and those inside it if that is wanted; `isFirst` if nothing is listed before.
The status is `unread` if it cannot be read. -/
def directory (l : Listing) (isNamed isFirst : Bool) (unread : Nat) (path : String) :
    Nat → Printer Nat
  | 0 => return 0
  | depth + 1 => do
    match ← Printer.call (.entries path) with
    | .error e =>
      l.complain "cannot open directory" path e
      return unread
    | .ok names =>
      let (files, all) ← l.lookAll path (l.listed names)
      if isNamed || l.isRecursive then
        Printer.put ((if isFirst then "" else "\n") ++ s!"{l.shown path}:\n")
      if l.isLong then
        Printer.put s!"total {(files.map fun f => blocks f.status).sum}\n"
      Printer.put (l.lines files)
      let status := if all then 0 else 1
      if l.isRecursive then
        let inside := (l.sorted files).filter fun f =>
          f.status.kind = .directory && f.name ≠ "." && f.name ≠ ".."
        let statuses ← inside.mapM fun f => l.directory true false 1 f.path depth
        return statuses.foldl Nat.max status
      else return status

/-- Finds the operands; the status is that of what could not be found. -/
def operands (l : Listing) : List String → Printer (List ListedFile × Nat)
  | [] => return ([], 0)
  | operand :: rest => do
    let keeps := l.asFiles || l.marksAll || l.isLong
    let plain ← l.look operand operand l.followsOperands
    let found ← if keeps then pure plain else do
      match ← l.look operand operand true with
      | .ok followed => pure (if followed.status.kind = .directory then .ok followed else plain)
      | .error _ => pure plain
    match found with
    | .ok file =>
      let (others, status) ← l.operands rest
      return (file :: others, status)
    | .error e =>
      l.complain "cannot access" operand e
      let (others, _) ← l.operands rest
      return (others, 2)

/-- Lists directories one after the other. -/
def directories (l : Listing) (isNamed isFirst : Bool) (status : Nat) :
    List ListedFile → Printer Nat
  | [] => return status
  | f :: rest => do
    let outcome ← l.directory isNamed isFirst 2 f.path Utility.maxDepth
    l.directories isNamed (isFirst && outcome = 2) (Nat.max status outcome) rest

/-- The options of `ls`. -/
def options : Options where
  letters := "aAbBcCdfFgGhHiklLmnopqQrRsStT:uUvw:xX1"
  names := [("all", "a", .nothing), ("almost-all", "A", .nothing), ("directory", "d", .nothing),
    ("classify", "F", .optional), ("recursive", "R", .nothing), ("reverse", "r", .nothing),
    ("inode", "i", .nothing), ("dereference", "L", .nothing),
    ("dereference-command-line", "H", .nothing), ("quote-name", "Q", .nothing),
    ("human-readable", "h", .nothing), ("numeric-uid-gid", "n", .nothing),
    ("no-group", "G", .nothing),
    ("size", "s", .nothing), ("color", "color", .optional), ("format", "format", .required),
    ("sort", "sort", .required)]

/-- How options ask for files to be listed. -/
def ofOptions (name : String) (found : Options.Found) : Listing where
  name := name
  showsHidden := found.has "a" || found.has "A" || found.has "f"
  showsDots := found.last? ["a", "A", "f"] = some "a" || found.last? ["a", "A", "f"] = some "f"
  isLong := found.last? ["l", "n", "g", "o", "1", "m", "C", "x"]
    |>.any ["l", "n", "g", "o", "1"].contains
    |> (· && (found.has "l" || found.has "n" || found.has "g" || found.has "o"))
  showsOwner := !found.has "g"
  showsGroup := !(found.has "o" || found.has "G")
  showsNumbers := found.has "i"
  marksAll := found.last? ["F", "p"] = some "F"
  marksDirectories := found.last? ["F", "p"] = some "p"
  quotes := found.has "Q"
  isRecursive := found.has "R" && !found.has "d"
  asFiles := found.has "d"
  follows := found.has "L"
  followsOperands := found.last? ["H", "L"] = some "H"
  byTime := found.last? ["t", "S", "U", "f"] = some "t"
  bySize := found.last? ["t", "S", "U", "f"] = some "S"
  isUnsorted := found.has "U" || found.has "f"
  isReversed := found.has "r"
  betweenCommas := found.last? ["l", "1", "m", "C", "x"] = some "m"

end Listing

/-- Lists files and directories. -/
def Utility.ls : Utility := fun name arguments =>
  withOptions Listing.options 2 name arguments fun found => printing name 2 do
    let l := Listing.ofOptions name found
    let paths := if found.operands.isEmpty then ["."] else found.operands
    let (all, status) ← l.operands paths
    let (directories, files) := all.partition fun f => f.status.kind = .directory && !l.asFiles
    Printer.put (l.lines files)
    l.directories (1 < paths.length) files.isEmpty status (l.sorted directories)

end JobControl
