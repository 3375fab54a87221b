import JobControl.Script.Reader

/-!
# Scripts from their characters

Words and commands refer to each other: a word may hold a command whose output takes its place.

## Main definitions

* `Reader.unquotedWord`, `Reader.quotedWord`, `Reader.arithmetic` — the parts of a word.
* `Reader.token` — the next token.
* `Reader.list`, `Reader.command` — commands.
* `Reading.unit` — the commands up to the end of a line.
-/

namespace JobControl

namespace Reader

/-- Whether a character ends a word that is not quoted. -/
def isMeta (c : Char) : Bool := " \t\n;&|<>()".toList.contains c

/-- Whether a character alone names a parameter. -/
def isSpecial (c : Char) : Bool := "!@#$*?-".toList.contains c || c.isDigit

/-- A word with a text in front. -/
def addText (content : String) (quoted : Bool) : Word → Word
  | .text following quoted' :: rest =>
    if quoted = quoted' then .text (content ++ following) quoted :: rest
    else .text content quoted :: .text following quoted' :: rest
  | word => .text content quoted :: word

/-- Whether some of a word is quoted. -/
def isQuoted (w : Word) : Bool :=
  w.any fun
    | .mark | .text _ true => true
    | _ => false

/-- The words that are reserved. -/
def reserved : List String :=
  ["!", "case", "do", "done", "elif", "else", "esac", "fi", "for", "if", "in", "then", "until",
    "while", "\x7b", "\x7d"]

/-- The tokens that end a list of commands inside another command. -/
def closers : List String :=
  [")", ";;", "do", "done", "elif", "else", "esac", "fi", "then", "\x7d", "in"]

/-- The commands whose names no function can have. -/
def special : List String :=
  [".", ":", "break", "continue", "eval", "exec", "exit", "export", "readonly", "return", "set",
    "shift", "times", "trap", "unset"]

/-- Reads a token again. -/
def push (t : Token) : Reader Unit := modify fun r => { r with pushed := some t }

/-- Sets what the next word may be. -/
def allow (reserved asAlias lines : Bool) : Reader Unit := modify fun r =>
  { r with mayBeReserved := reserved, mayBeAlias := asAlias, skipsLines := lines }

/-- A name that is an alias is read as what the alias stands for. -/
def enterAlias (name value : String) : Reader Unit := modify fun r =>
  { r with
    rest := glyphs value.toList ++ .endOfAlias name value :: r.rest
    active := name :: r.active }

/-- Whether a word is an assignment: a name and an equals sign come first. -/
def isAssignment : Word → Bool
  | .text content false :: _ =>
    let name := content.toList.takeWhile isName
    name.head?.any isNameStart && (content.toList.drop name.length).head? = some '='
  | _ => false

/-- A command that is not waited for. -/
def inBackground : Script → Script
  | .pipeline _ stages => .pipeline true stages
  | .redirected line body redirects => .background line body redirects
  | script => .background 0 script []

/-- What a backslash and the character after it stand for in a quoted word. -/
def escaped (inBraces isDocument : Bool) : Reader String := do
  match ← next with
  | none => return "\\"
  | some '\n' => return ""
  | some c =>
    let counts := "\\`$".toList.contains c || (c = '"' && (!isDocument || inBraces))
      || (c = '\x7d' && inBraces)
    return if counts then c.toString else String.ofList ['\\', c]

/-- A redirection of input. -/
def inputToken (fd : Nat) : Reader Token := do
  drop
  match ← peekJoined with
  | some '<' =>
    drop
    let stripTabs := (← peekJoined) = some '-'
    if stripTabs then drop
    return .document fd stripTabs
  | some '&' =>
    drop
    return .redirection (.copy fd)
  | some '>' =>
    drop
    return .redirection (.file fd .update)
  | _ => return .redirection (.file fd .input)

/-- A redirection of output. -/
def outputToken (fd : Nat) : Reader Token := do
  drop
  match ← peekJoined with
  | some '>' =>
    drop
    return .redirection (.file fd .append)
  | some '|' =>
    drop
    return .redirection (.file fd (.output true))
  | some '&' =>
    drop
    return .redirection (.copy fd)
  | _ => return .redirection (.file fd (.output false))

/-! ### Texts in the script -/

/-- The characters up to the end of the line, and whether the script ends there. -/
def lineText : Nat → Reader (List Char × Bool)
  | 0 => return ([], true)
  | n + 1 => do
    match ← next with
    | none => return ([], true)
    | some '\n' => return ([], false)
    | some c => return (← lineText n).map (c :: ·) id

/-- A line of a text in the script; lines that end with a backslash are joined unless nothing is
replaced in the text. -/
def documentLine (joins : Bool) : Nat → Reader (List Char × Bool)
  | 0 => return ([], true)
  | n + 1 => do
    let (text, ended) ← lineText rounds
    let backslashes := (text.reverse.takeWhile (· = '\\')).length
    if joins && !ended && backslashes % 2 = 1 then
      return (← documentLine joins n).map (text.dropLast ++ ·) id
    else return (text, ended)

/-- The lines of a text in the script, up to the line that ends it. -/
def documentText (d : PendingDocument) : Nat → Reader (List Char)
  | 0 => return []
  | n + 1 => do
    if (← peek).isNone then return []
    let (text, ended) ← documentLine (!d.isQuoted) rounds
    let text := if d.stripTabs then text.dropWhile (· = '\t') else text
    if String.ofList text = d.ending then return []
    else if ended then return text
    else return text ++ '\n' :: (← documentText d n)

/-! ### Words and commands -/

mutual

/-- The parts of a word that is not quoted, up to the character that ends it, which stays, or up to
the brace that closes it. -/
def unquotedWord (inBraces : Bool) : Nat → Reader Word
  | 0 => return []
  | n + 1 => do
    match ← peekJoined with
    | none => if inBraces then fail "Missing '\x7d'" else return []
    | some c =>
      if !inBraces && isMeta c then return []
      drop
      match c with
      | '\x7d' =>
        if inBraces then return [] else return addText "\x7d" false (← unquotedWord inBraces n)
      | '\\' =>
        let d := ((← next).getD '\\').toString
        return addText d true (← unquotedWord inBraces n)
      | '\'' =>
        let text ← upTo '\'' "Unterminated quoted string" rounds
        let rest ← unquotedWord inBraces n
        return .mark :: addText (String.ofList text) true (.mark :: rest)
      | '"' =>
        let quoted ← quotedWord false false false n
        return .mark :: quoted ++ .mark :: (← unquotedWord inBraces n)
      | '$' => return .cons (← dollar false n) (← unquotedWord inBraces n)
      | '`' => return .cons (← backquote false n) (← unquotedWord inBraces n)
      | c => return addText c.toString false (← unquotedWord inBraces n)
termination_by structural n => n

/-- The parts of a quoted word, up to the mark or the brace that closes it.  Inside braces, marks
only say whether a brace counts; in a text of the script they stand for themselves. -/
def quotedWord (inBraces isMarked isDocument : Bool) : Nat → Reader Word
  | 0 => return []
  | n + 1 => do
    match ← next with
    | none =>
      if !isDocument then fail "Unterminated quoted string"
      else if inBraces then fail "Missing '\x7d'"
      else return []
    | some '"' =>
      if inBraces then return .mark :: (← quotedWord inBraces (!isMarked) isDocument n)
      else if isDocument then return addText "\"" true (← quotedWord inBraces isMarked isDocument n)
      else return []
    | some '\x7d' =>
      if inBraces && !isMarked then return []
      else return addText "\x7d" true (← quotedWord inBraces isMarked isDocument n)
    | some '\\' =>
      let text ← escaped inBraces isDocument
      return addText text true (← quotedWord inBraces isMarked isDocument n)
    | some '$' =>
      return .cons (← dollar true n) (← quotedWord inBraces isMarked isDocument n)
    | some '`' =>
      return .cons (← backquote true n) (← quotedWord inBraces isMarked isDocument n)
    | some c => return addText c.toString true (← quotedWord inBraces isMarked isDocument n)
termination_by structural n => n

/-- The parts of an expression, up to the brackets that close it. -/
def arithmetic (depth : Nat) : Nat → Reader Word
  | 0 => return []
  | n + 1 => do
    match ← next with
    | none => fail "Missing '))'"
    | some '(' => return addText "(" true (← arithmetic (depth + 1) n)
    | some ')' =>
      if depth ≠ 0 then return addText ")" true (← arithmetic (depth - 1) n)
      else if (← peekJoined) = some ')' then
        drop
        return []
      else return addText ")" true (← arithmetic depth n)
    | some '\\' =>
      let text ← escaped false false
      return addText text true (← arithmetic depth n)
    | some '$' => return .cons (← dollar true n) (← arithmetic depth n)
    | some '`' => return .cons (← backquote true n) (← arithmetic depth n)
    | some c => return addText c.toString true (← arithmetic depth n)
termination_by structural n => n

/-- What a dollar sign introduces. -/
def dollar (quoted : Bool) : Nat → Reader Piece
  | 0 => return .mark
  | n + 1 => do
    let plain (name : String) : Piece := .parameter name .none quoted
    match ← peekJoined with
    | some '(' =>
      drop
      if (← peekJoined) = some '(' then
        drop
        return .arithmetic (← arithmetic 0 n) quoted
      else
        let script ← inside n
        unless (← token n).isSymbol ")" do unexpected (some (.symbol ")"))
        return .command script quoted
    | some '\x7b' =>
      drop
      braced quoted n
    | some c =>
      if isNameStart c then return plain (String.ofList (← takeWhile isName rounds))
      else if isSpecial c then
        drop
        return plain c.toString
      else return .text "$" quoted
    | none => return .text "$" quoted
termination_by structural n => n

/-- The commands between brackets or backquotes.  Texts in the script that belong to commands
outside come later. -/
def inside : Nat → Reader (Option Script)
  | 0 => return none
  | n + 1 => do
    let outside := (← get).pending
    modify fun r => { r with pending := [] }
    let script ← list true true n
    modify fun r => { r with pending := outside }
    return script
termination_by structural n => n

/-- What is between two backquotes. -/
def backquote (quoted : Bool) : Nat → Reader Piece
  | 0 => return .mark
  | n + 1 => do
    let text ← backquoted quoted rounds
    let outside ← get
    set { outside with rest := glyphs text, isAll := true, pushed := none, line := 1 }
    let script ← list true true n
    modify fun r => { outside with documents := r.documents, nextDocument := r.nextDocument }
    return .command script quoted
termination_by structural n => n

/-- The characters between two backquotes, without the backslashes that quote. -/
def backquoted (quoted : Bool) : Nat → Reader (List Char)
  | 0 => return []
  | n + 1 => do
    match ← next with
    | none => fail "EOF in backquote substitution"
    | some '`' => return []
    | some '\\' =>
      match ← next with
      | none => return '\\' :: (← backquoted quoted n)
      | some '\n' => backquoted quoted n
      | some c =>
        if "\\`$".toList.contains c || (quoted && c = '"') then return c :: (← backquoted quoted n)
        else return '\\' :: c :: (← backquoted quoted n)
    | some c => return c :: (← backquoted quoted n)
termination_by structural n => n

/-- A parameter between braces. -/
def braced (quoted : Bool) : Nat → Reader Piece
  | 0 => return .mark
  | n + 1 => do
    let wrong : Reader Piece := do
      let _ ← operand quoted n
      return .parameter "" .wrong quoted
    let length (name : String) : Reader Piece := do
      if (← peekJoined) = some '\x7d' then
        drop
        return .parameter name .length quoted
      else wrong
    match ← peekJoined with
    | none => wrong
    | some '#' =>
      drop
      match ← peekJoined with
      | none => wrong
      | some d =>
        if d.isDigit then length (String.ofList (← takeWhile Char.isDigit rounds))
        else if isName d then length (String.ofList (← takeWhile isName rounds))
        else
          drop
          let e ← peekJoined
          if d = '\x7d' || e ≠ some '\x7d' then
            unread [d]
            changed "#" quoted n
          else if isSpecial d then length d.toString
          else wrong
    | some c =>
      if isNameStart c then changed (String.ofList (← takeWhile isName rounds)) quoted n
      else if c.isDigit then changed (String.ofList (← takeWhile Char.isDigit rounds)) quoted n
      else if c = '\x7d' then wrong
      else
        drop
        if isSpecial c then changed c.toString quoted n else wrong
termination_by structural n => n

/-- The word of a substitution, up to the brace that closes it. -/
def operand (quoted : Bool) : Nat → Reader Word
  | 0 => return []
  | n + 1 => if quoted then quotedWord true false false n else unquotedWord true n
termination_by structural n => n

/-- A parameter with what is done with its value, up to the brace that closes it. -/
def changed (name : String) (quoted : Bool) : Nat → Reader Piece
  | 0 => return .mark
  | n + 1 => do
    let parameter (change : Change) : Piece := .parameter name change quoted
    let substitute? (c : Option Char) : Option JobControl.Substitute :=
      c.bind fun c =>
        [('-', .default), ('+', .alternative), ('=', .assign), ('?', .complain)].lookup c
    match ← peekJoined with
    | some '\x7d' =>
      drop
      return parameter .none
    | some ':' =>
      drop
      let c ← peekJoined
      if c = some '\x7d' then
        drop
        let _ ← operand quoted n
        return parameter .none
      else
        drop
        let word ← operand quoted n
        match substitute? c with
        | some kind => return parameter (.substitute kind true word)
        | none => return parameter .wrong
    | some c =>
      drop
      if c = '#' || c = '%' then
        let longest := (← peekJoined) = some c
        if longest then drop
        return parameter (.trim (c = '%') longest (← unquotedWord true n))
      else
        let word ← operand quoted n
        match substitute? (some c) with
        | some kind => return parameter (.substitute kind false word)
        | none => return parameter .wrong
    | none =>
      let _ ← operand quoted n
      return parameter .wrong
termination_by structural n => n

/-- The next token, as it is written. -/
def rawToken : Nat → Reader Token
  | 0 => return .endOfFile
  | n + 1 => do
    match ← peekJoined with
    | none => return .endOfFile
    | some c =>
      if c = ' ' || c = '\t' then
        drop
        rawToken n
      else if c = '#' then
        skipTo '\n' rounds
        rawToken n
      else if c = '\n' then
        drop
        return .newline
      else if c = '&' || c = '|' || c = ';' then
        drop
        if (← peekJoined) = some c then
          drop
          return .symbol (String.ofList [c, c])
        else return .symbol c.toString
      else if c = '(' || c = ')' then
        drop
        return .symbol c.toString
      else wordToken n
termination_by structural n => n

/-- The next token, a word or a redirection. -/
def wordToken : Nat → Reader Token
  | 0 => return .endOfFile
  | n + 1 => do
    let word ← if (← get).isEnding then endingWord n else unquotedWord false n
    let c ← peekJoined
    let digits? : Option (Option Nat) := match word with
      | [] => some none
      | [.text content false] =>
        match content.toList with
        | [d] => if d.isDigit then some (some (d.toNat - '0'.toNat)) else none
        | _ => none
      | _ => none
    match c, digits? with
    | some '<', some fd => inputToken (fd.getD 0)
    | some '>', some fd => outputToken (fd.getD 1)
    | _, _ => return .word word (isQuoted word)
termination_by structural n => n

/-- The word that ends a text in the script: nothing in it is replaced. -/
def endingWord : Nat → Reader Word
  | 0 => return []
  | n + 1 => do
    match ← peekJoined with
    | none => return []
    | some c =>
      if isMeta c then return []
      drop
      match c with
      | '\\' =>
        let d := ((← next).getD '\\').toString
        return addText d true (← endingWord n)
      | '\'' =>
        let text ← upTo '\'' "Unterminated quoted string" rounds
        return .mark :: addText (String.ofList text) true (.mark :: (← endingWord n))
      | '"' =>
        let text ← upTo '"' "Unterminated quoted string" rounds
        return .mark :: addText (String.ofList text) true (.mark :: (← endingWord n))
      | c => return addText c.toString false (← endingWord n)
termination_by structural n => n

/-- Reads the texts in the script that belong to the line. -/
def pendingDocuments : Nat → Reader Unit
  | 0 => pure ()
  | n + 1 => do
    match (← get).pending with
    | [] => pure ()
    | d :: rest =>
      modify fun r => { r with pending := rest }
      let line := (← get).line
      let text ← documentText d rounds
      let word ← if d.isQuoted then pure [.text (String.ofList text) true]
        else do
          let outside ← get
          set { outside with rest := glyphs text, isAll := true, pushed := none, line }
          let word ← quotedWord false false true n
          modify fun r => { outside with documents := r.documents, nextDocument := r.nextDocument }
          pure word
      modify fun r => { r with documents := (d.number, ⟨word⟩) :: r.documents }
      pendingDocuments n
termination_by structural n => n

/-- The next token, line ends being passed over if they may. -/
def lineToken (skips : Bool) : Nat → Reader Token
  | 0 => return .endOfFile
  | n + 1 => do
    let pushed := (← get).pushed
    modify fun r => { r with pushed := none }
    let t ← match pushed with
      | some t => pure t
      | none => rawToken n
    match t with
    | .newline =>
      if skips then
        pendingDocuments n
        lineToken skips n
      else return t
    | t => return t
termination_by structural n => n

/-- The next token: a word may turn out to be reserved, or an alias. -/
def tokenFrom (reserved asAlias skips : Bool) : Nat → Reader Token
  | 0 => return .endOfFile
  | n + 1 => do
    let t ← lineToken skips n
    let r ← get
    let reserved := reserved || r.mayBeReserved
    let asAlias := asAlias || r.mayBeAlias
    set { r with
      mayBeReserved := false, mayBeAlias := false, skipsLines := false, isEnding := false }
    match t with
    | .word word false =>
      match word.literal? with
      | none => return t
      | some text =>
        if reserved && Reader.reserved.contains text then return .symbol text
        else
          match asAlias, r.aliases.lookup text with
          | true, some value =>
            if r.active.contains text then return t
            else
              enterAlias text value
              tokenFrom reserved asAlias skips n
          | _, _ => return t
    | t => return t
termination_by structural n => n

/-- The next token. -/
def token : Nat → Reader Token
  | 0 => return .endOfFile
  | n + 1 => do
    let r ← get
    let t ← tokenFrom r.mayBeReserved r.mayBeAlias r.skipsLines n
    modify fun r => { r with last := t }
    return t
termination_by structural n => n

/-- Commands one after the other, inside another command or up to the end of the line.  Inside
another command they end where something else cannot go on; there may be none of them only if
`mayBeNone`. -/
def list (isInside mayBeNone : Bool) : Nat → Reader (Option Script)
  | 0 => return none
  | n + 1 => listFrom isInside mayBeNone none n
termination_by structural n => n

/-- The commands after some others. -/
def listFrom (isInside mayEnd : Bool) (before : Option Script) : Nat → Reader (Option Script)
  | 0 => return before
  | n + 1 => do
    allow true true isInside
    let t ← token n
    match t with
    | .newline =>
      pendingDocuments n
      return before
    | .endOfFile =>
      pendingDocuments n
      push t
      return before
    | t =>
      push t
      if isInside && mayEnd && closers.any t.isSymbol then return before
      let first ← andOr n
      let t ← token n
      let first := if t.isSymbol "&" then inBackground first else first
      let all := match before with
        | none => first
        | some before => .sequence before first
      match t with
      | .endOfFile =>
        pendingDocuments n
        push t
        return some all
      | .newline =>
        push t
        listFrom isInside true (some all) n
      | t =>
        if t.isSymbol "&" || t.isSymbol ";" then listFrom isInside true (some all) n
        else if !isInside then unexpected none
        else
          push t
          return some all
termination_by structural n => n

/-- Pipelines joined by their success. -/
def andOr : Nat → Reader Script
  | 0 => unexpected none
  | n + 1 => do andOrFrom (← pipeline n) n
termination_by structural n => n

/-- The pipelines joined to one. -/
def andOrFrom (first : Script) : Nat → Reader Script
  | 0 => return first
  | n + 1 => do
    let t ← token n
    if t.isSymbol "&&" || t.isSymbol "||" then
      allow true true true
      let second ← pipeline n
      andOrFrom (if t.isSymbol "&&" then .both first second else .either first second) n
    else
      push t
      return first
termination_by structural n => n

/-- Commands joined by pipes. -/
def pipeline : Nat → Reader Script
  | 0 => unexpected none
  | n + 1 => do
    let t ← token n
    let isNegated := t.isSymbol "!"
    if isNegated then allow true true false else push t
    let first ← command n
    let rest ← stages n
    let whole := if rest.isEmpty then first else .pipeline false (first :: rest)
    return if isNegated then .negated whole else whole
termination_by structural n => n

/-- The commands after a pipe. -/
def stages : Nat → Reader (List Script)
  | 0 => return []
  | n + 1 => do
    let t ← token n
    if t.isSymbol "|" then
      allow true true true
      return .cons (← command n) (← stages n)
    else
      push t
      return []
termination_by structural n => n

/-- Goes past a token. -/
def expect (text : String) : Nat → Reader Unit
  | 0 => unexpected (some (.symbol text))
  | n + 1 => do
    unless (← token n).isSymbol text do unexpected (some (.symbol text))
termination_by structural n => n

/-- Commands in a command around them.  There is none only if nothing follows at all, and then what
has to follow complains. -/
def body : Nat → Reader Script
  | 0 => unexpected none
  | n + 1 => do
    return (← list true false n).getD (.simple 0 [] [] [])
termination_by structural n => n

/-- A command. -/
def command : Nat → Reader Script
  | 0 => unexpected none
  | n + 1 => do
    let t ← token n
    let line := (← get).line
    match t with
    | .symbol "if" =>
      let script ← conditional n
      expect "fi" n
      withRedirects line script n
    | .symbol "while" =>
      let script ← loop false n
      withRedirects line script n
    | .symbol "until" =>
      let script ← loop true n
      withRedirects line script n
    | .symbol "for" =>
      let script ← each line n
      withRedirects line script n
    | .symbol "case" =>
      let script ← choice line n
      withRedirects line script n
    | .symbol "(" =>
      let script ← body n
      expect ")" n
      withRedirects line (.subshell line script []) n
    | .symbol "\x7b" =>
      let script ← body n
      expect "\x7d" n
      withRedirects line script n
    | .word _ _ | .redirection _ | .document _ _ =>
      push t
      simple line true [] [] [] n
    | _ => unexpected none
termination_by structural n => n

/-- The redirections after a command. -/
def withRedirects (line : Nat) (script : Script) : Nat → Reader Script
  | 0 => return script
  | n + 1 => do
    let redirects ← redirects n
    if redirects.isEmpty then return script
    else
      match script with
      | .subshell line inner _ => return .subshell line inner redirects
      | script => return .redirected line script redirects
termination_by structural n => n

/-- Redirections, as long as there are some. -/
def redirects : Nat → Reader (List Redirect)
  | 0 => return []
  | n + 1 => do
    allow true true false
    match ← redirection? n with
    | some redirect => return redirect :: (← redirects n)
    | none => return []
termination_by structural n => n

/-- The redirection that comes next, if there is one. -/
def redirection? : Nat → Reader (Option Redirect)
  | 0 => return none
  | n + 1 => do
    match ← token n with
    | .redirection complete =>
      match ← token n with
      | .word word _ => return some (complete word)
      | _ => unexpected none
    | .document fd stripTabs =>
      modify fun r => { r with isEnding := true }
      match ← token n with
      | .word word isQuoted =>
        let number := (← get).nextDocument
        modify fun r => { r with
          nextDocument := number + 1
          pending := r.pending ++ [{ number, ending := word.unquoted, stripTabs, isQuoted }] }
        return some (.document fd number)
      | _ => unexpected none
    | t =>
      push t
      return none
termination_by structural n => n

/-- The rest of a conditional, after its first word. -/
def conditional : Nat → Reader Script
  | 0 => unexpected none
  | n + 1 => do
    let test ← body n
    expect "then" n
    let success ← body n
    let t ← token n
    if t.isSymbol "elif" then return .conditional test success (some (← conditional n))
    else if t.isSymbol "else" then return .conditional test success (some (← body n))
    else
      push t
      return .conditional test success none
termination_by structural n => n

/-- The rest of a loop with a test. -/
def loop (untilSuccess : Bool) : Nat → Reader Script
  | 0 => unexpected none
  | n + 1 => do
    let test ← body n
    expect "do" n
    let repeated ← body n
    expect "done" n
    return .loop untilSuccess test repeated
termination_by structural n => n

/-- The rest of a loop over words. -/
def each (line : Nat) : Nat → Reader Script
  | 0 => unexpected none
  | n + 1 => do
    match ← token n with
    | .word word false =>
      match word.literal?.filter isGoodName with
      | none => fail "Bad for loop variable"
      | some name =>
        allow true true true
        let t ← token n
        let words ← if t.isSymbol "in" then eachWords n
          else do
            unless t.isSymbol ";" do push t
            pure [Word.allArguments]
        allow true true true
        expect "do" n
        let repeated ← body n
        expect "done" n
        return .each line name words repeated
    | _ => fail "Bad for loop variable"
termination_by structural n => n

/-- The words of a loop, up to the end of the line. -/
def eachWords : Nat → Reader (List Word)
  | 0 => return []
  | n + 1 => do
    match ← token n with
    | .word word _ => return word :: (← eachWords n)
    | .newline => return []
    | t => if t.isSymbol ";" then return [] else unexpected none
termination_by structural n => n

/-- The rest of a choice. -/
def choice (line : Nat) : Nat → Reader Script
  | 0 => unexpected none
  | n + 1 => do
    match ← token n with
    | .word word _ =>
      allow true true true
      expect "in" n
      return .choice line word (← branches n)
    | _ => unexpected (some (.word [] false))
termination_by structural n => n

/-- The branches of a choice. -/
def branches : Nat → Reader (List (List Word × Option Script))
  | 0 => return []
  | n + 1 => do
    allow true false true
    let t ← token n
    if t.isSymbol "esac" then return []
    let patterns ← patterns (if t.isSymbol "(" then none else some t) n
    let script ← list true true n
    allow true false true
    let t ← token n
    if t.isSymbol ";;" then return (patterns, script) :: (← branches n)
    else if t.isSymbol "esac" then return [(patterns, script)]
    else unexpected (some (.symbol ";;"))
termination_by structural n => n

/-- The patterns of a branch, of which the first may have been read. -/
def patterns (first : Option Token) : Nat → Reader (List Word)
  | 0 => return []
  | n + 1 => do
    let t ← match first with
      | some t => pure t
      | none => token n
    let word : Word := match t with
      | .word word _ => word
      | .symbol text => [.text text false]
      | _ => []
    let t ← token n
    if t.isSymbol "|" then return word :: (← patterns none n)
    else if t.isSymbol ")" then return [word]
    else unexpected (some (.symbol ")"))
termination_by structural n => n

/-- A command without a structure of its own, or a function that is defined. -/
def simple (line : Nat) (mayAssign : Bool) (assignments words : List Word)
    (redirects : List Redirect) : Nat → Reader Script
  | 0 => return .simple line assignments words redirects
  | n + 1 => do
    allow false mayAssign false
    match ← token n with
    | .word word _ =>
      if mayAssign && isAssignment word then
        simple line true (assignments ++ [word]) words redirects n
      else simple line false assignments (words ++ [word]) redirects n
    | .redirection complete =>
      match ← token n with
      | .word word _ => simple line mayAssign assignments words (redirects ++ [complete word]) n
      | _ => unexpected none
    | .document fd stripTabs =>
      push (.document fd stripTabs)
      match ← redirection? n with
      | some redirect => simple line mayAssign assignments words (redirects ++ [redirect]) n
      | none => unexpected none
    | t =>
      match words, t.isSymbol "(" && assignments.isEmpty && redirects.isEmpty with
      | [name], true =>
        expect ")" n
        match (if isQuoted name then none else name.literal?).filter fun name =>
            isGoodName name && !special.contains name with
        | none => fail "Bad function name"
        | some name =>
          allow true true true
          let line := (← get).line
          return .define line name (← command n)
      | _, _ =>
        push t
        return .simple line assignments words redirects
termination_by structural n => n

end

end Reader

namespace Reading

/-- How deep the parts of a script of some length can be nested. -/
def depth (r : Reading) : Nat := 100 * r.rest.length + 100000

/-- What comes next in a script: the commands up to the end of a line, or its end. -/
inductive Portion
  | commands (script : Option Script)
  | nothing

/-- The commands up to the end of a line, and the script after them. -/
def unit (r : Reading) : Except Stop (Portion × Reading) :=
  let start := { r with
    pushed := none, active := [], mayBeReserved := false, mayBeAlias := false, isEnding := false
    skipsLines := false, pending := [], documents := [] }
  match (Reader.list false false start.depth).run start with
  | .error e => .error e
  | .ok (script, r) =>
    match script, r.pushed with
    | none, some .endOfFile => .ok (.nothing, r)
    | script, _ => .ok (.commands script, r)

/-- Whether nothing comes after the commands that were read last. -/
def isAtEnd (r : Reading) : Bool :=
  match r.pushed with
  | some .endOfFile => true
  | _ => false

end Reading
end JobControl
