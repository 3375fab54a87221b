import JobControl.Interactive
import JobControl.Proofs.Encoding
import JobControl.Proofs.LineEnds
import JobControl.Proofs.Ownership

/-!
# One line from two sources

The shell is given a line as an argument, or reads it from standard input, where a line feed ends
it.  Bytes of standard input come in chunks, and one chunk may end anywhere, also within a
character.  If standard input is no terminal, the shell runs the same words either way, does the
same to run them and leaves with the same status, as long as the line feed does not belong to a
word.

## Main definitions

* `received events` — the answers to the reads of standard input.
* `Interactive.Supplied chunks events` — standard input brings some chunks, and then ends.
* `Interactive.Detaching opening` — the shell comes to leave every terminal alone.
* `Interactive.given`, `Interactive.fed` — a shell that runs a line which is an argument, and one
  that reads it from standard input.

## Main results

* `run_readLine`, `chunks_of_readLine` — a line is read however its bytes are divided.
* `run_lines`, `fed_of_lines` — standard input brings a line and ends.
* `run_fed`, `fed_of_run` — what a shell does whose standard input brings a line.
* `same_words_same_status` — **a closed line is run alike by both.**
-/

namespace JobControl

open JobControl.Action (run_pure_iff run_bind_iff run_bind_pure_iff run_ask_bind_iff)

/-- The answer to a read of standard input. -/
def Event.input? : Event → Option (Except Errno (List UInt8))
  | ⟨.readInput, answer⟩ => some answer
  | _ => none

/-- The answers to the reads of standard input, in order. -/
def received (events : List Event) : List (Except Errno (List UInt8)) :=
  events.filterMap Event.input?

@[simp] theorem received_append (events more : List Event) :
    received (events ++ more) = received events ++ received more := List.filterMap_append

namespace Interactive

/-- Reads of standard input that bring some chunks. -/
def reads (chunks : List (List UInt8)) : List Event :=
  chunks.map fun bytes => ⟨.readInput, .ok bytes⟩

@[simp] theorem received_reads (chunks : List (List UInt8)) :
    received (reads chunks) = chunks.map .ok := by
  induction chunks with
  | nil => rfl
  | cons bytes chunks ih => exact congrArg (.ok bytes :: ·) ih

/-- Standard input brings some chunks, and then ends. -/
def Supplied (chunks : List (List UInt8)) (events : List Event) : Prop :=
  ∃ ends, received events <+: chunks.map .ok ++ List.replicate ends (.ok [])

/-! ### The bytes of a line -/

variable {line buffer : List UInt8} {chunks : List (List UInt8)} {n rounds : Nat}
  {events : List Event}

theorem splitLine?_eq_none (h : 10 ∉ buffer) : splitLine? buffer = none := by
  induction buffer with
  | nil => rfl
  | cons b bs ih =>
    obtain ⟨other, others⟩ := List.ne_and_not_mem_of_not_mem_cons h
    rw [splitLine?, if_neg (Ne.symm other), ih others]
    rfl

theorem splitLine?_append (h : 10 ∉ line) (rest : List UInt8) :
    splitLine? (line ++ 10 :: rest) = some (line ++ [10], rest) := by
  induction line with
  | nil => rfl
  | cons b bs ih =>
    obtain ⟨other, others⟩ := List.ne_and_not_mem_of_not_mem_cons h
    rw [List.cons_append, splitLine?, if_neg (Ne.symm other), ih others]
    rfl

/-- Before the last chunk there is no line feed. -/
theorem notMem_of_append_chunk {bytes more : List UInt8} (one : 10 ∉ line) (new : bytes ≠ [])
    (parts : buffer ++ (bytes ++ more) = line ++ [10]) : 10 ∉ buffer := by
  have rest : bytes ++ more ≠ [] := List.append_ne_nil_of_left_ne_nil new more
  have before : buffer ++ (bytes ++ more).dropLast = line := by
    rw [← List.dropLast_append_of_ne_nil rest, parts, List.dropLast_concat]
  intro h
  exact one (before ▸ List.mem_append_left _ h)

/-- **A line is read however its bytes are divided.** -/
theorem run_readLine (one : 10 ∉ line) (full : [] ∉ chunks)
    (parts : buffer ++ chunks.flatten = line ++ [10]) (hn : chunks.length < n) :
    (readLine buffer n rounds).Run (reads chunks) (.ok (line ++ [10], [])) := by
  induction chunks generalizing buffer n with
  | nil =>
    obtain ⟨n, rfl⟩ := Nat.exists_eq_succ_of_ne_zero (Nat.ne_of_gt hn)
    rw [List.flatten_nil, List.append_nil] at parts
    rw [readLine, parts, splitLine?_append one]
    exact .done _
  | cons bytes chunks ih =>
    obtain ⟨n, rfl⟩ := Nat.exists_eq_succ_of_ne_zero (Nat.ne_of_gt (Nat.zero_lt_of_lt hn))
    obtain ⟨new, later⟩ := List.ne_and_not_mem_of_not_mem_cons full
    rw [List.flatten_cons] at parts
    rw [readLine, splitLine?_eq_none (notMem_of_append_chunk one (Ne.symm new) parts)]
    rw [← List.append_assoc] at parts
    have others := ih later parts (Nat.lt_of_succ_lt_succ hn)
    refine run_ask_bind_iff.mpr ⟨.ok bytes, reads chunks, rfl, ?_⟩
    cases bytes with
    | nil => exact absurd rfl new
    | cons b bs => exact others

/-- **Nothing else is read before the line.** -/
theorem chunks_of_readLine {result : Except Errno (List UInt8 × List UInt8)}
    {ends : List (Except Errno (List UInt8))} (one : 10 ∉ line) (full : [] ∉ chunks)
    (parts : buffer ++ chunks.flatten = line ++ [10])
    (h : (readLine buffer n rounds).Run events result)
    (supplied : received events <+: chunks.map .ok ++ ends) :
    chunks.length < n ∧ events = reads chunks ∧ result = .ok (line ++ [10], []) := by
  induction chunks generalizing buffer n events with
  | nil =>
    cases n with
    | zero => cases h
    | succ n =>
      rw [List.flatten_nil, List.append_nil] at parts
      rw [readLine, parts, splitLine?_append one] at h
      obtain ⟨rfl, rfl⟩ := run_pure_iff.mp h
      exact ⟨Nat.succ_pos n, rfl, rfl⟩
  | cons bytes chunks ih =>
    cases n with
    | zero => cases h
    | succ n =>
      obtain ⟨new, later⟩ := List.ne_and_not_mem_of_not_mem_cons full
      rw [List.flatten_cons] at parts
      rw [readLine, splitLine?_eq_none (notMem_of_append_chunk one (Ne.symm new) parts)] at h
      rw [← List.append_assoc] at parts
      obtain ⟨answer, rest, rfl, hrest⟩ := run_ask_bind_iff.mp h
      obtain ⟨rfl, others⟩ := List.cons_prefix_cons.mp supplied
      cases bytes with
      | nil => exact absurd rfl new
      | cons b bs =>
        obtain ⟨hn, rfl, rfl⟩ := ih later parts hrest others
        exact ⟨Nat.succ_lt_succ hn, rfl, rfl⟩

/-! ### The lines of standard input -/

variable {prompt : String} {shell shell' : Shell} {status code : Int} {group : Pid}
  {executing opening : List Event} {report : Report}

/-- Standard input ends. -/
theorem run_lines_end (detached : shell.terminal = .detached group) (hn : 0 < n)
    (hrounds : 0 < rounds) :
    (lines prompt shell [] status n rounds).Run [⟨.readInput, .ok []⟩] status := by
  obtain ⟨n, rfl⟩ := Nat.exists_eq_succ_of_ne_zero (Nat.ne_of_gt hn)
  obtain ⟨rounds, rfl⟩ := Nat.exists_eq_succ_of_ne_zero (Nat.ne_of_gt hrounds)
  rw [lines, detached]
  exact .ask (.done _)

theorem end_of_lines (detached : shell.terminal = .detached group)
    (h : (lines prompt shell [] status n rounds).Run events code)
    (ended : ∀ answer ∈ received events, answer = .ok []) :
    events = [⟨.readInput, .ok []⟩] ∧ code = status := by
  cases n with
  | zero => cases h
  | succ n =>
    cases rounds with
    | zero =>
      rw [lines, detached] at h
      cases h
    | succ rounds =>
      rw [lines, detached] at h
      obtain ⟨answer, rest, rfl, hrest⟩ := Dialogue.run_ask_iff.mp h
      obtain rfl := ended answer (List.mem_cons_self ..)
      obtain ⟨rfl, rfl⟩ := Dialogue.run_done_iff.mp hrest
      exact ⟨rfl, rfl⟩

/-- What follows a line: unless the shell leaves, it finds that standard input has ended. -/
def ending : Report → List Event
  | .exit _ => []
  | _ => [⟨.readInput, .ok []⟩]

/-- **Standard input brings a line and ends.** -/
theorem run_lines {text : String} (one : 10 ∉ line) (full : [] ∉ chunks)
    (parts : chunks.flatten = line ++ [10]) (text_eq : Text.ofBytes (line ++ [10]) = text)
    (hrounds : chunks.length < rounds)
    (detached : shell.terminal = .detached group)
    (h : (Line.execute shell (Token.ofLine text) rounds).Run executing (shell', report)) :
    (lines prompt shell [] 0 rounds rounds).Run (reads chunks ++ (executing ++ ending report))
      report.status := by
  have several : chunks ≠ [] := by
    rintro rfl
    exact List.append_ne_nil_of_right_ne_nil line (List.cons_ne_nil 10 []) parts.symm
  obtain ⟨n, rfl⟩ := Nat.exists_eq_succ_of_ne_zero (Nat.ne_of_gt (Nat.zero_lt_of_lt hrounds))
  have more : 0 < n :=
    (List.length_pos_iff.mpr several).trans_le (Nat.le_of_lt_succ hrounds)
  have kept : shell'.terminal = .detached group := (custody_of_execute h).1.trans detached
  have reading : (readLine [] (n + 1) (n + 1)).Run (reads chunks) (.ok (line ++ [10], [])) :=
    run_readLine one full parts hrounds
  have end_run : ∀ status,
      (lines prompt shell' [] status n (n + 1)).Run [⟨.readInput, .ok []⟩] status := fun status =>
    run_lines_end kept more (Nat.succ_pos n)
  -- a detached shell shows no prompt, and reads at once
  rw [lines, detached]
  refine run_bind_iff.mpr ⟨[], _, n + 1, rfl, .done _, ?_⟩
  refine run_bind_iff.mpr ⟨reads chunks, _, _, rfl, reading, ?_⟩
  -- with its line feed even an empty line is not taken for the end of standard input
  obtain ⟨b, bs, hline⟩ := List.exists_cons_of_ne_nil
    (List.append_ne_nil_of_right_ne_nil line (List.cons_ne_nil 10 []))
  rw [hline] at text_eq ⊢
  dsimp only
  rw [text_eq]
  refine run_bind_iff.mpr ⟨executing, ending report, (shell', report), rfl, h, ?_⟩
  cases report with
  | exit code => exact .done _
  | empty | builtin _ | rejected _ | foreground _ | background _ => exact end_run _

/-- **A line that standard input brings before it ends is run, and nothing else is.** -/
theorem fed_of_lines {text : String} (one : 10 ∉ line) (full : [] ∉ chunks)
    (parts : chunks.flatten = line ++ [10]) (text_eq : Text.ofBytes (line ++ [10]) = text)
    (detached : shell.terminal = .detached group)
    (h : (lines prompt shell [] 0 n rounds).Run events code) (supplied : Supplied chunks events) :
    ∃ executing shell' report, events = reads chunks ++ (executing ++ ending report) ∧
      (Line.execute shell (Token.ofLine text) rounds).Run executing (shell', report) ∧
      code = report.status := by
  obtain ⟨ends, supplied⟩ := supplied
  cases n with
  | zero => cases h
  | succ n =>
    rw [lines, detached] at h
    obtain ⟨_, _, _, rfl, ⟨⟩, h⟩ := run_bind_iff.mp h
    obtain ⟨reading, others, result, rfl, hread, hothers⟩ := run_bind_iff.mp h
    simp only [List.nil_append, received_append] at supplied
    obtain ⟨-, rfl, rfl⟩ :=
      chunks_of_readLine one full parts hread ((List.prefix_append _ _).trans supplied)
    rw [received_reads, List.prefix_append_right_inj] at supplied
    obtain ⟨b, bs, hline⟩ := List.exists_cons_of_ne_nil
      (List.append_ne_nil_of_right_ne_nil line (List.cons_ne_nil 10 []))
    rw [hline] at text_eq hothers
    dsimp only at hothers
    rw [text_eq] at hothers
    obtain ⟨executing, last, ⟨shell', report⟩, rfl, hexecute, hlast⟩ := run_bind_iff.mp hothers
    have kept : shell'.terminal = .detached group := (custody_of_execute hexecute).1.trans detached
    -- no chunk is left for what is read after the line
    have ended : ∀ answer ∈ received last, answer = .ok [] := by
      intro answer hanswer
      rw [received_append] at supplied
      exact List.eq_of_mem_replicate (supplied.subset (List.mem_append_right _ hanswer))
    have ends : last = ending report ∧ code = report.status := by
      cases report with
      | exit _ => exact run_pure_iff.mp hlast
      | empty | builtin _ | rejected _ | foreground _ | background _ =>
        exact end_of_lines kept hlast ended
    obtain ⟨rfl, rfl⟩ := ends
    exact ⟨executing, shell', report, rfl, hexecute, rfl⟩

/-! ### Before the first line -/

/-- How the shell comes to leave every terminal alone: standard input is none, or the ends of its
children would not be reported. -/
inductive Detaching : List Event → Prop
  | noTerminal : Detaching [⟨.setDisposition .chld .default, .ok ()⟩, ⟨.isTerminal, false⟩]
  | failed (errno : Errno) :
    Detaching [⟨.setDisposition .chld .default, .error errno⟩, ⟨.log (.noTerminal errno), ()⟩]

/-- Standard input is no terminal. -/
def OffTerminal (events : List Event) : Prop := ⟨.isTerminal, true⟩ ∉ events

theorem run_runInput (detaching : Detaching opening)
    (h : (lines prompt { terminal := .detached group } [] 0 rounds rounds).Run events code) :
    (runInput prompt rounds).Run (opening ++ ⟨.ownGroup, group⟩ :: events) code := by
  cases detaching with
  | noTerminal => exact .ask (.ask (.ask h))
  | failed errno => exact .ask (.ask (.ask h))

theorem detaching_of_run (off : OffTerminal events)
    (h : (runInput prompt rounds).Run events code) :
    ∃ opening group rest, events = opening ++ ⟨.ownGroup, group⟩ :: rest ∧ Detaching opening ∧
      (lines prompt { terminal := .detached group } [] 0 rounds rounds).Run rest code := by
  obtain ⟨answer, others, rfl, hothers⟩ := Dialogue.run_ask_iff.mp h
  cases answer with
  | error errno =>
    obtain ⟨⟨⟩, detaching, rfl, hdetaching⟩ := Dialogue.run_ask_iff.mp hothers
    obtain ⟨group, rest, rfl, hrest⟩ := Dialogue.run_ask_iff.mp hdetaching
    exact ⟨_, group, rest, rfl, .failed errno, hrest⟩
  | ok _ =>
    obtain ⟨terminal, detaching, rfl, hdetaching⟩ := Dialogue.run_ask_iff.mp hothers
    cases terminal with
    | true => exact absurd (List.mem_cons_of_mem _ (List.mem_cons_self ..)) off
    | false =>
      obtain ⟨group, rest, rfl, hrest⟩ := Dialogue.run_ask_iff.mp hdetaching
      exact ⟨_, group, rest, rfl, .noTerminal, hrest⟩

/-! ### Both drivers -/

/-- A shell that leaves every terminal alone runs a line with some words. -/
def Executes (words : List String) (rounds : Nat) (group : Pid) (executing : List Event)
    (report : Report) : Prop :=
  ∃ shell, (Line.execute { terminal := .detached group } words rounds).Run executing (shell, report)

/-- A shell runs a line that is an argument. -/
def given (group : Pid) (executing : List Event) : List Event := ⟨.ownGroup, group⟩ :: executing

/-- A shell runs a line that standard input brings. -/
def fed (opening : List Event) (group : Pid) (chunks : List (List UInt8)) (executing : List Event)
    (report : Report) : List Event :=
  opening ++ ⟨.ownGroup, group⟩ :: (reads chunks ++ (executing ++ ending report))

theorem run_runLine_iff {text : String} :
    (runLine text rounds).Run events code ↔ ∃ group executing report,
      events = given group executing ∧ Executes (Token.ofLine text) rounds group executing report ∧
      code = report.status := by
  constructor
  · intro h
    obtain ⟨group, executing, rfl, hexecuting⟩ := Dialogue.run_ask_iff.mp h
    obtain ⟨⟨shell, report⟩, hexecute, rfl⟩ := run_bind_pure_iff.mp hexecuting
    exact ⟨group, executing, report, rfl, ⟨shell, hexecute⟩, rfl⟩
  · rintro ⟨group, executing, report, rfl, ⟨shell, h⟩, rfl⟩
    exact .ask (run_bind_pure_iff.mpr ⟨_, h, rfl⟩)

variable {text : String}

/-- The bytes of a line that a line feed ends. -/
theorem toBytes_lineFeed (text : String) :
    Text.toBytes (text ++ "\n") = Text.toBytes text ++ [10] := by
  rw [Text.toBytes_append]
  rfl

theorem ofBytes_lineFeed (text : String) :
    Text.ofBytes (Text.toBytes text ++ [10]) = text ++ "\n" := by
  rw [← toBytes_lineFeed, Text.ofBytes_toBytes]

theorem run_fed (one : '\n' ∉ text.toList) (full : [] ∉ chunks)
    (parts : chunks.flatten = Text.toBytes (text ++ "\n")) (hrounds : chunks.length < rounds)
    (detaching : Detaching opening)
    (h : Executes (Token.ofLine (text ++ "\n")) rounds group executing report) :
    (runInput prompt rounds).Run (fed opening group chunks executing report) report.status := by
  obtain ⟨shell, h⟩ := h
  rw [← Text.lineFeed_mem_toBytes_iff] at one
  rw [toBytes_lineFeed] at parts
  exact run_runInput detaching (run_lines one full parts (ofBytes_lineFeed text) hrounds rfl h)

/-- **Standard input that is no terminal and brings a line makes the shell run it.** -/
theorem fed_of_run (one : '\n' ∉ text.toList) (full : [] ∉ chunks)
    (parts : chunks.flatten = Text.toBytes (text ++ "\n"))
    (h : (runInput prompt rounds).Run events code) (off : OffTerminal events)
    (supplied : Supplied chunks events) :
    ∃ opening group executing report, Detaching opening ∧
      events = fed opening group chunks executing report ∧
      Executes (Token.ofLine (text ++ "\n")) rounds group executing report ∧
      code = report.status := by
  obtain ⟨opening, group, rest, rfl, detaching, hlines⟩ := detaching_of_run off h
  rw [← Text.lineFeed_mem_toBytes_iff] at one
  rw [toBytes_lineFeed] at parts
  have unread : received (opening ++ ⟨.ownGroup, group⟩ :: rest) = received rest := by
    cases detaching <;> rfl
  rw [Supplied, unread] at supplied
  obtain ⟨executing, shell, report, rfl, hexecute, rfl⟩ :=
    fed_of_lines one full parts (ofBytes_lineFeed text) rfl hlines supplied
  exact ⟨opening, group, executing, report, detaching, rfl, ⟨shell, hexecute⟩, rfl⟩

/-- **A closed line is run alike by both, and a line feed belongs to the last word of any other.**
The words of a closed line are the same with a line feed at its end and without it.  Whether such a
line, without a line feed in it, is an argument, or standard input brings it in some chunks and
ends: the shell runs these words, does the same to run them, and leaves with the status of the
report. -/
theorem same_words_same_status (line : String) (settings : Settings) :
    (Closed line → Token.ofLine (line ++ "\n") = Token.ofLine line) ∧
    (¬ Closed line → ∃ words last, Token.ofLine line = words ++ [last] ∧
      Token.ofLine (line ++ "\n") = words ++ [last ++ "\n"]) ∧
    (Closed line → '\n' ∉ line.toList → ∀ chunks : List (List UInt8), [] ∉ chunks →
      chunks.flatten = Text.toBytes (line ++ "\n") → ∀ rounds : Nat,
      (∀ events status, (start { settings with command := none } rounds).Run events status →
        OffTerminal events → Supplied chunks events →
        ∃ opening group executing report, Detaching opening ∧
          events = fed opening group chunks executing report ∧
          Executes (Token.ofLine line) rounds group executing report ∧ status = report.status) ∧
      (∀ events status, (start { settings with command := some line } rounds).Run events status →
        ∃ group executing report, events = given group executing ∧
          Executes (Token.ofLine line) rounds group executing report ∧ status = report.status) ∧
      (∀ group executing report, Executes (Token.ofLine line) rounds group executing report →
        (start { settings with command := some line } rounds).Run (given group executing)
          report.status ∧
        (chunks.length < rounds → ∀ opening, Detaching opening →
          (start { settings with command := none } rounds).Run
            (fed opening group chunks executing report) report.status))) := by
  refine ⟨ofLine_lineFeed_of_closed, ofLine_lineFeed_of_open, ?_⟩
  intro closed one chunks full parts rounds
  have same := ofLine_lineFeed_of_closed closed
  refine ⟨fun events status h off supplied => ?_, fun events status h => ?_,
    fun group executing report h => ⟨?_, fun hrounds opening detaching => ?_⟩⟩
  · obtain ⟨opening, group, executing, report, detaching, rfl, hexecutes, rfl⟩ :=
      fed_of_run one full parts h off supplied
    exact ⟨opening, group, executing, report, detaching, rfl, same ▸ hexecutes, rfl⟩
  · exact run_runLine_iff.mp h
  · exact run_runLine_iff.mpr ⟨group, executing, report, rfl, h, rfl⟩
  · rw [← same] at h
    exact run_fed one full parts hrounds detaching h

namespace Sample

def settings : Settings := ⟨none, Settings.defaultPrompt, false⟩

/-- The bytes of a line that makes the shell leave, in two chunks. -/
def leaving : List (List UInt8) := [[101, 120], [105, 116, 32, 51, 10]]

def reading : List Event := [
  ⟨.setDisposition .chld .default, .ok ()⟩, ⟨.isTerminal, false⟩, ⟨.ownGroup, 7⟩,
  ⟨.readInput, .ok [101, 120]⟩, ⟨.readInput, .ok [105, 116, 32, 51, 10]⟩]

theorem flatten_leaving : leaving.flatten = Text.toBytes ("exit 3" ++ "\n") := by decide

theorem executes_leaving : Executes (Token.ofLine "exit 3") 3 7 [] (.exit 3) := by
  have first : Token.split "exit 3".toList = "exit".toList :: Token.split "3".toList :=
    split_word_of_notBlank (by decide) _
  have second : Token.split "3".toList = "3".toList :: Token.split [] :=
    split_word_of_notBlank (by decide) _
  have words : Token.ofLine "exit 3" = ["exit", "3"] := by
    rw [Token.ofLine, first, second, Token.split]
    decide
  refine ⟨{ terminal := .detached 7 }, ?_⟩
  rw [words]
  exact .done _

theorem offTerminal_reading : OffTerminal reading := by
  intro h
  simp [reading] at h

end Sample

/-- The shell leaves with the same status whether it is given the line or reads it, and a quote that
is not closed takes the line feed into the last word. -/
theorem left_with_same_status :
    Token.ofLine ("exit 3" ++ "\n") = Token.ofLine "exit 3" ∧
    (∃ words last, Token.ofLine "echo 'a b" = words ++ [last] ∧
      Token.ofLine ("echo 'a b" ++ "\n") = words ++ [last ++ "\n"]) ∧
    (start { Sample.settings with command := some "exit 3" } 3).Run [⟨.ownGroup, 7⟩] 3 ∧
    (start Sample.settings 3).Run Sample.reading 3 ∧
    (∃ group executing report, [⟨.ownGroup, 7⟩] = given group executing ∧
      Executes (Token.ofLine "exit 3") 3 group executing report ∧ 3 = report.status) ∧
    ∃ opening group executing report, Detaching opening ∧
      Sample.reading = fed opening group Sample.leaving executing report ∧
      Executes (Token.ofLine "exit 3") 3 group executing report ∧ 3 = report.status := by
  have closed : Closed "exit 3" := by decide
  obtain ⟨same, -, drivers⟩ := same_words_same_status "exit 3" Sample.settings
  obtain ⟨fed_of_run, given_of_run, runs⟩ :=
    drivers closed (by decide) Sample.leaving (by decide) Sample.flatten_leaving 3
  obtain ⟨given_run, fed_run⟩ := runs 7 [] (.exit 3) Sample.executes_leaving
  have read : (start Sample.settings 3).Run Sample.reading 3 := fed_run (by decide) _ .noTerminal
  have supplied : Supplied Sample.leaving Sample.reading := ⟨0, List.prefix_refl _⟩
  exact ⟨same closed, (same_words_same_status "echo 'a b" Sample.settings).2.1 (by decide),
    given_run, read, given_of_run _ _ given_run,
    fed_of_run _ _ read Sample.offTerminal_reading supplied⟩

end Interactive
end JobControl
