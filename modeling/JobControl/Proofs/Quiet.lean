import JobControl.Line

/-!
# Requests that concern no job

Most of what the shell asks of the system has nothing to do with the processes it follows: it looks
for programs, opens and closes files, speaks and logs.  Such requests are *ordinary*; those that
leave processes alone and lend no terminal are *quiet*.  A dialogue that can only make requests of
some kind has only events of that kind, whatever the answers are.

Only a loop that the system can keep going uses up its rounds.  To prepare a pipeline there is no
such loop.

## Main definitions

* `Call.isQuiet` — the request starts, awaits and signals no process, and lends no terminal.
* `Call.isOrdinary` — the request changes neither a process nor the terminal, and announces no job.
* `Call.isLookup` — the request asks for a fact about a file or for a variable.
* `Action.Only P a` — every request that `a` can make satisfies `P`.
* `Action.Ends P a` — besides, no answers leave `a` unfinished.

## Main results

* `Action.Only.of_run` — the events of a run are as the action allows.
* `ends_prepare` — preparing a pipeline makes ordinary requests only, and comes to an end.
-/

namespace JobControl

/-- The request starts, awaits and signals no process, and lends no terminal. -/
def Call.isQuiet : Call → Bool
  | .fork _ | .wait _ _ | .signalGroup _ _ | .setTerminalGroup _ => false
  | _ => true

/-- The request looks at files, opens or closes them, asks for a fact, or speaks of something else
than the state of a job: it changes neither a process nor the terminal. -/
def Call.isOrdinary : Call → Bool
  | .fork _ | .wait _ _ | .signalGroup _ _ | .setGroup _ _ | .setDisposition _ _ => false
  | .setTerminalGroup _ | .setModes _ => false
  | .say (.launched _) | .say (.changed _ _) => false
  | _ => true

/-- The request asks for a fact about a file or for a variable. -/
def Call.isLookup : Call → Bool
  | .environment _ | .metadata _ => true
  | _ => false

theorem Call.isOrdinary_of_isLookup {c : Call} (h : c.isLookup = true) : c.isOrdinary = true := by
  cases c with
  | environment _ | metadata _ => rfl
  | _ => cases h

theorem Call.isQuiet_of_isOrdinary {c : Call} (h : c.isOrdinary = true) : c.isQuiet = true := by
  cases c with
  | fork _ | wait _ _ | signalGroup _ _ | setTerminalGroup _ => cases h
  | _ => rfl

/-- Every event is quiet. -/
def Quiet (events : List Event) : Prop := ∀ e ∈ events, e.call.isQuiet = true

@[simp] theorem quiet_nil : Quiet [] := List.forall_mem_nil _

@[simp] theorem quiet_cons {e : Event} {events : List Event} :
    Quiet (e :: events) ↔ e.call.isQuiet = true ∧ Quiet events := by
  simp [Quiet]

@[simp] theorem quiet_append {events more : List Event} :
    Quiet (events ++ more) ↔ Quiet events ∧ Quiet more := by
  simp only [Quiet, List.mem_append]
  exact ⟨fun h => ⟨fun e he => h e (.inl he), fun e he => h e (.inr he)⟩,
    fun h e he => he.elim (h.1 e) (h.2 e)⟩

/-- An event among some events and a last one is the last or among the others. -/
theorem split_of_concat {events before after : List Event} {e last : Event}
    (h : events ++ [last] = before ++ e :: after) :
    (events = before ∧ last = e ∧ after = []) ∨
      ∃ between, events = before ++ e :: between ∧ after = between ++ [last] := by
  rcases List.eq_nil_or_concat after with rfl | ⟨between, final, rfl⟩
  · obtain ⟨hbefore, hlast⟩ := List.append_inj' h rfl
    exact .inl ⟨hbefore, (List.cons.inj hlast).1, rfl⟩
  · rw [List.concat_eq_append] at h ⊢
    rw [← List.cons_append, ← List.append_assoc] at h
    obtain ⟨hevents, hlast⟩ := List.append_inj' h rfl
    obtain rfl := (List.cons.inj hlast).1
    exact .inr ⟨between, hevents, rfl⟩

/-- Every request that a dialogue can make satisfies `P`. -/
inductive Dialogue.Only (P : Call → Prop) {α : Type} : Dialogue α → Prop
  | done (a : α) : Only P (.done a)
  | ask {c : Call} {next : c.Answer → Dialogue α} :
      P c → (∀ answer, Only P (next answer)) → Only P (.ask c next)
  | unfinished : Only P .unfinished

namespace Dialogue

variable {P : Call → Prop} {α β : Type}

theorem Only.bind {d : Dialogue α} {f : α → Dialogue β} (hd : Only P d)
    (hf : ∀ a, Only P (f a)) : Only P (d >>= f) := by
  induction hd with
  | done a => exact hf a
  | ask hc _ ih => exact .ask hc ih
  | unfinished => exact .unfinished

theorem Only.mono {Q : Call → Prop} {d : Dialogue α} (hd : Only P d) (h : ∀ c, P c → Q c) :
    Only Q d := by
  induction hd with
  | done a => exact .done a
  | ask hc _ ih => exact .ask (h _ hc) ih
  | unfinished => exact .unfinished

/-- The events of a run are as the dialogue allows. -/
theorem Only.of_run {d : Dialogue α} {events : List Event} {a : α} (hd : Only P d)
    (h : Run d events a) : ∀ e ∈ events, P e.call := by
  induction h with
  | done _ => simp
  | ask _ ih =>
    cases hd with
    | ask hc hnext =>
      intro e he
      rcases List.mem_cons.mp he with rfl | he
      · exact hc
      · exact ih (hnext _) e he

end Dialogue

/-- Every request that an action can make satisfies `P`. -/
def Action.Only (P : Call → Prop) {α : Type} (a : Action α) : Prop :=
  ∀ rounds, Dialogue.Only P (a rounds)

namespace Action

variable {P : Call → Prop} {α β : Type}

theorem Only.pure (a : α) : Only P (Pure.pure a : Action α) := fun _ => .done a

theorem Only.bind {x : Action α} {f : α → Action β} (hx : Only P x) (hf : ∀ a, Only P (f a)) :
    Only P (x >>= f) := fun rounds => (hx rounds).bind fun a => hf a rounds

theorem Only.ask {c : Call} (hc : P c) : Only P (Action.ask c) := fun _ => .ask hc .done

theorem Only.mono {Q : Call → Prop} {a : Action α} (ha : Only P a) (h : ∀ c, P c → Q c) :
    Only Q a := fun rounds => (ha rounds).mono h

/-- The events of a run are as the action allows. -/
theorem Only.of_run {a : Action α} (h : Only P a) {rounds : Nat} {events : List Event} {value : α}
    (run : Dialogue.Run (a rounds) events value) : ∀ e ∈ events, P e.call :=
  (h rounds).of_run run

end Action

/-! ### Coming to an end -/

/-- Every request that a dialogue can make satisfies `P`, and no answers leave it unfinished. -/
inductive Dialogue.Ends (P : Call → Prop) {α : Type} : Dialogue α → Prop
  | done (a : α) : Ends P (.done a)
  | ask {c : Call} {next : c.Answer → Dialogue α} :
      P c → (∀ answer, Ends P (next answer)) → Ends P (.ask c next)

namespace Dialogue

variable {P : Call → Prop} {α β : Type}

theorem Ends.bind {d : Dialogue α} {f : α → Dialogue β} (hd : Ends P d)
    (hf : ∀ a, Ends P (f a)) : Ends P (d >>= f) := by
  induction hd with
  | done a => exact hf a
  | ask hc _ ih => exact .ask hc ih

theorem Ends.only {d : Dialogue α} (hd : Ends P d) : Only P d := by
  induction hd with
  | done a => exact .done a
  | ask hc _ ih => exact .ask hc ih

theorem Ends.mono {Q : Call → Prop} {d : Dialogue α} (hd : Ends P d) (h : ∀ c, P c → Q c) :
    Ends Q d := by
  induction hd with
  | done a => exact .done a
  | ask hc _ ih => exact .ask (h _ hc) ih

end Dialogue

/-- Every request that an action can make satisfies `P`, and no answers leave it unfinished, however
many rounds there are. -/
def Action.Ends (P : Call → Prop) {α : Type} (a : Action α) : Prop :=
  ∀ rounds, Dialogue.Ends P (a rounds)

namespace Action

variable {P : Call → Prop} {α β : Type}

theorem Ends.pure (a : α) : Ends P (Pure.pure a : Action α) := fun _ => .done a

theorem Ends.bind {x : Action α} {f : α → Action β} (hx : Ends P x) (hf : ∀ a, Ends P (f a)) :
    Ends P (x >>= f) := fun rounds => (hx rounds).bind fun a => hf a rounds

theorem Ends.ask {c : Call} (hc : P c) : Ends P (Action.ask c) := fun _ => .ask hc .done

theorem Ends.only {a : Action α} (h : Ends P a) : Only P a := fun rounds => (h rounds).only

theorem Ends.mono {Q : Call → Prop} {a : Action α} (ha : Ends P a) (h : ∀ c, P c → Q c) :
    Ends Q a := fun rounds => (ha rounds).mono h

/-- Closing descriptors makes no other request. -/
theorem ends_closeAll (closing : ∀ fd, P (.close fd)) : ∀ fds : List Fd, Ends P (closeAll fds)
  | [] => .pure _
  | fd :: fds => .bind (.ask (closing fd)) fun _ => ends_closeAll closing fds

end Action

/-! ### Ordinary actions -/

/-- An action that can only make quiet requests. -/
abbrev Action.IsQuiet {α : Type} (a : Action α) : Prop := a.Only fun c => c.isQuiet = true

/-- An action that can only make ordinary requests. -/
abbrev Action.IsOrdinary {α : Type} (a : Action α) : Prop := a.Only fun c => c.isOrdinary = true

/-- An action that can only ask for facts about files and for variables. -/
abbrev Action.IsLookup {α : Type} (a : Action α) : Prop := a.Only fun c => c.isLookup = true

/-- Ordinary requests are quiet. -/
theorem Action.Only.quiet {α : Type} {a : Action α} (h : a.IsOrdinary) : a.IsQuiet :=
  h.mono fun _ => Call.isQuiet_of_isOrdinary

/-! ### Preparing a pipeline -/

theorem ends_isRunnable (path : List UInt8) :
    (Search.isRunnable path).Ends fun c => c.isLookup = true := by
  unfold Search.isRunnable
  split
  · exact .pure _
  · refine .bind (.ask rfl) fun answer => ?_
    cases answer with
    | ok metadata => exact .pure _
    | error e => exact .pure _

theorem ends_first : ∀ paths : List (List UInt8),
    (Search.first Search.isRunnable paths).Ends fun c => c.isLookup = true
  | [] => .pure _
  | path :: paths => by
    refine .bind (ends_isRunnable path) fun found => ?_
    cases found with
    | true => exact .pure _
    | false => exact ends_first paths

theorem ends_find (command : Command) :
    (Program.find command).Ends fun c => c.isLookup = true := by
  unfold Program.find
  split
  · exact .pure _
  · refine .bind (.bind (.ask rfl) fun path => ?_) fun found => ?_
    · unfold Search.resolve
      split
      · exact .pure _
      · exact ends_first _
    · cases found with
      | none => exact .pure _
      | some path => dsimp only; split <;> exact .pure _

/-- Programs are searched for by asking for facts. -/
theorem ends_findAll : ∀ commands : List Command,
    (Program.findAll commands).Ends fun c => c.isLookup = true
  | [] => .pure _
  | command :: commands => by
    refine .bind (ends_find command) fun found => ?_
    cases found with
    | error e => exact .pure _
    | ok program =>
      refine .bind (ends_findAll commands) fun others => ?_
      cases others <;> exact .pure _

theorem lookup_findAll (commands : List Command) : (Program.findAll commands).IsLookup :=
  (ends_findAll commands).only

/-- Opening the file of a redirection is ordinary if asking for a file is. -/
theorem ends_openFile {request : String → Action (Except Errno Fd)}
    (h : ∀ path, (request path).Ends fun c => c.isOrdinary = true) :
    ∀ path, (Stage.openFile request path).Ends fun c => c.isOrdinary = true
  | none => .pure _
  | some path => by
    rw [Stage.openFile]
    split
    · exact .pure _
    · refine .bind (h path) fun answer => ?_
      cases answer <;> exact .pure _

theorem ends_openFiles (program : Program) (command : Command) :
    (Stage.openFiles program command).Ends fun c => c.isOrdinary = true := by
  refine .bind (ends_openFile (fun path => .ask (c := .openInput path) rfl) _) fun input => ?_
  cases input with
  | error e => exact .pure _
  | ok input =>
    refine .bind (ends_openFile (fun path => .ask (c := .openOutput path) rfl) _) fun output => ?_
    cases output with
    | error e => exact .bind (Action.ends_closeAll (fun _ => rfl) _) fun _ => .pure _
    | ok output => exact .pure _

theorem ends_openAll : ∀ rows : List (Program × Command),
    (Stage.openAll rows).Ends fun c => c.isOrdinary = true
  | [] => .pure _
  | (program, command) :: rows => by
    refine .bind (ends_openFiles program command) fun stage => ?_
    cases stage with
    | error e => exact .pure _
    | ok stage =>
      refine .bind (ends_openAll rows) fun others => ?_
      cases others with
      | error e => exact .bind (Action.ends_closeAll (fun _ => rfl) _) fun _ => .pure _
      | ok stages => exact .pure _

/-- **Preparing a pipeline makes ordinary requests only, and comes to an end.** -/
theorem ends_prepare (pipeline : Pipeline) :
    (Stage.prepare pipeline).Ends fun c => c.isOrdinary = true := by
  refine .bind ((ends_findAll _).mono fun _ => Call.isOrdinary_of_isLookup) fun programs => ?_
  cases programs with
  | error e => exact .pure _
  | ok programs => exact ends_openAll _

/-- Preparing a pipeline makes ordinary requests only. -/
theorem ordinary_prepare (pipeline : Pipeline) : (Stage.prepare pipeline).IsOrdinary :=
  (ends_prepare pipeline).only

/-! ### Ordinary builtins -/

theorem ordinary_complain (name cause : String) (status : Nat) :
    (Builtin.complain name cause status).IsOrdinary := .bind (.ask rfl) fun _ => .pure _

theorem ordinary_leave : ∀ arguments : List String, (Builtin.leave arguments).IsOrdinary
  | [] => .pure _
  | argument :: _ => by
    rw [Builtin.leave]
    split
    · exact .pure _
    · exact ordinary_complain _ _ _

theorem ordinary_enter (directory : List UInt8) : (Builtin.enter directory).IsOrdinary := by
  unfold Builtin.enter
  split
  · exact ordinary_complain _ _ _
  · refine .bind (.ask rfl) fun answer => ?_
    cases answer with
    | ok _ => exact .pure _
    | error e => exact ordinary_complain _ _ _

theorem ordinary_goTo : ∀ arguments : List String, (Builtin.goTo arguments).IsOrdinary
  | directory :: _ => ordinary_enter _
  | [] => by
    refine .bind (.ask rfl) fun home => ?_
    cases home with
    | some home => exact ordinary_enter home
    | none => exact ordinary_complain _ _ _

theorem ordinary_showDirectory : Builtin.showDirectory.IsOrdinary := by
  refine .bind (.ask rfl) fun answer => ?_
  cases answer with
  | ok path => exact .bind (.ask rfl) fun _ => .pure _
  | error e => exact ordinary_complain _ _ _

theorem ordinary_showGroup (group : Option Pid) : (Builtin.showGroup group).IsOrdinary :=
  .bind (.ask rfl) fun _ => .pure _

end JobControl
