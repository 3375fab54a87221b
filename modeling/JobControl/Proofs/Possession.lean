import Mathlib.Logic.Function.Basic
import JobControl.Machine.Children
import JobControl.Proofs.Beginnings
import JobControl.Terminal

/-!
# Taking possession of the terminal

A shell that reads its lines from a terminal waits until its group is in the foreground.  Each time
it looks and finds another group there it stops itself, with the rest of its group, by a signal;
whoever continues it may have changed the foreground or not, so it looks again.  Nothing is assumed
of the answers to show that the shell keeps to this, and beginnings are considered as well as runs,
because it may wait for ever.

What the shell has in the end depends on the system.  A *situation* is what matters of it; others
may change it at any time, but only in some ways, and a *history* is a way through such changes and
the requests of the shell.

## Main definitions

* `Terminal.looks`, `Terminal.missed` — the looks at the terminal, and those that found another
  group.
* `Terminal.Seen` — the last look found the group of the shell.
* `Terminal.Orderly`, `Terminal.Settled` — a signal for each miss, at most one of them due, or none.
* `Terminal.Situation`, `Terminal.History` — the shell among others.
* `Terminal.Possesses` — the shell has the terminal.

## Main results

* `Terminal.keeps_init` — at all times what the shell does is in order.
* `Terminal.takes_of_init` — how a shell takes the terminal that it has in the end.
* `Terminal.Takes.possesses` — a shell that takes the terminal in this way has it.
* `Machine.leads_of_denied` — the machine bears out what this assumes of the system.
* `terminal_taken_once_free` — **the terminal is taken once the shell is in the foreground, and only
  then.**
-/

namespace JobControl

open JobControl.Action (run_pure_iff run_bind_iff run_ask_bind_iff begins_ask_bind keeps_ask_bind)
open Dialogue hiding run_bind_iff

/-! ### What is seen in the events -/

/-- The request changes the group of the shell, its terminal, or how it treats a signal by which a
terminal controls jobs. -/
def Call.isClaim : Call → Bool
  | .setGroup _ _ | .setTerminalGroup _ | .setModes _ => true
  | .setDisposition signal _ => decide (signal ∈ Signal.jobControl)
  | _ => false

/-- The request asks for the group of the terminal, or sends a signal. -/
def Call.isWatch : Call → Bool
  | .terminalGroup | .signalGroup _ _ => true
  | _ => false

/-- A signal that is sent to a group. -/
def Event.signal? : Event → Option (Pid × Signal)
  | ⟨.signalGroup group signal, _⟩ => some (group, signal)
  | _ => none

/-- The signals that are sent, in order. -/
def signals (events : List Event) : List (Pid × Signal) := events.filterMap Event.signal?

namespace Terminal

/-- A look at the terminal: the group of the shell and that of the terminal. -/
structure Look where
  own : Pid
  owner : Pid

/-- The shell asks for its own group, and then for that of the terminal. -/
def look? : Event → Event → Option Look
  | ⟨.ownGroup, own⟩, ⟨.terminalGroup, .ok owner⟩ => some ⟨own, owner⟩
  | _, _ => none

/-- The looks of the shell at its terminal, in order. -/
def looks : List Event → List Look
  | first :: second :: rest => (look? first second).toList ++ looks (second :: rest)
  | _ => []

/-- The groups of the shell that it found in the background, one for each look. -/
def missed (events : List Event) : List Pid :=
  ((looks events).filter fun look => look.owner ≠ look.own).map (·.own)

/-- The last look found the group of the shell in the foreground. -/
def Seen (events : List Event) : Prop := ∃ own, (looks events).getLast? = some ⟨own, own⟩

variable {past events : List Event} {e : Event}

theorem look?_eq_none {first second : Event} (h : second.call ≠ .terminalGroup) :
    look? first second = none := by
  obtain ⟨call, answer⟩ := second
  cases call with
  | terminalGroup => exact absurd rfl h
  | _ =>
    obtain ⟨call', answer'⟩ := first
    cases call' <;> rfl

theorem looks_concat (past : List Event) (e : Event) :
    looks (past ++ [e]) = looks past ++ (past.getLast?.bind (look? · e)).toList := by
  induction past with
  | nil => rfl
  | cons first rest ih =>
    cases rest with
    | nil => simp [looks]
    | cons second rest =>
      -- the first two events are a look or none, whatever comes at the end
      rw [List.getLast?_cons_cons, looks, List.append_assoc, ← ih]
      rfl

/-- Only an answer about the terminal completes a look. -/
theorem looks_concat_of_ne (h : e.call ≠ .terminalGroup) : looks (past ++ [e]) = looks past := by
  rw [looks_concat]
  cases past.getLast? with
  | none => exact List.append_nil _
  | some first => rw [Option.bind_some, look?_eq_none h, Option.toList_none, List.append_nil]

theorem missed_concat_of_ne (h : e.call ≠ .terminalGroup) : missed (past ++ [e]) = missed past := by
  rw [missed, looks_concat_of_ne h, missed]

theorem signals_concat (past : List Event) (e : Event) :
    signals (past ++ [e]) = signals past ++ e.signal?.toList := by
  rw [signals, List.filterMap_append]
  cases h : e.signal? <;> simp [signals, h]

theorem signal?_eq_none (h : ∀ group signal, e.call ≠ .signalGroup group signal) :
    e.signal? = none := by
  obtain ⟨call, answer⟩ := e
  cases call with
  | signalGroup group signal => exact absurd rfl (h group signal)
  | _ => rfl

/-! ### What holds at all times -/

/-- The signals that some misses call for. -/
def summons (groups : List Pid) : List (Pid × Signal) := groups.map (·, Signal.ttin)

/-- For each look that found another group in the foreground, in order, one signal is sent to the
group of the shell, and no other; at most the last of these looks has got none yet.  The shell
changes its group, its terminal and its treatment of signals only when its last look found its own
group. -/
structure Orderly (past : List Event) : Prop where
  called : signals past <+: summons (missed past)
  calling : (missed past).length ≤ (signals past).length + 1
  claims : ∀ before e after, past = before ++ e :: after → e.call.isClaim = true → Seen before

/-- No signal is due. -/
structure Settled (past : List Event) : Prop extends Orderly past where
  settled : signals past = summons (missed past)

theorem settled_of_claims (h : signals past = summons (missed past))
    (claims : ∀ before e after, past = before ++ e :: after → e.call.isClaim = true → Seen before) :
    Settled past where
  called := h ▸ List.prefix_refl _
  calling := by rw [h, summons, List.length_map]; exact Nat.le_succ _
  claims := claims
  settled := h

/-- A claim is made only when the last look found the group of the shell. -/
theorem Orderly.claims_concat (h : Orderly past) (seen : e.call.isClaim = true → Seen past) :
    ∀ before e' after, past ++ [e] = before ++ e' :: after → e'.call.isClaim = true →
      Seen before := by
  intro before e' after split claim
  rcases split_of_concat split with ⟨rfl, rfl, -⟩ | ⟨between, rfl, -⟩
  · exact seen claim
  · exact h.claims before e' between rfl claim

theorem settled_nil : Settled [] := settled_of_claims rfl fun before _ _ split => by
  cases before <;> cases split

/-- A request that is neither a look nor a signal leaves nothing due. -/
theorem Settled.concat (h : Settled past) (watch : e.call.isWatch = false)
    (seen : e.call.isClaim = true → Seen past) : Settled (past ++ [e]) := by
  have hlook : e.call ≠ .terminalGroup := fun hcall => by rw [hcall] at watch; cases watch
  have hsignal : e.signal? = none := signal?_eq_none fun group signal hcall => by
    rw [hcall] at watch
    cases watch
  refine settled_of_claims ?_ (h.claims_concat seen)
  rw [signals_concat, hsignal, Option.toList_none, List.append_nil, missed_concat_of_ne hlook]
  exact h.settled

theorem Seen.concat (h : Seen past) (watch : e.call.isWatch = false) : Seen (past ++ [e]) := by
  obtain ⟨own, hown⟩ := h
  refine ⟨own, ?_⟩
  rw [looks_concat_of_ne (fun hcall => by rw [hcall] at watch; cases watch), hown]

/-! ### Waiting for the terminal -/

section Waiting

variable {own owner : Pid} {n total rounds : Nat}

theorem looks_look : looks (past ++ [⟨.ownGroup, own⟩] ++ [⟨.terminalGroup, .ok owner⟩]) =
    looks past ++ [⟨own, owner⟩] := by
  rw [looks_concat, List.getLast?_concat, looks_concat_of_ne (e := ⟨.ownGroup, own⟩) nofun]
  rfl

theorem signals_look {answer : Except Errno Pid} :
    signals (past ++ [⟨.ownGroup, own⟩] ++ [⟨.terminalGroup, answer⟩]) = signals past := by
  rw [signals_concat, signals_concat]
  exact (List.append_nil _).trans (List.append_nil _)

theorem seen_look : Seen (past ++ [⟨.ownGroup, own⟩] ++ [⟨.terminalGroup, .ok own⟩]) :=
  ⟨own, by rw [looks_look, List.getLast?_concat]⟩

/-- A question for the group of the terminal that is not answered is no look. -/
theorem looks_refused {errno : Errno} :
    looks (past ++ [⟨.ownGroup, own⟩] ++ [⟨.terminalGroup, .error errno⟩]) = looks past := by
  rw [looks_concat, List.getLast?_concat, looks_concat_of_ne (e := ⟨.ownGroup, own⟩) nofun]
  exact List.append_nil _

theorem missed_look : missed (past ++ [⟨.ownGroup, own⟩] ++ [⟨.terminalGroup, .ok owner⟩]) =
    missed past ++ if owner = own then [] else [own] := by
  rw [missed, looks_look, List.filter_append, List.map_append]
  split <;> simp_all [missed]

/-- After a look, what it calls for is due. -/
theorem Settled.look (h : Settled past) :
    Orderly (past ++ [⟨.ownGroup, own⟩] ++ [⟨.terminalGroup, .ok owner⟩]) := by
  have asked := h.concat (e := ⟨.ownGroup, own⟩) rfl nofun
  refine ⟨?_, ?_, asked.claims_concat nofun⟩
  · rw [signals_look, h.settled, missed_look, summons, summons, List.map_append]
    exact List.prefix_append _ _
  · rw [signals_look, h.settled, missed_look, summons, List.length_map, List.length_append]
    split <;> simp

/-- A look that finds the group of the shell calls for nothing. -/
theorem Settled.found (h : Settled past) :
    Settled (past ++ [⟨.ownGroup, own⟩] ++ [⟨.terminalGroup, .ok own⟩]) := by
  refine settled_of_claims ?_ h.look.claims
  rw [signals_look, missed_look, if_pos rfl, List.append_nil, h.settled]

theorem Settled.refused (h : Settled past) {errno : Errno} :
    Settled (past ++ [⟨.ownGroup, own⟩] ++ [⟨.terminalGroup, .error errno⟩]) := by
  have asked := h.concat (e := ⟨.ownGroup, own⟩) rfl nofun
  refine settled_of_claims ?_ (asked.claims_concat nofun)
  rw [signals_look, missed, looks_refused, h.settled, missed]

/-- A look that misses is settled by the signal to the group of the shell, whether or not that
signal can be sent. -/
theorem Settled.signalled (h : Settled past) (away : owner ≠ own) (answer : Except Errno Unit) :
    Settled (past ++ [⟨.ownGroup, own⟩] ++ [⟨.terminalGroup, .ok owner⟩] ++
      [⟨.signalGroup own .ttin, answer⟩]) := by
  refine settled_of_claims ?_ (h.look.claims_concat nofun)
  rw [signals_concat, signals_look, h.settled,
    missed_concat_of_ne (e := ⟨.signalGroup own .ttin, answer⟩) nofun, missed_look, if_neg away,
    summons, summons, List.map_append]
  rfl

/-- Each round that does not end the waiting adds a miss, and the signal for it. -/
theorem keeps_waitForOwnership (h : Settled past) (count : (missed past).length + n = total) :
    Keeps Orderly (fun past => Settled past ∧ (missed past).length = total)
      (fun past answer => Settled past ∧ (answer = .ok () → Seen past)) past
      (waitForOwnership n rounds) := by
  -- on the rounds left, which make up the total with the misses so far
  induction n generalizing past with
  | zero => exact .unfinished h.toOrderly ⟨h, count⟩
  | succ n ih =>
    have asked (own : Pid) := h.concat (e := ⟨.ownGroup, own⟩) rfl nofun
    refine keeps_ask_bind h.toOrderly fun own => ?_
    refine keeps_ask_bind (asked own).toOrderly fun answer => ?_
    cases answer with
    | error errno => exact .done h.refused.toOrderly ⟨h.refused, nofun⟩
    | ok owner =>
      by_cases found : owner = own
      · subst found
        dsimp only
        rw [if_pos rfl]
        exact .done h.found.toOrderly ⟨h.found, fun _ => seen_look⟩
      · dsimp only
        rw [if_neg found]
        refine keeps_ask_bind h.look fun answer => ?_
        have settled := h.signalled found answer
        cases answer with
        | error errno => exact .done settled.toOrderly ⟨settled, nofun⟩
        | ok _ =>
          refine ih settled ?_
          rw [missed_concat_of_ne (e := ⟨.signalGroup own .ttin, .ok ()⟩) nofun, missed_look,
            if_neg found, List.length_append, List.length_singleton]
          omega

end Waiting

/-! ### Taking the terminal -/

/-- What the shell does once it has seen its group in the foreground. -/
def take : Action (Except Errno Terminal) := do
  match ← ignore Signal.jobControl with
  | .error e => return .error e
  | .ok () =>
  let pid ← Action.ownPid
  match ← leadGroup pid with
  | .error e => return .error e
  | .ok () =>
  match ← Action.setTerminalGroup pid with
  | .error e => return .error e
  | .ok () => return .ok (owned pid (← Action.modes).toOption)

theorem claim_eq : claim = (do
    match ← waitForOwnership (← Action.rounds) with
    | .error e => return .error e
    | .ok () => take) := rfl

theorem ends_ignore {P : Call → Prop} (ignoring : ∀ signal, P (.setDisposition signal .ignore)) :
    ∀ list : List Signal, (ignore list).Ends P
  | [] => .pure _
  | signal :: rest => by
    refine .bind (.ask (ignoring signal)) fun answer => ?_
    cases answer with
    | error _ => exact .pure _
    | ok _ => exact ends_ignore ignoring rest

/-- Taking the terminal asks neither whether there is one nor who has it, and sends no signal. -/
theorem ends_take : take.Ends fun c => c.isWatch = false ∧ c ≠ .isTerminal := by
  refine .bind (ends_ignore (fun _ => ⟨rfl, nofun⟩) _) fun ignored => ?_
  cases ignored with
  | error _ => exact .pure _
  | ok _ =>
  refine .bind (.ask ⟨rfl, nofun⟩) fun pid => ?_
  refine .bind (.bind (.ask ⟨rfl, nofun⟩) fun answer => ?_) fun led => ?_
  · cases answer <;> exact .pure _
  cases led with
  | error _ => exact .pure _
  | ok _ =>
  refine .bind (.ask ⟨rfl, nofun⟩) fun answer => ?_
  cases answer with
  | error _ => exact .pure _
  | ok _ => exact .bind (.ask ⟨rfl, nofun⟩) fun _ => .pure _

theorem keeps_claim (h : Settled past) (fresh : missed past = []) (rounds : Nat) :
    Keeps Orderly (fun past => Settled past ∧ (missed past).length = rounds)
      (fun past _ => Settled past) past (claim rounds) := by
  rw [claim_eq]
  refine (keeps_waitForOwnership h (by rw [fresh, List.length_nil, Nat.zero_add])).bind ?_
  rintro past (errno | _) ⟨settled, seen⟩
  · exact .done settled.toOrderly settled
  · exact ends_take.keeps (I := fun past => Settled past ∧ Seen past) ⟨settled, seen rfl⟩
      (fun past e h free => ⟨h.1.concat free.1 fun _ => h.2, h.2.concat free.1⟩)
      (fun past h => h.1.toOrderly) fun past _ h => h.1

/-- At all times what the shell does is in order; at the end nothing is due, nor when it has looked
as often as it may. -/
theorem keeps_init (rounds : Nat) :
    Keeps Orderly (fun past => Settled past ∧ (missed past).length = rounds)
      (fun past _ => Settled past) [] (init rounds) := by
  refine keeps_ask_bind settled_nil.toOrderly fun answer => ?_
  have first := settled_nil.concat (e := ⟨.setDisposition .chld .default, answer⟩) rfl nofun
  cases answer with
  | error errno => exact .done first.toOrderly first
  | ok _ =>
  refine keeps_ask_bind first.toOrderly fun terminal => ?_
  have second := first.concat (e := ⟨.isTerminal, terminal⟩) rfl nofun
  cases terminal with
  | true => exact keeps_claim second rfl rounds
  | false =>
  refine keeps_ask_bind second.toOrderly fun own => ?_
  have third := second.concat (e := ⟨.ownGroup, own⟩) rfl nofun
  exact .done third.toOrderly third

/-! ### No terminal -/

theorem only_waitForOwnership {P : Call → Prop} (own : P .ownGroup) (owner : P .terminalGroup)
    (signal : ∀ group, P (.signalGroup group .ttin)) : ∀ n, (waitForOwnership n).Only P
  | 0 => fun _ => .unfinished
  | n + 1 => by
    refine .bind (.ask own) fun group => .bind (.ask owner) fun answer => ?_
    cases answer with
    | error _ => exact .pure _
    | ok owned =>
      dsimp only
      split
      · exact .pure _
      · refine .bind (.ask (signal group)) fun answer => ?_
        cases answer with
        | error _ => exact .pure _
        | ok _ => exact only_waitForOwnership own owner signal n

/-- Whether there is a terminal is not asked again. -/
theorem only_claim : claim.Only (· ≠ .isTerminal) := by
  intro rounds
  rw [claim_eq]
  refine (only_waitForOwnership nofun nofun (fun _ => nofun) rounds rounds).bind fun answer => ?_
  cases answer with
  | error _ => exact .done _
  | ok _ => exact (ends_take.only.mono fun _ h => h.2) rounds

/-- **A shell whose standard input is no terminal changes neither groups nor a terminal nor its
treatment of the signals of one, and sends no signal.** -/
theorem spares_of_notTerminal {rounds : Nat} {d : Dialogue (Except Errno Terminal)}
    (h : Begins (init rounds) events d) (noTerminal : ⟨.isTerminal, false⟩ ∈ events) :
    signals events = [] ∧ ∀ e ∈ events, e.call.isClaim = false := by
  rcases begins_ask_bind h with rfl | ⟨answer, rest, rfl, hasking⟩
  · cases noTerminal
  cases answer with
  | error errno =>
    cases hasking
    cases List.mem_singleton.mp noTerminal
  | ok _ =>
  rcases begins_ask_bind hasking with rfl | ⟨terminal, rest, rfl, hrest⟩
  · cases List.mem_singleton.mp noTerminal
  cases terminal with
  | true =>
    -- there is a terminal, and the shell does not ask again
    have later : ⟨.isTerminal, false⟩ ∈ rest := by simpa using noTerminal
    exact absurd rfl ((only_claim rounds).of_begins hrest _ later)
  | false =>
    rcases begins_ask_bind hrest with rfl | ⟨own, rest, rfl, hdone⟩
    · exact ⟨rfl, by simp [Call.isClaim, Signal.jobControl]⟩
    · cases hdone
      exact ⟨rfl, by simp [Call.isClaim, Signal.jobControl]⟩

/-! ### How the terminal is taken -/

/-- A signal is ignored from now on. -/
def ignored (signal : Signal) : Event := ⟨.setDisposition signal .ignore, .ok ()⟩

theorem run_ignore {rounds : Nat} : ∀ {list : List Signal} {events : List Event},
    (ignore list rounds).Run events (.ok ()) → events = list.map ignored
  | [], _, h => (run_pure_iff.mp h).1
  | signal :: list, events, h => by
    obtain ⟨answer, rest, rfl, hrest⟩ := run_ask_bind_iff.mp h
    cases answer with
    | error _ => cases (run_pure_iff.mp hrest).2
    | ok _ => rw [run_ignore hrest]; rfl

theorem run_leadGroup {pid : Pid} {rounds : Nat} (h : (leadGroup pid rounds).Run events (.ok ())) :
    ∃ answer, events = [⟨.setGroup pid pid, answer⟩] ∧
      (answer = .ok () ∨ answer = .error .eperm) := by
  obtain ⟨answer, rest, rfl, hrest⟩ := run_ask_bind_iff.mp h
  cases answer with
  | ok _ => exact ⟨_, by rw [(run_pure_iff.mp hrest).1], .inl rfl⟩
  | error errno =>
    obtain ⟨rfl, result⟩ := run_pure_iff.mp hrest
    by_cases refused : errno = .eperm
    · exact ⟨_, rfl, .inr (by rw [refused])⟩
    · rw [if_neg refused] at result
      cases result

/-- The terminal is taken by a shell that ignores the signals of a terminal first, leads a group
then, and puts that group into the foreground last. -/
inductive Takes (group : Pid) : List Event → Prop
  | intro {answer : Except Errno Unit} {modes : Except Errno Modes}
      (leads : answer = .ok () ∨ answer = .error .eperm) :
      Takes group (Signal.jobControl.map ignored ++ [⟨.ownPid, group⟩,
        ⟨.setGroup group group, answer⟩, ⟨.setTerminalGroup group, .ok ()⟩, ⟨.modes, modes⟩])

theorem takes_of_take {rounds : Nat} {group : Pid} {modes : Option Modes}
    (h : (take rounds).Run events (.ok (owned group modes))) : Takes group events := by
  obtain ⟨ignoring, rest, result, rfl, hignore, hpid⟩ := run_bind_iff.mp h
  cases result with
  | error _ => cases (run_pure_iff.mp hpid).2
  | ok _ =>
  cases run_ignore hignore
  obtain ⟨pid, rest, rfl, hleading⟩ := run_ask_bind_iff.mp hpid
  obtain ⟨leading, rest, result, rfl, hlead, hhanding⟩ := run_bind_iff.mp hleading
  cases result with
  | error _ => cases (run_pure_iff.mp hhanding).2
  | ok _ =>
  obtain ⟨answer, rfl, leads⟩ := run_leadGroup hlead
  obtain ⟨handed, rest, rfl, hmodes⟩ := run_ask_bind_iff.mp hhanding
  cases handed with
  | error _ => cases (run_pure_iff.mp hmodes).2
  | ok _ =>
  obtain ⟨modes', rest, rfl, hdone⟩ := run_ask_bind_iff.mp hmodes
  obtain ⟨rfl, result⟩ := run_pure_iff.mp hdone
  cases result
  exact .intro leads

/-- A shell that ends up with the terminal has taken it last. -/
theorem takes_of_init {rounds : Nat} {group : Pid} {modes : Option Modes}
    (h : (init rounds).Run events (.ok (owned group modes))) :
    ∃ before taking, events = before ++ taking ∧ Takes group taking := by
  obtain ⟨answer, rest, rfl, hasking⟩ := run_ask_bind_iff.mp h
  cases answer with
  | error _ => cases (run_pure_iff.mp hasking).2
  | ok _ =>
  obtain ⟨terminal, rest, rfl, hrest⟩ := run_ask_bind_iff.mp hasking
  cases terminal with
  | false =>
    obtain ⟨own, rest, rfl, hdone⟩ := Dialogue.run_ask_iff.mp hrest
    cases (run_pure_iff.mp hdone).2
  | true =>
  rw [if_pos rfl, claim_eq] at hrest
  -- however long the shell waits, what it does then does not depend on it
  obtain ⟨waiting, taking, result, rfl, -, htake⟩ :=
    Dialogue.run_bind_iff (d := waitForOwnership rounds rounds).mp hrest
  cases result with
  | error _ => cases (run_pure_iff.mp htake).2
  | ok _ => exact ⟨_ :: _ :: waiting, taking, rfl, takes_of_take htake⟩

/-! ### The situation of the shell -/

/-- What the shell, its group and its terminal are at some moment. -/
structure Situation where
  pid : Pid
  /-- The shell is the first process of its session. -/
  leadsSession : Bool
  group : Pid
  /-- The group in the foreground of the terminal. -/
  foreground : Pid
  dispositions : Signal → Disposition
  /-- The first process of a session leads its own group, and never leaves it. -/
  leads : leadsSession = true → group = pid

namespace Situation

variable {s s' t : Situation} {signal : Signal}

/-- What a request that is granted changes. -/
def after (s : Situation) : Event → Situation
  | ⟨.setGroup pid group, .ok ()⟩ =>
    if h : pid = s.pid ∧ s.leadsSession = false then
      { s with group, leads := fun leader => absurd (h.2.symm.trans leader) Bool.false_ne_true }
    else s
  | ⟨.setTerminalGroup group, .ok ()⟩ => { s with foreground := group }
  | ⟨.setDisposition signal disposition, .ok ()⟩ =>
    { s with dispositions := Function.update s.dispositions signal disposition }
  | _ => s

/-- The system answers with what is the case. -/
def Answers (s : Situation) : Event → Prop
  | ⟨.ownPid, pid⟩ => pid = s.pid
  | ⟨.ownGroup, group⟩ => group = s.group
  | ⟨.terminalGroup, .ok group⟩ => group = s.foreground
  | _ => True

/-- What others may do between two requests of the shell, while it runs or is stopped: they put any
group into the foreground, and move the shell unless it leads its own group. -/
structure Meanwhile (s s' : Situation) : Prop where
  pid : s'.pid = s.pid
  leadsSession : s'.leadsSession = s.leadsSession
  dispositions : s'.dispositions = s.dispositions
  group : s.group = s.pid → s'.group = s.pid

theorem Meanwhile.refl (s : Situation) : Meanwhile s s := ⟨rfl, rfl, rfl, id⟩

/-- Others put a group into the foreground. -/
theorem Meanwhile.foreground (s : Situation) (group : Pid) :
    Meanwhile s { s with foreground := group } := ⟨rfl, rfl, rfl, id⟩

theorem after_pid (s : Situation) (e : Event) : (s.after e).pid = s.pid := by
  unfold after
  split
  · split <;> rfl
  all_goals rfl

theorem after_leadsSession (s : Situation) (e : Event) :
    (s.after e).leadsSession = s.leadsSession := by
  unfold after
  split
  · split <;> rfl
  all_goals rfl

theorem after_group (h : ∀ pid group, e.call ≠ .setGroup pid group) :
    (s.after e).group = s.group := by
  unfold after
  split
  · exact absurd rfl (h _ _)
  all_goals rfl

/-- The shell leads its own group after it asked for that, also if this is refused because it leads
its session. -/
theorem after_leading {answer : Except Errno Unit}
    (h : answer = .ok () ∨ s.leadsSession = true) :
    (s.after ⟨.setGroup s.pid s.pid, answer⟩).group = s.pid := by
  cases answer with
  | error errno => exact s.leads (h.resolve_left nofun)
  | ok _ =>
    rw [after]
    split
    · rfl
    · next leader => exact s.leads (by simpa using leader)

theorem after_ignored (s : Situation) (signal : Signal) :
    (s.after (ignored signal)).dispositions signal = .ignore := Function.update_self ..

/-- A signal stays ignored unless its default is restored. -/
theorem after_ignores (h : e.call ≠ .setDisposition signal .default)
    (now : s.dispositions signal = .ignore) : (s.after e).dispositions signal = .ignore := by
  unfold after
  split
  · split <;> exact now
  · exact now
  · next other disposition =>
    rcases eq_or_ne signal other with rfl | ne
    · cases disposition with
      | default => exact absurd rfl h
      | ignore => exact Function.update_self ..
    · exact (Function.update_of_ne ne ..).trans now
  · exact now

end Situation

open Situation (Meanwhile)

/-- With others at work in between, the requests lead from one situation to another. -/
inductive History : Situation → List Event → Situation → Prop
  | nil {s s' : Situation} : Meanwhile s s' → History s [] s'
  | cons {s t s' : Situation} {e : Event} {events : List Event} : Meanwhile s t → t.Answers e →
      History (t.after e) events s' → History s (e :: events) s'

namespace History

variable {s t s' : Situation} {more : List Event}

/-- A request before which others do nothing. -/
theorem next (answers : s.Answers e) (h : History (s.after e) events s') :
    History s (e :: events) s' := .cons (.refl s) answers h

theorem concat (h : History s events t) (answers : t.Answers e) :
    History s (events ++ [e]) (t.after e) := by
  induction h with
  | nil others => exact .cons others answers (.nil (.refl _))
  | cons others answered _ ih => exact .cons others answered (ih answers)

/-- The situation in which a request is made. -/
theorem split (h : History s (events ++ e :: more) s') :
    ∃ t, History s events t ∧ t.Answers e ∧ History (t.after e) more s' := by
  induction events generalizing s with
  | nil =>
    cases h with
    | cons others answers rest => exact ⟨_, .nil others, answers, rest⟩
  | cons first events ih =>
    cases h with
    | cons others answers rest =>
      obtain ⟨t, before, now⟩ := ih rest
      exact ⟨t, .cons others answers before, now⟩

/-- What others leave alone, and each request too, is as it was. -/
theorem preserves {I : Situation → Prop} (h : History s events s')
    (others : ∀ s s', Meanwhile s s' → I s → I s')
    (step : ∀ e ∈ events, ∀ s, I s → I (s.after e)) (now : I s) : I s' := by
  induction h with
  | nil meanwhile => exact others _ _ meanwhile now
  | cons meanwhile _ _ ih =>
    obtain ⟨first, step⟩ := List.forall_mem_cons.mp step
    exact ih step (first _ (others _ _ meanwhile now))

theorem pid_eq (h : History s events s') : s'.pid = s.pid :=
  h.preserves (I := fun t => t.pid = s.pid) (fun _ _ others now => others.pid.trans now)
    (fun e _ t now => (t.after_pid e).trans now) rfl

theorem leadsSession_eq (h : History s events s') : s'.leadsSession = s.leadsSession :=
  h.preserves (I := fun t => t.leadsSession = s.leadsSession)
    (fun _ _ others now => others.leadsSession.trans now)
    (fun e _ t now => (t.after_leadsSession e).trans now) rfl

/-- A shell that leads its own group stays in it. -/
theorem group_eq (h : History s events s') (own : s.group = s.pid)
    (stays : ∀ e ∈ events, ∀ pid group, e.call ≠ .setGroup pid group) : s'.group = s'.pid :=
  h.preserves (I := fun t => t.group = t.pid)
    (fun _ _ others now => (others.group now).trans others.pid.symm)
    (fun e he t now => by rw [Situation.after_group (stays e he), t.after_pid, now]) own

theorem ignores {signal : Signal} (h : History s events s')
    (now : s.dispositions signal = .ignore)
    (stays : ∀ e ∈ events, e.call ≠ .setDisposition signal .default) :
    s'.dispositions signal = .ignore :=
  h.preserves (I := fun t => t.dispositions signal = .ignore)
    (fun _ _ others now => (congrFun others.dispositions signal).trans now)
    (fun e he _ => Situation.after_ignores (stays e he)) now

end History

/-! ### What the shell has in the end -/

/-- The shell has the terminal: it leads the group that it takes for its own, ignores the signals of
the terminal, and that group is the last that it put into the foreground. -/
structure Possesses (group : Pid) (events : List Event) (s s' : Situation) : Prop where
  pid : s'.pid = group
  own : s'.group = group
  ignores : ∀ signal ∈ Signal.jobControl, s'.dispositions signal = .ignore
  last : ∃ before after taken, events = before ++ ⟨.setTerminalGroup group, .ok ()⟩ :: after ∧
    (∀ e ∈ after, ∀ other, e.call ≠ .setTerminalGroup other) ∧
    History s (before ++ [⟨.setTerminalGroup group, .ok ()⟩]) taken ∧ taken.foreground = group ∧
    History taken after s'

variable {s s' : Situation} {group : Pid}

theorem ignores_of_ignored {before more : List Event} {list : List Signal}
    (h : History s (before ++ list.map ignored ++ more) s')
    (stays : ∀ e ∈ more, ∀ signal, e.call ≠ .setDisposition signal .default) :
    ∀ signal ∈ list, s'.dispositions signal = .ignore := by
  intro signal hsignal
  obtain ⟨first, last, rfl⟩ := List.append_of_mem hsignal
  rw [List.map_append, List.map_cons, ← List.append_assoc, List.append_assoc (_ ++ _),
    List.cons_append] at h
  obtain ⟨t, -, -, rest⟩ := h.split
  refine rest.ignores (t.after_ignored signal) fun e he => ?_
  rcases List.mem_append.mp he with he | he
  · obtain ⟨other, -, rfl⟩ := List.mem_map.mp he
    exact nofun
  · exact stays e he signal

/-- A shell that asks for its number, and then to lead the group of that number, leads it. -/
theorem leads_of_asked {before more : List Event} {answer : Except Errno Unit}
    (h : History s (before ++ ⟨.ownPid, group⟩ :: ⟨.setGroup group group, answer⟩ :: more) s')
    (leads : answer = .ok () ∨ s.leadsSession = true)
    (stays : ∀ e ∈ more, ∀ pid other, e.call ≠ .setGroup pid other) :
    s'.pid = group ∧ s'.group = s'.pid := by
  obtain ⟨asked, asking, same, rest⟩ := h.split
  cases rest with
  | @cons _ led _ _ _ others _ rest =>
    -- others may act before the second request, but the number of the shell stays
    have hpid : led.pid = group := (others.pid.trans (asked.after_pid _)).trans same.symm
    have leader : led.leadsSession = s.leadsSession :=
      (others.leadsSession.trans (asked.after_leadsSession _)).trans asking.leadsSession_eq
    subst hpid
    refine ⟨rest.pid_eq.trans (led.after_pid _), rest.group_eq ?_ stays⟩
    rw [Situation.after_leading (by rwa [leader]), led.after_pid]

/-- A shell that took the terminal as it should has it, whatever others do. -/
theorem Takes.possesses {taking before : List Event} (h : Takes group taking)
    (history : History s (before ++ taking) s')
    (refused : ∀ group, ⟨.setGroup s.pid group, .error .eperm⟩ ∈ before ++ taking →
      s.leadsSession = true) : Possesses group (before ++ taking) s s' := by
  cases h with
  | @intro answer modes leads =>
  rw [← List.append_assoc] at history refused ⊢
  have same : group = s.pid := by
    obtain ⟨asked, asking, same, -⟩ := history.split
    exact same.trans asking.pid_eq
  obtain ⟨pid, own⟩ := leads_of_asked history
    (leads.imp_right fun denied => refused group (by simp [denied, same])) (by simp)
  refine ⟨pid, own.trans pid, ignores_of_ignored history (by simp), ?_⟩
  rw [List.append_cons, List.append_cons] at history ⊢
  obtain ⟨handing, before, answers, rest⟩ := history.split
  exact ⟨_, _, _, rfl, by simp, before.concat answers, rfl, rest⟩

end Terminal

/-! ### The terminal is taken -/

/-- The machine denies a process a group of its own only as the leader of its session. -/
theorem Machine.leads_of_denied {m m' : Machine} {caller pid : Pid}
    (h : m.placeIn caller pid pid = (m', .error .eperm)) :
    ∃ p, m.process? pid = some p ∧ p.session = pid := by
  unfold placeIn at h
  split at h
  · cases (Prod.mk.inj h).2
  · next p found =>
    refine ⟨p, found, by_contra fun other => ?_⟩
    have own : ∀ b : Bool, ¬ (decide (pid ≠ pid) && b) = true := by simp
    rw [if_neg other, if_neg (own _)] at h
    split at h <;> cases (Prod.mk.inj h).2

open Terminal

/-- **The terminal is taken once the shell is in the foreground.**  Whatever the system answers, and
so whatever others do with the terminal while the shell starts: for each look that finds another
group in the foreground one signal is sent to the group of the shell, and no other; the shell
changes its group, the terminal and its treatment of signals only when its last look found its own
group there; and only misses use up its rounds.  A shell whose standard input is no terminal does
none of this.  If in the end the shell has the terminal, in a history in which the system answers
the truth and denies the shell its own group only as the leader of its session, then the group that
it took is led by it, is the one that it put into the foreground last, and the signals of the
terminal are ignored. -/
theorem terminal_taken_once_free (rounds : Nat) :
    (∀ events d, Begins (init rounds) events d → Orderly events) ∧
    (∀ events, Begins (init rounds) events unfinished →
      Settled events ∧ (missed events).length = rounds) ∧
    (∀ events result, (init rounds).Run events result → Settled events) ∧
    (∀ events d, Begins (init rounds) events d → ⟨.isTerminal, false⟩ ∈ events →
      signals events = [] ∧ ∀ e ∈ events, e.call.isClaim = false) ∧
    ∀ events terminal s s', (init rounds).Run events (.ok terminal) →
      terminal.isInteractive = true → History s events s' →
      (∀ group, ⟨.setGroup s.pid group, .error .eperm⟩ ∈ events → s.leadsSession = true) →
      Possesses terminal.shellGroup events s s' := by
  have kept {events : List Event} {d : Dialogue (Except Errno Terminal)}
      (h : Begins (init rounds) events d) := (keeps_init rounds).of_begins h
  refine ⟨fun events d h => (kept h).now, fun events h => ?_, fun events result run => ?_,
    fun events d h noTerminal => spares_of_notTerminal h noTerminal,
    fun events terminal s s' run interactive history refused => ?_⟩
  · cases kept h with
    | unfinished _ h => exact h
  · cases kept (begins_done_iff.mpr run) with
    | done _ h => exact h
  · cases terminal with
    | detached group => cases interactive
    | owned group modes =>
      obtain ⟨before, taking, rfl, takes⟩ := takes_of_init run
      exact takes.possesses history refused

/-! The shell with number 7 is started in a group 5 that is not in the foreground.  It is stopped,
and continued by somebody who puts its group there.  Or it leads its session, and is in the
foreground from the beginning. -/

namespace Sample

/-- The shell in the background, with all signals as they are by default. -/
def away : Situation where
  pid := 7
  leadsSession := false
  group := 5
  foreground := 3
  dispositions := fun _ => .default
  leads := fun leader => absurd leader Bool.false_ne_true

/-- The shell looks, and stops. -/
def missing : List Event := [
  ⟨.setDisposition .chld .default, .ok ()⟩, ⟨.isTerminal, true⟩, ⟨.ownGroup, 5⟩,
  ⟨.terminalGroup, .ok 3⟩, ⟨.signalGroup 5 .ttin, .ok ()⟩]

/-- The shell looks again, and takes the terminal. -/
def taking : List Event := [
  ⟨.ownGroup, 5⟩, ⟨.terminalGroup, .ok 5⟩, ignored .int, ignored .quit, ignored .tstp,
  ignored .ttin, ignored .ttou, ⟨.ownPid, 7⟩, ⟨.setGroup 7 7, .ok ()⟩,
  ⟨.setTerminalGroup 7, .ok ()⟩, ⟨.modes, .error .eio⟩]

theorem begins_missing : Begins (init 1) missing unfinished :=
  .ask (.ask (.ask (.ask (.ask (.here _)))))

theorem run_taking : (init 2).Run (missing ++ taking) (.ok (.owned 7 none)) :=
  .ask (.ask (.ask (.ask (.ask (.ask (.ask (.ask (.ask (.ask (.ask (.ask (.ask (.ask (.ask (.ask
    (.done _))))))))))))))))

/-- While the shell is stopped, its group is put into the foreground. -/
theorem history_taking : ∃ s', History away (missing ++ taking) s' :=
  ⟨_, .next trivial <| .next trivial <| .next rfl <| .next rfl <| .next trivial <|
    .cons (.foreground _ 5) rfl <| .next rfl <| .next trivial <| .next trivial <| .next trivial <|
    .next trivial <| .next trivial <| .next rfl <| .next trivial <| .next trivial <|
    .next trivial <| .nil (.refl _)⟩

/-- The shell leads its session. -/
def ahead : Situation where
  pid := 7
  leadsSession := true
  group := 7
  foreground := 7
  dispositions := fun _ => .default
  leads := fun _ => rfl

/-- The shell is denied its own group, which it leads already. -/
def heading : List Event := [
  ⟨.setDisposition .chld .default, .ok ()⟩, ⟨.isTerminal, true⟩, ⟨.ownGroup, 7⟩,
  ⟨.terminalGroup, .ok 7⟩, ignored .int, ignored .quit, ignored .tstp, ignored .ttin, ignored .ttou,
  ⟨.ownPid, 7⟩, ⟨.setGroup 7 7, .error .eperm⟩, ⟨.setTerminalGroup 7, .ok ()⟩,
  ⟨.modes, .error .eio⟩]

theorem run_heading : (init 1).Run heading (.ok (.owned 7 none)) :=
  .ask (.ask (.ask (.ask (.ask (.ask (.ask (.ask (.ask (.ask (.ask (.ask (.ask
    (.done _)))))))))))))

theorem history_heading : ∃ s', History ahead heading s' :=
  ⟨_, .next trivial <| .next trivial <| .next rfl <| .next rfl <| .next trivial <|
    .next trivial <| .next trivial <| .next trivial <| .next trivial <| .next rfl <|
    .next trivial <| .next trivial <| .next trivial <| .nil (.refl _)⟩

/-- The shell reads its lines from a file. -/
def detaching : List Event := [
  ⟨.setDisposition .chld .default, .ok ()⟩, ⟨.isTerminal, false⟩, ⟨.ownGroup, 5⟩]

theorem begins_detaching : Begins (init 1) detaching (.done (.ok (.detached 5))) :=
  .ask (.ask (.ask (.here _)))

end Sample

/-- The shell has the terminal after it was stopped once, and as the leader of its session; it has
nothing to settle while it is stopped, and does nothing of this where there is no terminal. -/
theorem terminal_taken_after_stop :
    (Settled Sample.missing ∧ (missed Sample.missing).length = 1) ∧
    Settled (Sample.missing ++ Sample.taking) ∧
    (∃ s', Possesses 7 (Sample.missing ++ Sample.taking) Sample.away s') ∧
    (∃ s', Possesses 7 Sample.heading Sample.ahead s') ∧
    signals Sample.detaching = [] := by
  obtain ⟨-, stopped, -, spares, possesses⟩ := terminal_taken_once_free 1
  obtain ⟨-, -, settled, -, possesses'⟩ := terminal_taken_once_free 2
  obtain ⟨s, history⟩ := Sample.history_taking
  obtain ⟨s', history'⟩ := Sample.history_heading
  refine ⟨stopped _ Sample.begins_missing, settled _ _ Sample.run_taking,
    ⟨s, possesses' _ _ _ _ Sample.run_taking rfl history fun group denied => ?_⟩,
    ⟨s', possesses _ _ _ _ Sample.run_heading rfl history' fun _ _ => rfl⟩,
    (spares _ _ Sample.begins_detaching ?_).1⟩
  · simp [Sample.missing, Sample.taking, ignored] at denied
  · simp [Sample.detaching]

end JobControl
