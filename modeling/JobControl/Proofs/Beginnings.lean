import JobControl.Proofs.Quiet

/-!
# Beginnings of a dialogue

What is done in a dialogue that has not ended, or never does, is seen in its beginnings.  To show
that something holds of all of them, it is shown to be kept by each request, whatever the answer is;
what one part of a dialogue leaves is what the next part starts from.

## Main definitions

* `Dialogue.Begins d events d'` — with the answers in `events`, `d'` is what is left of `d`.
* `Dialogue.Keeps P U Q past d` — from what is past, `P` holds at all times in `d`, `U` when a loop
  has used up its rounds, and `Q`, of what is past by then and of the value, at the end.

## Main results

* `Dialogue.begins_done_iff` — a run is a beginning with which nothing is left.
* `Dialogue.Keeps.bind`, `Action.keeps_ask_bind` — the rules for two parts, and for a request.
* `Action.Ends.keeps` — the rule for an action that comes to an end: each request keeps it.
* `Dialogue.Keeps.of_begins` — what is kept holds of every beginning.
-/

namespace JobControl

namespace Dialogue

variable {α β : Type} {events past : List Event}

/-- With the answers recorded in the events, something is left of a dialogue. -/
inductive Begins : Dialogue α → List Event → Dialogue α → Prop
  | here (d : Dialogue α) : Begins d [] d
  | ask {c : Call} {next : c.Answer → Dialogue α} {answer : c.Answer} {events : List Event}
      {d : Dialogue α} : Begins (next answer) events d →
      Begins (ask c next) (⟨c, answer⟩ :: events) d

/-- A run is a beginning with which nothing is left. -/
theorem begins_done_iff {d : Dialogue α} {a : α} : Begins d events (done a) ↔ Run d events a := by
  constructor
  · intro h
    generalize hlast : done a = last at h
    induction h with
    | here _ =>
      subst hlast
      exact .done a
    | ask _ ih => exact .ask (ih hlast)
  · intro h
    induction h with
    | done a => exact .here _
    | ask _ ih => exact .ask ih

/-- The events of a beginning are as the dialogue allows. -/
theorem Only.of_begins {P : Call → Prop} {d d' : Dialogue α} (hd : Only P d)
    (h : Begins d events d') : ∀ e ∈ events, P e.call := by
  induction h with
  | here _ => exact List.forall_mem_nil _
  | ask _ ih =>
    cases hd with
    | ask hc hnext => exact List.forall_mem_cons.mpr ⟨hc, ih (hnext _)⟩

/-- In a dialogue that starts when some events are past, `P` holds at all times of the events past
by then, `U` if a loop has used up its rounds, and `Q` at the end. -/
inductive Keeps (P U : List Event → Prop) (Q : List Event → α → Prop) :
    List Event → Dialogue α → Prop
  | done {past : List Event} {a : α} : P past → Q past a → Keeps P U Q past (done a)
  | ask {past : List Event} {c : Call} {next : c.Answer → Dialogue α} : P past →
      (∀ answer, Keeps P U Q (past ++ [⟨c, answer⟩]) (next answer)) → Keeps P U Q past (ask c next)
  | unfinished {past : List Event} : P past → U past → Keeps P U Q past unfinished

variable {P U : List Event → Prop} {Q : List Event → α → Prop} {R : List Event → β → Prop}

/-- What the first part leaves is what the second starts from. -/
theorem Keeps.bind {d : Dialogue α} {f : α → Dialogue β} (hd : Keeps P U Q past d)
    (hf : ∀ past a, Q past a → Keeps P U R past (f a)) : Keeps P U R past (d >>= f) := by
  induction hd with
  | done _ h => exact hf _ _ h
  | ask hpast _ ih => exact .ask hpast ih
  | unfinished hpast h => exact .unfinished hpast h

theorem Keeps.now {d : Dialogue α} (h : Keeps P U Q past d) : P past := by
  cases h <;> assumption

/-- What is kept holds of every beginning. -/
theorem Keeps.of_begins {d d' : Dialogue α} (hd : Keeps P U Q past d) (h : Begins d events d') :
    Keeps P U Q (past ++ events) d' := by
  induction h generalizing past with
  | here _ => rwa [List.append_nil]
  | ask _ ih =>
    cases hd with
    | ask _ hnext =>
      have := ih (hnext _)
      rwa [List.append_assoc] at this

end Dialogue

namespace Action

open Dialogue

variable {α β : Type} {P U : List Event → Prop} {Q : List Event → α → Prop}
  {R : List Event → β → Prop} {events past : List Event} {rounds : Nat}

/-- A beginning of what starts with a request is empty, or starts with an answer to it. -/
theorem begins_ask_bind {c : Call} {f : c.Answer → Action β} {d : Dialogue β}
    (h : Begins ((ask c >>= f) rounds) events d) :
    events = [] ∨
      ∃ answer rest, events = ⟨c, answer⟩ :: rest ∧ Begins (f answer rounds) rest d := by
  cases h with
  | here _ => exact .inl rfl
  | ask rest => exact .inr ⟨_, _, rfl, rest⟩

theorem keeps_ask_bind {c : Call} {f : c.Answer → Action β} (now : P past)
    (hf : ∀ answer, Keeps P U R (past ++ [⟨c, answer⟩]) (f answer rounds)) :
    Keeps P U R past ((ask c >>= f) rounds) := .ask now hf

/-- If every request that an action can make keeps something, and no answers leave the action
unfinished, then it is kept until the end. -/
theorem Ends.keeps {C : Call → Prop} {I : List Event → Prop} {a : Action α} (h : a.Ends C)
    (now : I past) (step : ∀ past (e : Event), I past → C e.call → I (past ++ [e]))
    (strong : ∀ past, I past → P past) (last : ∀ past a, I past → Q past a) :
    Keeps P U Q past (a rounds) := by
  have ends := h rounds
  generalize a rounds = d at ends
  induction ends generalizing past with
  | done a => exact .done (strong _ now) (last _ a now)
  | ask hc _ ih => exact .ask (strong _ now) fun answer => ih answer (step _ _ now hc)

end Action

end JobControl
