import JobControl.Proofs.Ownership

/-!
# Tending jobs

Once the processes of a line are started, all that a shell does with their job is to wait for it, to
signal it, to lend it the terminal, and to say or log what has become of it.

## Main definitions

* `Call.isTending` — the requests of this kind.
* `JobTable.Takes` — how a job gets its place in the background.
* `JobTable.Waited` — how a job is waited for in the foreground and leaves it.

## Main results

* `tending_track`, `tending_resumeForeground`, `tending_resumeBackground` — an operation on a job
  makes no other request.
* `takes_of_run`, `waited_of_waitForeground` — every run is of one of these forms.
-/

namespace JobControl

open JobControl.Action (run_pure_iff run_bind_iff run_bind_pure_iff run_bind_pair_iff
  run_ask_bind_iff)

/-- The request waits for a process, signals a group, lends the terminal or takes it back, or says
or logs something. -/
def Call.isTending : Call → Bool
  | .wait _ _ | .signalGroup _ _ | .setTerminalGroup _ | .setModes _ | .say _ | .log _ => true
  | _ => false

/-- An action that can only make requests that tend jobs. -/
abbrev Action.IsTending {α : Type} (a : Action α) : Prop := a.Only fun c => c.isTending = true

/-! ### What may be asked -/

theorem tending_say (message : Message) : (Action.say message).IsTending := .ask rfl

theorem tending_resume (job : Job) : job.resume.IsTending :=
  only_resume (fun _ => rfl) fun _ _ => rfl

theorem tending_setBackground (t : JobTable) (job : Job) : (t.setBackground job).IsTending :=
  only_setBackground (fun _ => rfl) fun _ _ => rfl

section Only

variable {P : Call → Prop} {terminal : Terminal}

/-- Lending the terminal makes one request of it, and may log that it was refused. -/
theorem only_handTo {group : Pid} (logging : ∀ entry, P (.log entry))
    (lending : ∀ group, P (.setTerminalGroup group)) : (terminal.handTo group).Only P := by
  unfold Terminal.handTo
  split
  · refine .bind (.ask (lending _)) fun answer => ?_
    cases answer with
    | ok _ => exact .pure _
    | error e => exact .ask (logging _)
  · exact .pure _

theorem only_reclaim (logging : ∀ entry, P (.log entry))
    (lending : ∀ group, P (.setTerminalGroup group)) (restoring : ∀ modes, P (.setModes modes)) :
    terminal.reclaim.Only P := by
  refine .bind (only_handTo logging lending) fun _ => ?_
  split
  · refine .bind (.ask (restoring _)) fun answer => ?_
    cases answer with
    | ok _ => exact .pure _
    | error e => exact .ask (logging _)
  · exact .pure _

end Only

theorem tending_handTo (terminal : Terminal) (group : Pid) : (terminal.handTo group).IsTending :=
  only_handTo (fun _ => rfl) fun _ => rfl

theorem tending_reclaim (terminal : Terminal) : terminal.reclaim.IsTending :=
  only_reclaim (fun _ => rfl) (fun _ => rfl) fun _ => rfl

theorem tending_wait (job : Job) : job.wait.IsTending := by
  refine .bind (only_survey (fun _ => rfl) fun _ _ => rfl) fun found => ?_
  dsimp only
  split <;> exact .pure _

theorem tending_waitForeground (t : JobTable) (job : Job) : (t.waitForeground job).IsTending := by
  refine .bind (.bind (tending_wait _) fun waited => ?_) fun t' =>
    .bind (only_leaveForeground (fun _ => rfl) fun _ _ => rfl) fun _ => .pure _
  obtain ⟨after, result⟩ := waited
  cases result with
  | ok _ => exact .pure _
  | error failure => exact .bind (tending_say _) fun _ => .pure _

theorem tending_waitAndReclaim (shell : Shell) (job : Job) :
    (shell.waitAndReclaim job).IsTending := by
  refine .bind (tending_waitForeground _ _) fun waited => .bind (tending_reclaim _) fun _ => ?_
  split
  · exact .bind (tending_say _) fun _ => .pure _
  · exact .pure _

theorem tending_runForeground (shell : Shell) (job : Job) : (shell.runForeground job).IsTending :=
  .bind (tending_handTo _ _) fun _ => tending_waitAndReclaim _ _

theorem tending_launchBackground (shell : Shell) (job : Job) :
    (shell.launchBackground job).IsTending :=
  .bind (tending_say _) fun _ => .bind (tending_setBackground _ _) fun _ => .pure _

/-- Following the processes just started makes no other request. -/
theorem tending_track (shell : Shell) (started : List Pid) (background : Bool) :
    (Line.track shell started background).IsTending := by
  unfold Line.track
  split
  · exact .pure _
  · split
    · exact .bind (tending_launchBackground _ _) fun _ => .pure _
    · exact .bind (tending_runForeground _ _) fun _ => .pure _

theorem tending_resumeForeground (shell : Shell) : shell.resumeForeground.IsTending := by
  unfold Shell.resumeForeground
  split
  · exact .pure _
  · refine .bind (tending_handTo _ _) fun _ => .bind (tending_resume _) fun resumed => ?_
    cases resumed with
    | ok job => exact .bind (tending_waitAndReclaim _ _) fun _ => .pure _
    | error e =>
      exact .bind (tending_reclaim _) fun _ => .bind (tending_setBackground _ _) fun _ => .pure _

theorem tending_resumeBackground (shell : Shell) : shell.resumeBackground.IsTending := by
  unfold Shell.resumeBackground
  split
  · exact .pure _
  · split
    · exact .pure _
    · refine .bind (tending_resume _) fun resumed => ?_
      cases resumed with
      | ok job => exact .bind (tending_say _) fun _ => .pure _
      | error e => exact .pure _

theorem forks_of_tending {events : List Event} (h : ∀ e ∈ events, e.call.isTending = true) :
    forks events = [] := by
  refine forks_eq_nil fun e he child hcall => ?_
  have tends := h e he
  rw [hcall] at tends
  cases tends

/-! ### What comes of it -/

variable {t t' : JobTable} {job : Job} {rounds : Nat} {events : List Event}

/-- A job gets its place in the background: it was free, or the job that was there is disowned. -/
inductive JobTable.Takes (t : JobTable) (job : Job) (rounds : Nat) : List Event → JobTable → Prop
  | free : t.background = none →
      Takes t job rounds [] { t with background := some { job with foreground := false } }
  | displacing {previous displaced : Job} {events : List Event} : t.background = some previous →
      (JobTable.displace previous rounds).Run events displaced →
      Takes t job rounds events
        { t with
          background := some { job with foreground := false }
          disowned := t.disowned ++ [displaced] }

theorem JobTable.Takes.background_eq (h : t.Takes job rounds events t') :
    t'.background = some { job with foreground := false } := by
  cases h <;> rfl

theorem takes_of_run (h : (t.setBackground job rounds).Run events t') :
    t.Takes job rounds events t' := by
  obtain ⟨foreground, background, disowned⟩ := t
  cases background with
  | none =>
    obtain ⟨rfl, rfl⟩ := run_pure_iff.mp h
    exact .free rfl
  | some previous =>
    obtain ⟨displaced, hdisplace, rfl⟩ := run_bind_pure_iff.mp h
    exact .displacing rfl hdisplace

/-- A job is waited for in the foreground, and leaves it: it has ended, or it moves to the
background. -/
inductive JobTable.Waited (t : JobTable) (job : Job) (rounds : Nat) :
    List Event → JobTable → Outcome → Prop
  | ended {asked spoken : List Event} {found : Findings} :
      Inquiry.blocking.Surveyed job.members asked found →
      Complains spoken →
      (job.record found).state = .done →
      Waited t job rounds (asked ++ (spoken ++ [⟨.log (.finished job.pgid), ()⟩]))
        { t with foreground := none } (job.record found).outcome
  | moved {asked spoken placing : List Event} {found : Findings} {t' : JobTable} :
      Inquiry.blocking.Surveyed job.members asked found →
      Complains spoken →
      (job.record found).state ≠ .done →
      JobTable.Takes { t with foreground := none } (job.record found) rounds placing t' →
      Waited t job rounds
        (asked ++ (spoken ++ ⟨.log (.movedToBackground job.pgid), ()⟩ :: placing)) t'
        (job.record found).outcome

/-- **Every wait in the foreground asks the running members and then gives the job its place.** -/
theorem waited_of_waitForeground {outcome : Outcome}
    (h : (t.waitForeground job rounds).Run events (t', outcome)) :
    t.Waited job rounds events t' outcome := by
  obtain ⟨awaiting, rest, waited, rfl, hawait, hrest⟩ := run_bind_iff.mp h
  obtain ⟨left, hleave, rfl, rfl⟩ := run_bind_pair_iff.mp hrest
  obtain ⟨asked, spoken, found, rfl, complains, hsurvey, rfl⟩ := run_awaitForeground rfl hawait
  rw [List.append_assoc]
  -- the job leaves as it was recorded, but for the mark of the foreground
  simp only [JobTable.leaveForeground] at hleave
  split at hleave
  · next hdone =>
    obtain ⟨_, last, rfl, hlast⟩ := run_ask_bind_iff.mp hleave
    obtain ⟨rfl, rfl⟩ := run_pure_iff.mp hlast
    exact .ended hsurvey complains hdone
  · next halive =>
    obtain ⟨_, placing, rfl, hplacing⟩ := run_ask_bind_iff.mp hleave
    exact .moved hsurvey complains halive (takes_of_run hplacing)

end JobControl
