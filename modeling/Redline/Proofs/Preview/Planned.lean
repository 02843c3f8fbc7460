/-
  Planned runs — sessions at a desk whose store may fail.

  1. **Faults** — a call of a store that fails by plan is refused before the store sees it, or it is
     the call of the store itself (`outcome_joined_guarded`).  So a confirmation is refused by plan, or
     it is a save (`cases_confirm_error`, `save_of_confirm_ok`).
  2. **Schedules** — at a desk each step comes with the faults for the calls that it makes.  A run with
     one plan for all of its steps is such a run (`performAll_schedule`).
  3. **Desks side by side** — stores that answer alike fail alike by one plan, so desks with the same
     sessions stay so, step after step (`AnswersAlike.perform`).
-/
import Redline.Proofs.Preview.Interleaved
import Redline.Store.Faults

namespace Redline

variable {σ τ α : Type}

/-! ## Faults -/

/-- A call that has a plan beside its state, as a call with both in one state. -/
def joined (call : ExceptT StoreError (StateT FaultPlan (StateM σ)) α) :
    ExceptT StoreError (StateM (σ × FaultPlan)) α :=
  ExceptT.mk fun (st, plan) =>
    let ((answer, plan), st) := (call.run.run plan).run st
    (answer, (st, plan))

/-- The store, failing by plan; what is left of the plan is a part of the state. -/
def DocumentStore.faulty (store : DocumentStore (StateM σ)) :
    DocumentStore (StateM (σ × FaultPlan)) where
  fetch id := joined (store.withFaults.fetch id)
  save id? document := joined (store.withFaults.save id? document)
  list := joined store.withFaults.list
  delete id := joined (store.withFaults.delete id)

/-- **A call that may fail by plan** is refused, and then the state is as it was, or it is the call
    itself. -/
theorem outcome_joined_guarded (queue : FaultQueue) (call : ExceptT StoreError (StateM σ) α) (st : σ)
    (plan : FaultPlan) : outcome (joined (guarded queue call)) (st, plan) =
      match plan.next queue with
      | (some fault, plan') => (.error fault.error, (st, plan'))
      | (none, plan') => ((outcome call st).1, ((outcome call st).2, plan')) := by
  have hrun : outcome (joined (guarded queue call)) (st, plan) =
      match (match plan.next queue with
        | (some fault, plan') => return (.error fault.error, plan')
        | (none, plan') => return (← call.run, plan') : StateM σ _) st with
      | ((answer, plan'), st') => (answer, (st', plan')) := rfl
  rw [hrun]
  obtain ⟨fault?, plan'⟩ := plan.next queue
  cases fault? <;> rfl

/-- The next save is failed by plan. -/
def FaultPlan.RefusesSave (plan : FaultPlan) : Prop :=
  ∃ fault, (plan.next saveQueue).1 = some fault

/-- A save that may fail by plan is refused, or it is the save itself. -/
theorem cases_save_faulty (store : DocumentStore (StateM σ)) (id? : Option EntryId)
    (document : Document) (st : σ) (plan : FaultPlan) :
    (plan.RefusesSave ∧ ∃ cause plan',
      outcome (store.faulty.save id? document) (st, plan) = (.error cause, (st, plan')))
    ∨ (¬ plan.RefusesSave ∧ ∃ plan', ∀ st, outcome (store.faulty.save id? document) (st, plan)
      = ((outcome (store.save id? document) st).1,
        ((outcome (store.save id? document) st).2, plan'))) := by
  have hrun := outcome_joined_guarded FaultPlan.saveQueue (store.save id? document)
  obtain ⟨fault?, plan', hnext⟩ : ∃ fault? plan',
      plan.next FaultPlan.saveQueue = (fault?, plan') := ⟨_, _, rfl⟩
  cases fault? with
  | some fault =>
    refine .inl ⟨⟨fault, congrArg Prod.fst hnext⟩, fault.error, plan', ?_⟩
    refine (hrun st plan).trans ?_
    rw [hnext]
  | none =>
    refine .inr ⟨?_, plan', fun st => ?_⟩
    · rintro ⟨fault, hfault⟩
      rw [hnext] at hfault
      cases hfault
    · refine (hrun st plan).trans ?_
      rw [hnext]

namespace DocumentStore

section Confirming

variable {store : DocumentStore (StateM σ)} {session : Session} {st st' : σ} {plan plan' : FaultPlan}

/-- A confirmation fails by plan, or because the store cannot save. -/
theorem cases_confirm_error {error : PreviewError}
    (hconfirm : previewOutcome (store.faulty.confirm session) (st, plan)
      = (.error error, (st', plan'))) :
    plan.RefusesSave ∧ st' = st ∨ ¬ plan.RefusesSave ∧ ∃ cause,
      outcome (store.save session.mode.target session.candidate) st = (.error cause, st') := by
  obtain ⟨cause, -, hsave⟩ := confirm_eq_error hconfirm
  rcases cases_save_faulty store session.mode.target session.candidate st plan with
    ⟨hrefuses, cause', left, hrefused⟩ | ⟨hallowed, left, hrun⟩
  · rw [hrefused] at hsave
    cases hsave
    exact .inl ⟨hrefuses, rfl⟩
  · rw [hrun] at hsave
    obtain ⟨hanswer, hstate⟩ := Prod.mk.inj hsave
    exact .inr ⟨hallowed, cause, Prod.ext hanswer (Prod.mk.inj hstate).1⟩

/-- A confirmation that succeeds is a save of the store itself, and any other save like it would
    have succeeded under the same plan. -/
theorem save_of_confirm_ok {e : Entry}
    (hconfirm : previewOutcome (store.faulty.confirm session) (st, plan) = (.ok e, (st', plan'))) :
    outcome (store.save session.mode.target session.candidate) st = (.ok e, st')
      ∧ ∀ st₁, outcome (store.save session.mode.target session.candidate) st₁ = (.ok e, st') →
        previewOutcome (store.faulty.confirm session) (st₁, plan) = (.ok e, (st', plan')) := by
  rw [confirm_eq_ok_iff] at hconfirm
  rcases cases_save_faulty store session.mode.target session.candidate st plan with
    ⟨-, cause, left, hrefused⟩ | ⟨-, left, hrun⟩
  · rw [hrefused] at hconfirm
    cases hconfirm
  · rw [hrun] at hconfirm
    obtain ⟨hanswer, hstate⟩ := Prod.mk.inj hconfirm
    obtain ⟨hst, rfl⟩ := Prod.mk.inj hstate
    refine ⟨Prod.ext hanswer hst, fun st₁ hsave => ?_⟩
    rw [confirm_eq_ok_iff, hrun, hsave]

end Confirming

end DocumentStore

/-! ## Schedules -/

/-- A step, with the faults for the calls that it makes. -/
structure PlannedStep where
  step : DeskStep
  faults : FaultPlan := {}

namespace Desk

variable (store : DocumentStore (StateM σ))

/-- The desk, with `faults` for the calls that are made next. -/
def under (desk : Desk σ) (faults : FaultPlan) : Desk (σ × FaultPlan) :=
  ⟨(desk.state, faults), desk.sessions⟩

/-- The desk, whatever is left of a plan. -/
def bare (desk : Desk (σ × FaultPlan)) : Desk σ :=
  ⟨desk.state.1, desk.sessions⟩

/-- The desk after a step whose calls may fail. -/
def perform (desk : Desk σ) (s : PlannedStep) : Desk σ :=
  ((desk.under s.faults).step store.faulty s.step).bare

/-- The desk after one such step after another. -/
def performAll (desk : Desk σ) (steps : List PlannedStep) : Desk σ :=
  steps.foldl (perform store) desk

/-- What is answered when the session with that number is confirmed with these faults, and the state
    that is left. -/
def confirmUnder? (desk : Desk σ) (faults : FaultPlan) (number : Nat) :
    Option (Except PreviewError Entry × σ) :=
  ((desk.under faults).confirm? store.faulty number).map fun (answer, left) => (answer, left.1)

/-- The steps of a run with one plan, each with what is left of the plan when it is made. -/
def schedule (desk : Desk (σ × FaultPlan)) : List DeskStep → List PlannedStep
  | [] => []
  | s :: steps => ⟨s, desk.state.2⟩ :: (desk.step store.faulty s).schedule steps

/-- **One plan for a whole run** is a schedule. -/
theorem performAll_schedule (desk : Desk (σ × FaultPlan)) (steps : List DeskStep) :
    desk.bare.performAll store (desk.schedule store steps) = (desk.run store.faulty steps).bare := by
  induction steps generalizing desk with
  | nil => rfl
  | cons s steps ih => exact ih (desk.step store.faulty s)

variable {store} {desk : Desk σ} {faults : FaultPlan} {number : Nat} {st : σ}

/-- After a confirmation the sessions are the same, and the state is the one that it left. -/
theorem perform_confirm {answer : Except PreviewError Entry}
    (h : desk.confirmUnder? store faults number = some (answer, st)) :
    desk.perform store ⟨.confirm number, faults⟩ = ⟨st, desk.sessions⟩ := by
  obtain ⟨⟨answer', left⟩, hconfirm, hleft⟩ := Option.map_eq_some_iff.mp h
  cases hleft
  show ((desk.under faults).step store.faulty (.confirm number)).bare = _
  rw [step, hconfirm]
  rfl

/-- To confirm a session is to confirm the one with that number. -/
theorem confirmUnder?_eq_some_iff {answer : Except PreviewError Entry} :
    desk.confirmUnder? store faults number = some (answer, st) ↔ ∃ session left,
      desk.sessions[number]? = some session
        ∧ previewOutcome (store.faulty.confirm session) (desk.state, faults)
          = (answer, (st, left)) := by
  constructor
  · intro h
    obtain ⟨⟨answer', left⟩, hconfirm, hleft⟩ := Option.map_eq_some_iff.mp h
    cases hleft
    obtain ⟨session, hsession, houtcome⟩ := Option.map_eq_some_iff.mp hconfirm
    exact ⟨session, left.2, hsession, houtcome⟩
  · rintro ⟨session, left, hsession, houtcome⟩
    refine Option.map_eq_some_iff.mpr ⟨(answer, (st, left)), ?_, rfl⟩
    exact Option.map_eq_some_iff.mpr ⟨session, hsession, houtcome⟩

end Desk

/-! ## Desks side by side -/

namespace DocumentStore.AnswersAlike

variable {R : σ → τ → Prop} {store : DocumentStore (StateM σ)} {store' : DocumentStore (StateM τ)}
  {desk : Desk σ} {desk' : Desk τ}

/-- What stands in `R`, with one plan for both. -/
def WithPlan (R : σ → τ → Prop) (s : σ × FaultPlan) (s' : τ × FaultPlan) : Prop :=
  R s.1 s'.1 ∧ s.2 = s'.2

/-- A fault that is due hits both calls alike, and the same faults are left. -/
theorem related_guarded {call : ExceptT StoreError (StateM σ) α}
    {call' : ExceptT StoreError (StateM τ) α} (h : Related R call.run call'.run)
    (queue : FaultQueue) : Related (WithPlan R) (joined (guarded queue call)).run
      (joined (guarded queue call')).run := by
  rintro ⟨st, plan⟩ ⟨st', _⟩ ⟨hR, rfl⟩
  have hrun : (outcome call st).1 = (outcome call' st').1
      ∧ R (outcome call st).2 (outcome call' st').2 := h st st' hR
  show (outcome (joined (guarded queue call)) (st, plan)).1
      = (outcome (joined (guarded queue call')) (st', plan)).1
    ∧ WithPlan R (outcome (joined (guarded queue call)) (st, plan)).2
      (outcome (joined (guarded queue call')) (st', plan)).2
  rw [outcome_joined_guarded, outcome_joined_guarded]
  split
  · exact ⟨rfl, hR, rfl⟩
  · exact ⟨hrun.1, hrun.2, rfl⟩

/-- **By one plan** stores that answer alike fail alike. -/
theorem faulty (h : AnswersAlike R store store') :
    AnswersAlike (WithPlan R) store.faulty store'.faulty where
  fetch id := related_guarded (h.fetch id) _
  save id? document := related_guarded (h.save id? document) _
  list := related_guarded h.list _
  delete id := related_guarded (h.delete id) _

/-- A planned step over stores that answer alike. -/
theorem perform (h : AnswersAlike R store store') (hdesk : desk.Alike R desk') (s : PlannedStep) :
    (desk.perform store s).Alike R (desk'.perform store' s) := by
  have hunder : (desk.under s.faults).Alike (WithPlan R) (desk'.under s.faults) :=
    ⟨⟨hdesk.state, rfl⟩, hdesk.sessions⟩
  obtain ⟨hstate, hsessions⟩ := h.faulty.step hunder s.step
  exact ⟨hstate.1, hsessions⟩

end DocumentStore.AnswersAlike

end Redline
