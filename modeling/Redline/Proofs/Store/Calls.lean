/-
  Calls of a store — what a store answers, and the state that it leaves behind.

  1. **Outcomes** — a call whose state is a value is a function of that state.  A call put together
     from two succeeds exactly when both do, one after the other (`outcome_bind_eq_ok_iff`), and fails
     exactly when one of them does (`outcome_bind_eq_error_iff`).
  2. **Operations** — all that a store can be asked for, as values, and the answers to it.
  3. **Histories** — what a store answers to a list of operations, with the state after each.
-/
import Redline.Store.Catalog

namespace Redline

variable {σ α β : Type}

/-! ## Outcomes -/

/-- What a call of a store answers in the state `st`, and the state that it leaves. -/
def outcome (call : ExceptT StoreError (StateM σ) α) (st : σ) : Except StoreError α × σ :=
  (call.run.run st).run

/-- A call that starts with a step of the state alone. -/
theorem outcome_mk_bind {step : StateM σ β} {next : β → StateM σ (Except StoreError α)} {st st' : σ}
    {b : β} (h : step st = (b, st')) :
    outcome (ExceptT.mk (step >>= next)) st = next b st' := by
  show next (step st).1 (step st).2 = _
  rw [h]

theorem outcome_liftM (step : StateM σ α) (st : σ) :
    outcome (liftM step : ExceptT StoreError (StateM σ) α) st
      = (.ok (step st).1, (step st).2) := rfl

theorem outcome_bind (call : ExceptT StoreError (StateM σ) α)
    (next : α → ExceptT StoreError (StateM σ) β) (st : σ) :
    outcome (call >>= next) st = match outcome call st with
      | (.ok a, st') => outcome (next a) st'
      | (.error e, st') => (.error e, st') := by
  show (ExceptT.bindCont next (outcome call st).1 : StateM σ _) (outcome call st).2 = _
  obtain ⟨answer, st'⟩ := outcome call st
  cases answer <;> rfl

theorem outcome_bind_of_ok {call : ExceptT StoreError (StateM σ) α} {st st' : σ} {a : α}
    (h : outcome call st = (.ok a, st')) (next : α → ExceptT StoreError (StateM σ) β) :
    outcome (call >>= next) st = outcome (next a) st' := by
  rw [outcome_bind, h]

/-- Two calls succeed together when one succeeds after the other. -/
theorem outcome_bind_eq_ok_iff {call : ExceptT StoreError (StateM σ) α}
    {next : α → ExceptT StoreError (StateM σ) β} {st st'' : σ} {b : β} :
    outcome (call >>= next) st = (.ok b, st'') ↔
      ∃ a st', outcome call st = (.ok a, st') ∧ outcome (next a) st' = (.ok b, st'') := by
  rw [outcome_bind]
  constructor
  · intro h
    split at h
    · exact ⟨_, _, ‹_›, h⟩
    · cases h
  · rintro ⟨a, st', hcall, hnext⟩
    rw [hcall]
    exact hnext

/-- Two calls fail together when the first fails, or the second after it. -/
theorem outcome_bind_eq_error_iff {call : ExceptT StoreError (StateM σ) α}
    {next : α → ExceptT StoreError (StateM σ) β} {st st'' : σ} {e : StoreError} :
    outcome (call >>= next) st = (.error e, st'') ↔ outcome call st = (.error e, st'') ∨
      ∃ a st', outcome call st = (.ok a, st') ∧ outcome (next a) st' = (.error e, st'') := by
  rw [outcome_bind]
  constructor
  · intro h
    split at h
    · exact .inr ⟨_, _, ‹_›, h⟩
    · cases h
      exact .inl ‹_›
  · rintro (hcall | ⟨a, st', hcall, hnext⟩)
    · rw [hcall]
    · rw [hcall]
      exact hnext

/-- Two calls together answer alike in two states, if the first does and then the second. -/
theorem answer_bind_congr {call : ExceptT StoreError (StateM σ) α}
    {next : α → ExceptT StoreError (StateM σ) β} {st st' : σ}
    (hcall : (outcome call st).1 = (outcome call st').1)
    (hnext : ∀ a st₁ st₁', outcome call st = (.ok a, st₁) → outcome call st' = (.ok a, st₁') →
      (outcome (next a) st₁).1 = (outcome (next a) st₁').1) :
    (outcome (call >>= next) st).1 = (outcome (call >>= next) st').1 := by
  rw [outcome_bind, outcome_bind]
  cases hst : outcome call st with
  | mk answer st₁ =>
    cases hst' : outcome call st' with
    | mk answer' st₁' =>
      rw [hst, hst'] at hcall
      cases hcall
      cases answer with
      | error e => rfl
      | ok a => exact hnext a st₁ st₁' hst hst'

/-! ## Operations -/

/-- What a store can be asked for. -/
inductive Operation where
  | fetch (id : EntryId)
  | save (id? : Option EntryId) (document : Document)
  | list
  | delete (id : EntryId)
  | tagCounts
  | categoryPaths

/-- What a store answers to an operation. -/
inductive Answer where
  | found (e? : Option Entry)
  | saved (e : Entry)
  | entries (es : List Entry)
  | deleted (there : Bool)
  | tags (ts : List TagCount)
  | paths (ps : List (List Category))
deriving DecidableEq

/-- The call that an operation stands for. -/
def Operation.call (store : DocumentStore (StateM σ)) :
    Operation → ExceptT StoreError (StateM σ) Answer
  | .fetch id => return .found (← store.fetch id)
  | .save id? document => return .saved (← store.save id? document)
  | .list => return .entries (← store.list)
  | .delete id => return .deleted (← store.delete id)
  | .tagCounts => return .tags (← store.tagCounts)
  | .categoryPaths => return .paths (← store.categoryPaths)

/-! ## Histories -/

/-- What a store answers to one operation after another, with the state after each of them. -/
def history (store : DocumentStore (StateM σ)) :
    List Operation → σ → List (Except StoreError Answer × σ)
  | [], _ => []
  | op :: ops, st =>
    let step := outcome (op.call store) st
    step :: history store ops step.2

end Redline
