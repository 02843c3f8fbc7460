/-
  Requests — what a store is asked when a form is prepared.

  Nothing is known of the store here, not even what its operations do besides answering: they run in
  any lawful monad, they may fail, by plan or otherwise, and the next answer may depend on all that
  was asked before.  So what is asked is said by equations in that monad.

  1. **Noted requests** — a store can note down each request beside its answer.
  2. **Answers** — what is to become of a form, by what the store says of its target (`AnswersTo`).
  3. **Preparing** — a form without a title, or without a target, asks nothing.  Every other form
     asks once, for the entry with the target id, and the answer decides (`asksForTarget`).
-/
import Redline.Preview.Workflow
import Redline.Proofs.Store.Calls
import Redline.Store.Faults
import Redline.Store.Memory

namespace Redline

open FrontMatter (encodeDocument)

variable {m : Type → Type} [Monad m] {α : Type}

/-! ## Noted requests -/

/-- The call, with its request noted down behind those that are noted already. -/
def noting (request : Operation) (call : ExceptT StoreError m α) :
    ExceptT StoreError (StateT (List Operation) m) α :=
  ExceptT.mk fun notes => return (← call.run, notes ++ [request])

namespace DocumentStore

/-- The store `s`, with a note of each request. -/
def noted (s : DocumentStore m) : DocumentStore (StateT (List Operation) m) where
  fetch id := noting (.fetch id) (s.fetch id)
  save id? document := noting (.save id? document) (s.save id? document)
  list := noting .list s.list
  delete id := noting (.delete id) (s.delete id)

end DocumentStore

/-! ## Answers -/

/-- The session is that of the form, beside the entry `stored` with the written form `text`. -/
structure Session.LaidBeside (session : Session) (mode : PreviewMode) (form : EntryForm)
    (stored : Option Entry) (text : String) : Prop where
  mode_eq : session.mode = mode
  form_eq : session.form = form
  stored_eq : session.stored = stored
  storedText_eq : session.storedText = text

/-- What is to become of a form for the entry `id`, by what the store says of that entry. -/
inductive AnswersTo (mode : PreviewMode) (form : EntryForm) (id : EntryId) :
    Except StoreError (Option Entry) → Except PreviewError Session → Prop where
  | failure (e : StoreError) : AnswersTo mode form id (.error e) (.error (.store e))
  | missing {updateTimestamp : Bool} : mode = .edit id updateTimestamp →
      AnswersTo mode form id (.ok none) (.error (.entryNotFound id))
  | absent {session : Session} : mode = .create (some id) →
      session.LaidBeside mode form none "" → AnswersTo mode form id (.ok none) (.ok session)
  | found {e : Entry} {session : Session} :
      session.LaidBeside mode form (some e) (encodeDocument e.document) →
      AnswersTo mode form id (.ok (some e)) (.ok session)

theorem EntryForm.isTitleBlank_iff (f : EntryForm) :
    f.isTitleBlank = true ↔ Text.trim f.title = "" := by
  rw [isTitleBlank, decide_eq_true_iff, ← String.toList_inj, Text.toList_trim, String.toList_empty]

namespace DocumentStore

variable {mode : PreviewMode} {form : EntryForm} {id : EntryId}

/-- What becomes of a form for the entry `id`. -/
def answerTo (mode : PreviewMode) (form : EntryForm) (id : EntryId) :
    Except StoreError (Option Entry) → Except PreviewError Session
  | .error e => .error (.store e)
  | .ok (some e) => .ok (.prepared mode form (some e))
  | .ok none =>
    match mode with
    | .create _ => .ok (.prepared mode form none)
    | .edit _ _ => .error (.entryNotFound id)

theorem answersTo_answerTo (htarget : mode.target = some id)
    (found : Except StoreError (Option Entry)) :
    AnswersTo mode form id found (answerTo mode form id found) := by
  cases found with
  | error e => exact .failure e
  | ok e? =>
    cases e? with
    | some e => exact .found ⟨rfl, rfl, rfl, rfl⟩
    | none =>
      cases mode with
      | create id? =>
        cases htarget
        exact .absent rfl ⟨rfl, rfl, rfl, rfl⟩
      | edit id' updateTimestamp =>
        cases htarget
        exact .missing rfl

/-! ## Preparing -/

variable [LawfulMonad m] (store : DocumentStore m)

theorem run_prepare_of_blank (htitle : form.isTitleBlank = true) :
    (store.prepare mode form).run = pure (.error (.invalidForm "title is required")) := by
  simp [prepare, htitle]

/-- With a title, all depends on the entry that the form is laid beside. -/
theorem run_prepare_of_title (htitle : form.isTitleBlank = false) :
    (store.prepare mode form).run
      = Except.map (Session.prepared mode form) <$> (store.storedEntry mode).run := by
  simp [prepare, htitle]

theorem run_prepare_of_untargeted (htitle : form.isTitleBlank = false)
    (htarget : mode.target = none) :
    (store.prepare mode form).run = pure (.ok (.prepared mode form none)) := by
  rw [run_prepare_of_title store htitle]
  cases mode with
  | edit id updateTimestamp => cases htarget
  | create id? =>
    cases htarget
    exact map_pure _ _

/-- **A form with a title and a target** asks for the target and for nothing else. -/
theorem run_prepare_of_target (htitle : form.isTitleBlank = false)
    (htarget : mode.target = some id) :
    (store.prepare mode form).run = answerTo mode form id <$> (store.fetch id).run := by
  rw [run_prepare_of_title store htitle]
  cases mode with
  | create id? =>
    cases htarget
    rw [storedEntry, forPreview, ExceptT.run_adapt, Functor.map_map]
    refine congrArg (· <$> (store.fetch id).run) (funext fun found => ?_)
    rcases found with e | e?
    · rfl
    · cases e? <;> rfl
  | edit id' updateTimestamp =>
    cases htarget
    rw [storedEntry, ExceptT.run_bind, forPreview, ExceptT.run_adapt, bind_map_left, map_bind,
      map_eq_pure_bind]
    refine bind_congr fun found => ?_
    rcases found with e | e?
    · exact map_pure _ _
    · cases e? <;> exact map_pure _ _

/-- A request is noted, and answered as ever. -/
theorem run_fetch_noted (id : EntryId) (notes : List Operation) :
    (store.noted.fetch id).run.run notes
      = (fun found => (found, notes ++ [.fetch id])) <$> (store.fetch id).run :=
  (map_eq_pure_bind _ _).symm

theorem run_noted_prepare_of_target (htitle : form.isTitleBlank = false)
    (htarget : mode.target = some id) (notes : List Operation) :
    (store.noted.prepare mode form).run.run notes
      = (fun found => (answerTo mode form id found, notes ++ [.fetch id]))
        <$> (store.fetch id).run := by
  rw [run_prepare_of_target store.noted htitle htarget, StateT.run_map, run_fetch_noted,
    Functor.map_map]

/-- How a form is prepared at a store that notes its requests, behind those in `notes`. -/
structure AsksForTarget (store : DocumentStore m) (mode : PreviewMode) (form : EntryForm)
    (notes : List Operation) : Prop where
  /-- A form without a title is refused, and nothing is asked. -/
  refused : Text.trim form.title = "" → (store.noted.prepare mode form).run.run notes
    = pure (.error (.invalidForm "title is required"), notes)
  /-- A form without a target is laid beside nothing, and nothing is asked. -/
  untargeted : Text.trim form.title ≠ "" → mode.target = none →
    ∃ session : Session, session.LaidBeside mode form none ""
      ∧ (store.noted.prepare mode form).run.run notes = pure (.ok session, notes)
  /-- Any other form asks once, for its target, and what is found decides. -/
  targeted : ∀ id, Text.trim form.title ≠ "" → mode.target = some id →
    ∃ answer : Except StoreError (Option Entry) → Except PreviewError Session,
      (∀ found, AnswersTo mode form id found (answer found))
      ∧ (store.noted.prepare mode form).run.run notes
        = (fun found => (answer found, notes ++ [.fetch id])) <$> (store.fetch id).run
  /-- Without the notes, these are the answers of the store as it is. -/
  unnoted : Prod.fst <$> (store.noted.prepare mode form).run.run notes
    = (store.prepare mode form).run

/-- **Preparing a form asks once, or not at all**, and for nothing but the entry with the target id.
    Whatever the store does, and whatever was asked before. -/
theorem asksForTarget (mode : PreviewMode) (form : EntryForm) (notes : List Operation) :
    store.AsksForTarget mode form notes := by
  have htitle : Text.trim form.title ≠ "" ↔ form.isTitleBlank = false := by
    rw [Ne, ← form.isTitleBlank_iff, Bool.not_eq_true]
  constructor
  · intro hform
    rw [run_prepare_of_blank store.noted (form.isTitleBlank_iff.mpr hform)]
    rfl
  · intro hform hnone
    refine ⟨.prepared mode form none, ⟨rfl, rfl, rfl, rfl⟩, ?_⟩
    rw [run_prepare_of_untargeted store.noted (htitle.mp hform) hnone]
    rfl
  · intro id hform hid
    exact ⟨answerTo mode form id, answersTo_answerTo hid,
      run_noted_prepare_of_target store (htitle.mp hform) hid notes⟩
  · cases hform : form.isTitleBlank with
    | true =>
      rw [run_prepare_of_blank store.noted hform, run_prepare_of_blank store hform]
      exact map_pure _ _
    | false =>
      cases hid : mode.target with
      | none =>
        rw [run_prepare_of_untargeted store.noted hform hid,
          run_prepare_of_untargeted store hform hid]
        exact map_pure _ _
      | some id =>
        rw [run_noted_prepare_of_target store hform hid, run_prepare_of_target store hform hid,
          Functor.map_map]

end DocumentStore

/-- A plan that fails the first `fetch`, and the first `save`. -/
def FaultPlan.failing : FaultPlan where
  fetch := [some (.backend "down")]
  save := [some .readOnly]

/-- At a store that fails by plan an edit takes the fault for `fetch` and leaves the one for `save`;
    a form without a title takes none, nor does a form without a target. -/
theorem asksForTarget_failing :
    (((Memory.store.withFaults.noted.prepare (.edit EntryId.first false) { title := " " }).run.run
        []).run .failing).run Memory.empty
      = (((.error (.invalidForm "title is required"), []), .failing), Memory.empty)
    ∧ (∃ session, session.LaidBeside (.create none) { title := "Title" } none ""
      ∧ (((Memory.store.withFaults.noted.prepare (.create none) { title := "Title" }).run.run
          []).run .failing).run Memory.empty = (((.ok session, []), .failing), Memory.empty))
    ∧ (((Memory.store.withFaults.noted.prepare (.edit EntryId.first false)
        { title := "Title" }).run.run []).run .failing).run Memory.empty
      = (((.error (.store (.backend "down")), [.fetch EntryId.first]), { save := [some .readOnly] }),
        Memory.empty) := by
  have hasks := fun mode form => DocumentStore.asksForTarget Memory.store.withFaults mode form []
  refine ⟨?_, ?_, ?_⟩
  · rw [(hasks _ _).refused (by decide)]
    rfl
  · obtain ⟨session, hsession, hrun⟩ :=
      (hasks (.create none) { title := "Title" }).untargeted (by decide) rfl
    rw [hrun]
    exact ⟨session, hsession, rfl⟩
  · obtain ⟨answer, hanswer, hrun⟩ := (hasks (.edit EntryId.first false)
      { title := "Title" }).targeted EntryId.first (by decide) rfl
    have hfailed : answer (.error (.backend "down")) = .error (.store (.backend "down")) := by
      have h := hanswer (.error (.backend "down"))
      generalize answer (.error (.backend "down")) = a at h ⊢
      cases h
      rfl
    rw [hrun, ← hfailed]
    rfl

end Redline
