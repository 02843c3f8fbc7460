/-
  Preparing and confirming — what they answer, over a store whose state is a value.

  1. **Outcomes** — a call of the store succeeds in a preview exactly when it succeeds by itself.
  2. **Sessions** — a session is without changes exactly when the two texts in it are the same; then
     there is an entry with the text of the candidate.
  3. **Preparing** — a form with a title is laid beside the entry that the store holds under the
     target id (`storedEntry_eq_ok`).  Nothing else is asked of the store, so over two stores in which
     entries are found alike, forms are prepared alike (`related_prepare`), and whatever looking for
     an entry preserves, preparing preserves (`preserves_prepare`).
  4. **Confirming** is saving the candidate, so what is known of saving applies.
-/
import Redline.Preview.Workflow
import Redline.Proofs.Diff.Identical
import Redline.Proofs.Store.Invariant
import Redline.Proofs.Store.Saved

namespace Redline

variable {σ α β : Type}

/-! ## Outcomes -/

/-- What a call of a preview answers in the state `st`, and the state that it leaves. -/
def previewOutcome (call : ExceptT PreviewError (StateM σ) α) (st : σ) :
    Except PreviewError α × σ :=
  (call.run.run st).run

/-- A call of two parts succeeds when both do. -/
theorem previewOutcome_bind_eq_ok_iff {call : ExceptT PreviewError (StateM σ) α}
    {next : α → ExceptT PreviewError (StateM σ) β} {st st'' : σ} {b : β} :
    previewOutcome (call >>= next) st = (.ok b, st'') ↔ ∃ a st',
      previewOutcome call st = (.ok a, st') ∧ previewOutcome (next a) st' = (.ok b, st'') := by
  show (ExceptT.bindCont next (previewOutcome call st).1 : StateM σ _) (previewOutcome call st).2
    = _ ↔ _
  obtain ⟨answer, st'⟩ := previewOutcome call st
  cases answer with
  | error e =>
    constructor
    · intro h
      cases h
    · rintro ⟨a, st₁, hcall, -⟩
      cases hcall
  | ok a =>
    constructor
    · intro h
      exact ⟨a, st', rfl, h⟩
    · rintro ⟨a', st₁, hcall, hnext⟩
      cases hcall
      exact hnext

/-- A call of the store, as a part of a preview. -/
theorem previewOutcome_forPreview_eq_ok_iff {operation : ExceptT StoreError (StateM σ) α}
    {st st' : σ} {a : α} : previewOutcome (DocumentStore.forPreview operation) st = (.ok a, st')
      ↔ outcome operation st = (.ok a, st') := by
  show ((outcome operation st).1.mapError PreviewError.store, (outcome operation st).2) = _ ↔ _
  obtain ⟨answer, st₁⟩ := outcome operation st
  cases answer <;> simp [Except.mapError]

/-! ## Sessions -/

namespace Session

/-- **Without changes** the two texts are the same. -/
theorem hasChanges_prepared_eq_false_iff {mode : PreviewMode} {form : EntryForm}
    {stored : Option Entry} : (prepared mode form stored).hasChanges = false ↔
      (prepared mode form stored).storedText = (prepared mode form stored).candidateText := by
  rw [hasChanges, Bool.not_eq_false']
  exact Diff.isIdentical_compareTexts_iff _ _

end Session

/-- Every written document has its delimiters at least. -/
theorem FrontMatter.encodeDocument_ne_empty (document : Document) :
    encodeDocument document ≠ "" := by
  intro h
  have hlist := congrArg String.toList h
  rw [encodeDocument, toList_encode] at hlist
  cases hlist

/-- A candidate always has a text, so without changes there is an entry with this text. -/
theorem Session.exists_stored_of_hasChanges_eq_false {mode : PreviewMode} {form : EntryForm}
    {stored : Option Entry} (h : (prepared mode form stored).hasChanges = false) :
    ∃ x, stored = some x ∧ FrontMatter.encodeDocument x.document
      = FrontMatter.encodeDocument (prepared mode form stored).candidate := by
  rw [hasChanges_prepared_eq_false_iff] at h
  cases stored with
  | none => exact absurd h.symm (FrontMatter.encodeDocument_ne_empty _)
  | some x => exact ⟨x, rfl, h⟩

namespace DocumentStore

variable {store : DocumentStore (StateM σ)} {mode : PreviewMode} {form : EntryForm}
  {session : Session} {st st' : σ} {x e : Entry}

/-! ## Preparing -/

/-- **What a form is laid beside** is what the store holds under the target id. -/
theorem storedEntry_eq_ok (hreads : store.Reads) {stored : Option Entry}
    (h : previewOutcome (store.storedEntry mode) st = (.ok stored, st')) :
    st' = st ∧ ∀ x ∈ stored, mode.target = some x.id ∧ store.Holds st x := by
  have hfound : ∀ {id : EntryId} {st₁ : σ} {e? : Option Entry},
      previewOutcome (forPreview (store.fetch id)) st = (.ok e?, st₁) →
      st₁ = st ∧ ∀ x ∈ e?, some id = some x.id ∧ store.Holds st x := by
    intro id st₁ e? hfetch
    rw [previewOutcome_forPreview_eq_ok_iff] at hfetch
    refine ⟨(hreads hfetch).1, fun x hx => ?_⟩
    rw [Option.mem_def.mp hx] at hfetch
    obtain ⟨-, hid, hholds⟩ := hreads.holds hfetch
    exact ⟨by rw [hid], hholds⟩
  cases mode with
  | create id? =>
    cases id? with
    | none =>
      cases h
      exact ⟨rfl, fun x hx => absurd hx (Option.not_mem_none x)⟩
    | some id => exact hfound h
  | edit id updateTimestamp =>
    obtain ⟨e?, st₁, hfetch, hrest⟩ := previewOutcome_bind_eq_ok_iff.mp h
    obtain ⟨rfl, hheld⟩ := hfound hfetch
    cases e? with
    | none => cases hrest
    | some x =>
      cases hrest
      exact ⟨rfl, hheld⟩

/-- An edit finds the entry that the store holds. -/
theorem storedEntry_edit (hx : store.Holds st x) (updateTimestamp : Bool) :
    previewOutcome (store.storedEntry (.edit x.id updateTimestamp)) st = (.ok (some x), st) :=
  previewOutcome_bind_eq_ok_iff.mpr
    ⟨some x, st, previewOutcome_forPreview_eq_ok_iff.mpr hx, rfl⟩

theorem prepare_eq_ok_iff :
    previewOutcome (store.prepare mode form) st = (.ok session, st') ↔
      form.isTitleBlank = false ∧ ∃ stored,
        previewOutcome (store.storedEntry mode) st = (.ok stored, st')
          ∧ session = Session.prepared mode form stored := by
  rw [prepare]
  cases htitle : form.isTitleBlank with
  | true =>
    constructor
    · intro h
      cases h
    · rintro ⟨h, -⟩
      cases h
  | false =>
    rw [if_neg Bool.false_ne_true]
    show previewOutcome (store.storedEntry mode >>= fun stored =>
      pure (Session.prepared mode form stored)) st = _ ↔ _
    rw [previewOutcome_bind_eq_ok_iff]
    constructor
    · rintro ⟨stored, st₁, hstored, hpure⟩
      cases hpure
      exact ⟨rfl, stored, hstored, rfl⟩
    · rintro ⟨-, stored, hstored, rfl⟩
      exact ⟨stored, st', hstored, rfl⟩

/-- **A session that was prepared**, with the entry in it that the store holds. -/
theorem prepare_eq_ok (hreads : store.Reads)
    (h : previewOutcome (store.prepare mode form) st = (.ok session, st')) :
    st' = st ∧ form.isTitleBlank = false ∧ session = Session.prepared mode form session.stored
      ∧ ∀ x ∈ session.stored, mode.target = some x.id ∧ store.Holds st x := by
  obtain ⟨htitle, stored, hstored, rfl⟩ := prepare_eq_ok_iff.mp h
  obtain ⟨hst, hheld⟩ := storedEntry_eq_ok hreads hstored
  exact ⟨hst, htitle, rfl, hheld⟩

/-- **A session of an edit** has the entry in it that is edited. -/
theorem prepare_edit_eq_ok {updateTimestamp : Bool} (hx : store.Holds st x)
    (h : previewOutcome (store.prepare (.edit x.id updateTimestamp) form) st = (.ok session, st')) :
    st' = st ∧ session = Session.prepared (.edit x.id updateTimestamp) form (some x) := by
  obtain ⟨-, stored, hstored, rfl⟩ := prepare_eq_ok_iff.mp h
  rw [storedEntry_edit hx] at hstored
  cases hstored
  exact ⟨rfl, rfl⟩

section Related

variable {τ : Type} {R : σ → τ → Prop} {store' : DocumentStore (StateM τ)}

section Preparing

variable (hfetch : ∀ id, Related R (store.fetch id).run (store'.fetch id).run)
include hfetch

/-- To look for the entry of a mode is to fetch once, or nothing at all. -/
theorem related_storedEntry (mode : PreviewMode) :
    Related R (store.storedEntry mode).run (store'.storedEntry mode).run := by
  cases mode with
  | create id? =>
    cases id? with
    | none => exact .pure _
    | some id => exact (hfetch id).adapt _
  | edit id updateTimestamp =>
    refine .bind_run ((hfetch id).adapt _) fun e? _ _ => ?_
    cases e? <;> exact .pure _

/-- **To prepare a form** over stores in which entries are found alike. -/
theorem related_prepare (mode : PreviewMode) (form : EntryForm) :
    Related R (store.prepare mode form).run (store'.prepare mode form).run := by
  rw [prepare, prepare]
  cases form.isTitleBlank with
  | true => exact .pure _
  | false => exact .bind_run (related_storedEntry hfetch mode) fun stored _ _ => .pure _

end Preparing

/-- **To prepare a form** preserves what looking for an entry preserves. -/
theorem preserves_prepare {P : σ → Prop} (hfetch : ∀ id, Preserves P (store.fetch id).run)
    (mode : PreviewMode) (form : EntryForm) : Preserves P (store.prepare mode form).run :=
  related_self_iff.mp
    (related_prepare (fun id => related_self_iff.mpr (hfetch id)) mode form)

/-- To confirm is to save, with failures of its own. -/
theorem AnswersAlike.confirm (h : AnswersAlike R store store') (session : Session) :
    Related R (store.confirm session).run (store'.confirm session).run :=
  (h.save session.mode.target session.candidate).adapt _

end Related

/-! ## Confirming -/

/-- To confirm a session is to save its candidate. -/
theorem confirm_eq_ok_iff : previewOutcome (store.confirm session) st = (.ok e, st') ↔
    outcome (store.save session.mode.target session.candidate) st = (.ok e, st') :=
  previewOutcome_forPreview_eq_ok_iff

/-- To confirm a session fails when saving its candidate fails, and for that cause. -/
theorem confirm_eq_error {error : PreviewError}
    (h : previewOutcome (store.confirm session) st = (.error error, st')) : ∃ cause,
    error = .store cause
      ∧ outcome (store.save session.mode.target session.candidate) st = (.error cause, st') := by
  change ((outcome (store.save session.mode.target session.candidate) st).1.mapError
    PreviewError.store, (outcome (store.save session.mode.target session.candidate) st).2) = _ at h
  generalize outcome (store.save session.mode.target session.candidate) st = done at h ⊢
  obtain ⟨answer, st₁⟩ := done
  cases answer with
  | ok e => cases h
  | error cause =>
    cases h
    exact ⟨cause, rfl, rfl⟩

/-- To prepare an edit and to confirm it is to save over the entry. -/
theorem exists_session_of_save {updateTimestamp : Bool} (hx : store.Holds st x)
    (htitle : form.isTitleBlank = false)
    (hsave : outcome (store.save (some x.id) (form.document (.edit x.id updateTimestamp)
      (some x.document.metadata))) st = (.ok e, st')) : ∃ session,
    previewOutcome (store.prepare (.edit x.id updateTimestamp) form) st = (.ok session, st)
      ∧ previewOutcome (store.confirm session) st = (.ok e, st') :=
  ⟨.prepared (.edit x.id updateTimestamp) form (some x),
    prepare_eq_ok_iff.mpr ⟨htitle, some x, storedEntry_edit hx updateTimestamp, rfl⟩,
    confirm_eq_ok_iff.mpr hsave⟩

end DocumentStore

end Redline
