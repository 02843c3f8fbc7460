/-
  Sessions without changes — what to confirm one changes all the same.

  A session compares texts, but what is saved is a document, and in place of the whole one that was
  there.  So to confirm a session without changes need not be without effect:

  1. **The entry** — without changes there is an entry under the target id, with the text of the
     candidate (`exists_held_of_unchanged`).
  2. **In memory** the candidate takes its place as it is.  The store answers as before exactly when
     the two documents are one, versions of tags and empty summaries included.
  3. **In a directory** the same text is written, so the entry becomes what is read back of it.  The
     store answers as before exactly when the entry is settled.  (A list answers with the names in
     the directory, each of them once: no tree that a store comes to has a location twice.)

  `sameAnswers_confirm_iff` says both.  `not_sameAnswers_confirm` has an entry for either store of
  which something is lost: the version of a tag, the quotes of a date.
-/
import Redline.Proofs.Preview.Clean

namespace Redline

open FrontMatter (encodeDocument decodeDocument IsSettled)

/-- **Without changes** the store holds an entry with the text of the candidate. -/
theorem DocumentStore.exists_held_of_unchanged {σ : Type} {store : DocumentStore (StateM σ)}
    {mode : PreviewMode} {form : EntryForm} {session : Session} {st st' : σ} (hreads : store.Reads)
    (hprepare : previewOutcome (store.prepare mode form) st = (.ok session, st'))
    (hsame : session.hasChanges = false) :
    st' = st ∧ ∃ x, session.stored = some x ∧ session.mode.target = some x.id ∧ store.Holds st x
      ∧ encodeDocument x.document = encodeDocument session.candidate := by
  obtain ⟨hst, -, hsession, hheld⟩ := prepare_eq_ok hreads hprepare
  rw [hsession] at hsame
  obtain ⟨x, hx, htext⟩ := Session.exists_stored_of_hasChanges_eq_false hsame
  obtain ⟨htarget, hholds⟩ := hheld x hx
  have hmode : session.mode = mode := by
    rw [hsession]
    rfl
  rw [← hsession] at htext
  exact ⟨hst, x, hx, by rw [hmode, htarget], hholds, htext⟩

/-- An entry is its document, where the id is settled. -/
theorem Entry.mk_id_eq_iff {x : Entry} {document : Document} :
    (⟨x.id, document⟩ : Entry) = x ↔ document = x.document := by
  cases x
  rw [Entry.mk.injEq, eq_self, true_and]

/-- **When a session without changes has no effect.**  In memory, when the candidate is the document
    that is there; in a directory, when the entry that is there is settled. -/
theorem sameAnswers_confirm_iff (d : Directory) (mode : PreviewMode) (form : EntryForm)
    (session : Session) (e : Entry) (hsame : session.hasChanges = false) :
    (∀ s s₁ s₂ : Memory,
      previewOutcome (Memory.store.prepare mode form) s = (.ok session, s₁) →
      previewOutcome (Memory.store.confirm session) s₁ = (.ok e, s₂) →
      (Memory.store.SameAnswers s s₂ ↔ ∃ x ∈ session.stored, x.document = session.candidate))
    ∧ (∀ t t₁ t₂ : FileTree, t.Distinct →
      previewOutcome (d.store.prepare mode form) t = (.ok session, t₁) →
      previewOutcome (d.store.confirm session) t₁ = (.ok e, t₂) →
      (d.store.SameAnswers t t₂ ↔ ∃ x ∈ session.stored, IsSettled x.document.metadata)) := by
  constructor
  · intro s s₁ s₂ hprepare hconfirm
    obtain ⟨rfl, x, hx, htarget, hholds, -⟩ :=
      DocumentStore.exists_held_of_unchanged Memory.reads hprepare hsame
    rw [DocumentStore.confirm_eq_ok_iff, htarget] at hconfirm
    have he : e = ⟨x.id, session.candidate⟩ := by
      rw [Memory.outcome_save] at hconfirm
      cases hconfirm
      rfl
    rw [Memory.sameAnswers_save_iff hholds hconfirm, he, Entry.mk_id_eq_iff, hx]
    constructor
    · intro heq
      exact ⟨x, rfl, heq.symm⟩
    · rintro ⟨y, hy, hdocument⟩
      cases hy
      exact hdocument.symm
  · intro t t₁ t₂ ht hprepare hconfirm
    obtain ⟨rfl, x, hx, htarget, hholds, htext⟩ :=
      DocumentStore.exists_held_of_unchanged d.reads hprepare hsame
    rw [DocumentStore.confirm_eq_ok_iff, htarget] at hconfirm
    have he : e = ⟨x.id, x.document.recoded⟩ := by
      rw [(Directory.outcome_save_eq_ok_iff.mp hconfirm).1, Document.recoded, Document.recoded,
        htext]
    obtain ⟨-, -, text, -, -, -, hread⟩ := Directory.exists_of_holds hholds
    have hsettled : x.document.recoded = x.document ↔ IsSettled x.document.metadata := by
      rw [hread]
      exact FrontMatter.reread_decodeDocument_eq_iff text
    rw [Directory.sameAnswers_save_iff ht hholds hconfirm, he, Entry.mk_id_eq_iff, hsettled, hx]
    constructor
    · intro hm
      exact ⟨x, rfl, hm⟩
    · rintro ⟨y, hy, hm⟩
      cases hy
      exact hm

/-- The entry of a form that was saved. -/
def Entry.sample : Entry :=
  ⟨EntryId.first, EntryForm.sample.document (.create none) none⟩

/-- The tree with the file of that entry. -/
def FileTree.ofSample : FileTree :=
  FileTree.empty.putFile [FileName.ofText "_", Directory.entryName EntryId.first]
    (encodeDocument Entry.sample.document).toUTF8

/-- To confirm the form of an entry once more has no effect, in memory and in a directory. -/
theorem sameAnswers_confirm_iff_sample : ∃ session : Session, session.hasChanges = false
    ∧ (∃ (s s' : Memory) (e : Entry),
      previewOutcome (Memory.store.prepare (.edit EntryId.first false) EntryForm.sample) s
        = (.ok session, s)
      ∧ previewOutcome (Memory.store.confirm session) s = (.ok e, s')
      ∧ Memory.store.SameAnswers s s')
    ∧ ∃ (t t' : FileTree) (e : Entry), t.Distinct
      ∧ previewOutcome (Directory.sample.store.prepare (.edit EntryId.first false) EntryForm.sample)
        t = (.ok session, t)
      ∧ previewOutcome (Directory.sample.store.confirm session) t = (.ok e, t')
      ∧ Directory.sample.store.SameAnswers t t' := by
  have htitle : EntryForm.sample.isTitleBlank = false := by rfl
  have hsame : (Session.prepared (.edit EntryId.first false) .sample
      (some Entry.sample)).hasChanges = false := Session.hasChanges_prepared_eq_false_iff.mpr rfl
  refine ⟨.prepared (.edit EntryId.first false) .sample (some Entry.sample), hsame, ?_, ?_⟩
  · have hentry : Memory.store.Holds (Memory.empty.insert Entry.sample) Entry.sample := by rfl
    have hprepare := DocumentStore.prepare_eq_ok_iff.mpr
      ⟨htitle, some Entry.sample, DocumentStore.storedEntry_edit hentry false, rfl⟩
    have hconfirm : previewOutcome (Memory.store.confirm (.prepared (.edit EntryId.first false)
        .sample (some Entry.sample))) (Memory.empty.insert Entry.sample)
        = (.ok Entry.sample, (Memory.empty.insert Entry.sample).insert Entry.sample) := by
      rw [DocumentStore.confirm_eq_ok_iff]
      exact Memory.outcome_save _ _ _
    have hiff := (sameAnswers_confirm_iff Directory.sample _ _ _ _ hsame).1 _ _ _ hprepare hconfirm
    exact ⟨_, _, _, hprepare, hconfirm, hiff.mpr ⟨Entry.sample, rfl, rfl⟩⟩
  · have hdistinct : FileTree.ofSample.Distinct := (FileTree.distinct_empty.put _ _).put _ _
    have hentry : Directory.sample.store.Holds FileTree.ofSample Entry.sample := by rfl
    have hprepare := DocumentStore.prepare_eq_ok_iff.mpr
      ⟨htitle, some Entry.sample, DocumentStore.storedEntry_edit hentry false, rfl⟩
    have hconfirm : previewOutcome (Directory.sample.store.confirm (.prepared
        (.edit EntryId.first false) .sample (some Entry.sample))) FileTree.ofSample
        = (.ok ⟨EntryId.first, _⟩, _) := DocumentStore.confirm_eq_ok_iff.mpr (by rfl)
    have hiff := (sameAnswers_confirm_iff Directory.sample _ _ _ _ hsame).2 _ _ _ hdistinct
      hprepare hconfirm
    have hsettled : IsSettled Entry.sample.document.metadata := ⟨by decide,
      fun s hs => absurd hs (Option.not_mem_none s), fun s hs => absurd hs (Option.not_mem_none s)⟩
    exact ⟨_, _, _, hdistinct, hprepare, hconfirm, hiff.mpr ⟨Entry.sample, rfl, hsettled⟩⟩

/-- The entry of the sample form, with a version of its tag. -/
def Entry.versioned : Entry :=
  ⟨EntryId.first, { Entry.sample.document with
    metadata := { Entry.sample.document.metadata with tags := [⟨"lean", some "4"⟩] } }⟩

/-- Without a change that is shown, a tag loses its version in memory, and a date its quotes in a
    directory. -/
theorem not_sameAnswers_confirm :
    (∃ (session : Session) (s s' : Memory) (e : Entry),
      previewOutcome (Memory.store.prepare (.edit EntryId.first false) EntryForm.sample) s
        = (.ok session, s)
      ∧ session.hasChanges = false
      ∧ previewOutcome (Memory.store.confirm session) s = (.ok e, s')
      ∧ ¬ Memory.store.SameAnswers s s')
    ∧ ∃ (session : Session) (t t' : FileTree) (e : Entry), t.Distinct
      ∧ previewOutcome (Directory.sample.store.prepare (.edit EntryId.first false)
        { title := "Old" }) t = (.ok session, t)
      ∧ session.hasChanges = false
      ∧ previewOutcome (Directory.sample.store.confirm session) t = (.ok e, t')
      ∧ ¬ Directory.sample.store.SameAnswers t t' := by
  constructor
  · have hentry : Memory.store.Holds (Memory.empty.insert Entry.versioned) Entry.versioned := by rfl
    have hprepare := DocumentStore.prepare_eq_ok_iff.mpr
      ⟨(by rfl : EntryForm.sample.isTitleBlank = false), some Entry.versioned,
        DocumentStore.storedEntry_edit hentry false, rfl⟩
    have hsave := Memory.outcome_save (Memory.empty.insert Entry.versioned)
      (some Entry.versioned.id) Entry.sample.document
    refine ⟨_, _, _, _, hprepare, Session.hasChanges_prepared_eq_false_iff.mpr (by rfl),
      DocumentStore.confirm_eq_ok_iff.mpr hsave, fun hanswers => ?_⟩
    have heq := (Memory.sameAnswers_save_iff hentry hsave).mp hanswers
    have htags := congrArg (fun e : Entry => e.document.metadata.tags) heq
    exact absurd htags (by decide)
  · have hdistinct : FileTree.quoted.Distinct := (FileTree.distinct_empty.put _ _).put _ _
    have hentry : Directory.sample.store.Holds FileTree.quoted Entry.quoted := by rfl
    have hprepare := DocumentStore.prepare_eq_ok_iff.mpr
      ⟨(by rfl : ({ title := "Old" } : EntryForm).isTitleBlank = false), some Entry.quoted,
        DocumentStore.storedEntry_edit hentry false, rfl⟩
    obtain ⟨t', hsave⟩ : ∃ t', outcome (Directory.sample.store.save (some Entry.quoted.id)
        Entry.quoted.document) FileTree.quoted
        = (.ok ⟨EntryId.first, Entry.quoted.document.recoded⟩, t') := ⟨_, by rfl⟩
    refine ⟨_, _, _, _, hdistinct, hprepare, Session.hasChanges_prepared_eq_false_iff.mpr (by rfl),
      DocumentStore.confirm_eq_ok_iff.mpr hsave, fun hanswers => ?_⟩
    have heq := (Directory.sameAnswers_save_iff hdistinct hentry hsave).mp hanswers
    have hdate := congrArg (fun e : Entry => e.document.metadata.date) heq
    exact absurd hdate (by decide)

end Redline
