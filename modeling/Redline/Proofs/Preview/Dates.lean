/-
  Dates in an edit — which of them are kept.

  The dates of an entry are no part of a form.  An edit takes them over from the entry that is
  stored, the time of the last change only unless a new one is asked for.

  1. **Forms** — the lines of a form that stand in front of the dates (`EntryForm.front`).  If the
     form fits on lines, they leave the dates alone.
  2. **One save** — to confirm an edit is one save.  In memory it keeps all dates.  In a directory a
     date is written, and read behind the lines of the form; so a form that has line feeds may set it
     or hide it, and behind any other form it is kept exactly when it is settled.

  `keepsDates_confirm_iff` says all of this.  `not_keepsDates_confirm` has a date between blanks, and
  a title that sets a date.
-/
import Redline.Proofs.FrontMatter.Dates
import Redline.Proofs.Preview.Clean

namespace Redline

open FrontMatter (Fields LeavesDates dateRead settled undated writtenLines)

/-! ## Forms -/

namespace EntryForm

variable {f : EntryForm} {mode : PreviewMode} {stored : Option Metadata}

/-- The lines of the form in a written form, in front of the dates. -/
def front (f : EntryForm) : List (List Char) :=
  writtenLines (f.metadata (.create none) none)

/-- They are the same in every entry. -/
theorem writtenLines_undated : writtenLines (undated (f.metadata mode stored)) = f.front :=
  rfl

theorem leavesDates_of_fitsLines (h : f.FitsLines) : LeavesDates f.front := by
  have hfits : FrontMatter.FitsLines (f.metadata (.create none) none) :=
    fitsLines_metadata h fun m hm => absurd hm (Option.not_mem_none m)
  exact FrontMatter.leavesDates_of_fitsLines (m := f.metadata (.create none) none) hfits

end EntryForm

/-- What an edit writes of the time of the last change. -/
def Metadata.updatedUnless (updateTimestamp : Bool) (m : Metadata) : Option String :=
  if updateTimestamp then none else m.updated

/-- The entry `e` has the dates of `x`, where an empty date counts as none; it has no time of the last
    change if a new one is asked for. -/
structure Entry.KeepsDates (updateTimestamp : Bool) (x e : Entry) : Prop where
  date : e.document.metadata.date.filter (· ≠ "") = x.document.metadata.date.filter (· ≠ "")
  updated : updateTimestamp = false →
    e.document.metadata.updated.filter (· ≠ "") = x.document.metadata.updated.filter (· ≠ "")
  dropped : updateTimestamp = true → e.document.metadata.updated = none

variable {x e : Entry} {updateTimestamp : Bool} {form : EntryForm}

theorem EntryForm.carriedUpdated_edit {id : EntryId} {m : Metadata} :
    carriedUpdated (.edit id updateTimestamp) (some m) = m.updatedUnless updateTimestamp := by
  cases updateTimestamp <;> rfl

/-- A date that settles is kept where it is settled. -/
theorem Entry.keepsDates_of_settled_iff
    (hdate : e.document.metadata.date = (x.document.metadata.date.filter (· ≠ "")).map settled)
    (hupdated : e.document.metadata.updated
      = ((x.document.metadata.updatedUnless updateTimestamp).filter (· ≠ "")).map settled) :
    x.KeepsDates updateTimestamp e ↔ (∀ s ∈ x.document.metadata.date, s ≠ "" → settled s = s)
      ∧ (updateTimestamp = false → ∀ s ∈ x.document.metadata.updated, s ≠ "" → settled s = s) := by
  rw [← FrontMatter.filter_map_settled_eq_iff, ← FrontMatter.filter_map_settled_eq_iff, ← hdate]
  cases updateTimestamp with
  | true =>
    constructor
    · intro h
      exact ⟨h.date, fun hfalse => absurd hfalse.symm Bool.false_ne_true⟩
    · rintro ⟨h, -⟩
      exact ⟨h, fun hfalse => absurd hfalse.symm Bool.false_ne_true, fun _ => hupdated⟩
  | false =>
    change _ = (x.document.metadata.updated.filter (· ≠ "")).map settled at hupdated
    rw [← hupdated]
    constructor
    · intro h
      exact ⟨h.date, h.updated⟩
    · rintro ⟨h, h'⟩
      exact ⟨h, h', fun htrue => absurd htrue Bool.false_ne_true⟩

/-! ## One save -/

/-- **In memory** an edit keeps the dates. -/
theorem Memory.keepsDates_of_save {s s' : Memory} (h : outcome (Memory.store.save (some x.id)
    (form.document (.edit x.id updateTimestamp) (some x.document.metadata))) s = (.ok e, s')) :
    x.KeepsDates updateTimestamp e := by
  have hdocument := (Memory.holds_of_save_ok h).2
  have hdate : e.document.metadata.date = x.document.metadata.date := by
    rw [hdocument]
    rfl
  have hupdated : e.document.metadata.updated
      = x.document.metadata.updatedUnless updateTimestamp := by
    rw [hdocument]
    exact EntryForm.carriedUpdated_edit
  refine ⟨by rw [hdate], ?_, ?_⟩
  · rintro rfl
    rw [hupdated]
    rfl
  · rintro rfl
    exact hupdated

/-- **In a directory** the dates are read behind the lines of the form. -/
theorem Directory.dates_of_save {d : Directory} {t t' : FileTree} (hx : d.store.Holds t x)
    (h : outcome (d.store.save (some x.id) (form.document (.edit x.id updateTimestamp)
      (some x.document.metadata))) t = (.ok e, t')) :
    e.document.metadata.date = dateRead Fields.date form.front x.document.metadata.date
      ∧ e.document.metadata.updated = dateRead Fields.updated form.front
        (x.document.metadata.updatedUnless updateTimestamp) := by
  -- What is taken over was read from a line, so it has no line feed.
  have hfits := Directory.fitsLines_of_holds hx
  have hupdated : ∀ s ∈ (form.metadata (.edit x.id updateTimestamp)
      (some x.document.metadata)).updated, '\n' ∉ s.toList := by
    intro s hs
    obtain ⟨m, hm, hs⟩ := EntryForm.exists_of_mem_carriedUpdated hs
    cases hm
    exact hfits.updated s hs
  have hread := FrontMatter.date_decodeDocument_encode (m := form.metadata
    (.edit x.id updateTimestamp) (some x.document.metadata)) hfits.date hupdated form.content
  have hdocument : e.document = FrontMatter.decodeDocument (FrontMatter.encode (form.metadata
      (.edit x.id updateTimestamp) (some x.document.metadata)) form.content) :=
    (holds_of_save_ok h).2
  rw [← hdocument, EntryForm.writtenLines_undated] at hread
  refine ⟨hread.1, hread.2.trans ?_⟩
  rw [← EntryForm.carriedUpdated_edit]
  rfl

/-! ## Both stores -/

/-- **What becomes of the dates in an edit.**  In memory they are kept.  In a directory they are read
    behind the lines of the form, and if these leave dates alone, they are kept exactly when they are
    settled. -/
theorem keepsDates_confirm_iff (d : Directory) (x : Entry) (updateTimestamp : Bool)
    (form : EntryForm) :
    (∀ (s s₁ s₂ : Memory) (session : Session) (e : Entry), Memory.store.Holds s x →
      previewOutcome (Memory.store.prepare (.edit x.id updateTimestamp) form) s
        = (.ok session, s₁) →
      previewOutcome (Memory.store.confirm session) s₁ = (.ok e, s₂) →
      outcome (Memory.store.fetch x.id) s₂ = (.ok (some e), s₂) ∧ x.KeepsDates updateTimestamp e)
    ∧ (∀ (t t₁ t₂ : FileTree) (session : Session) (e : Entry), d.store.Holds t x →
      previewOutcome (d.store.prepare (.edit x.id updateTimestamp) form) t = (.ok session, t₁) →
      previewOutcome (d.store.confirm session) t₁ = (.ok e, t₂) →
      outcome (d.store.fetch x.id) t₂ = (.ok (some e), t₂)
        ∧ e.document.metadata.date = dateRead Fields.date form.front x.document.metadata.date
        ∧ e.document.metadata.updated = dateRead Fields.updated form.front
          (x.document.metadata.updatedUnless updateTimestamp)
        ∧ (LeavesDates form.front → (x.KeepsDates updateTimestamp e
          ↔ (∀ s ∈ x.document.metadata.date, s ≠ "" → settled s = s)
            ∧ (updateTimestamp = false →
              ∀ s ∈ x.document.metadata.updated, s ≠ "" → settled s = s)))) := by
  constructor
  · intro s s₁ s₂ session e hx hprepare hconfirm
    obtain ⟨rfl, rfl⟩ := DocumentStore.prepare_edit_eq_ok hx hprepare
    have hsave := DocumentStore.confirm_eq_ok_iff.mp hconfirm
    have hid : e.id = x.id := by
      rw [Memory.outcome_save] at hsave
      cases hsave
      rfl
    exact ⟨hid ▸ (Memory.holds_of_save_ok hsave).1, Memory.keepsDates_of_save hsave⟩
  · intro t t₁ t₂ session e hx hprepare hconfirm
    obtain ⟨rfl, rfl⟩ := DocumentStore.prepare_edit_eq_ok hx hprepare
    have hsave := DocumentStore.confirm_eq_ok_iff.mp hconfirm
    have hid : e.id = x.id := by
      rw [(Directory.outcome_save_eq_ok_iff.mp hsave).1]
    obtain ⟨hdate, hupdated⟩ := Directory.dates_of_save hx hsave
    refine ⟨hid ▸ (Directory.holds_of_save_ok hsave).1, hdate, hupdated, fun hleaves => ?_⟩
    have hsettled := FrontMatter.dateRead_of_leavesDates hleaves
    rw [(hsettled _).1] at hdate
    rw [(hsettled _).2] at hupdated
    exact Entry.keepsDates_of_settled_iff hdate hupdated

/-- The first entry in a directory, read from `text`. -/
def Entry.ofText (text : String) : Entry :=
  ⟨EntryId.first, FrontMatter.decodeDocument text⟩

/-- The tree with the file of that entry. -/
def FileTree.ofText (text : String) : FileTree :=
  FileTree.empty.putFile [FileName.ofText "_", Directory.entryName EntryId.first] text.toUTF8

/-- The text of an entry with a date and a time of its last change. -/
def datedText : String :=
  "---\ntitle: Old\ndate: 2024\nupdated: '2025'\n---\n"

/-- An edit in memory, and one in a directory that asks for a new time stamp. -/
theorem keepsDates_confirm_iff_dated :
    (∃ (s s' : Memory) (session : Session) (e : Entry),
      Memory.store.Holds s (.ofText datedText)
      ∧ previewOutcome (Memory.store.prepare (.edit EntryId.first false) EntryForm.sample) s
        = (.ok session, s)
      ∧ previewOutcome (Memory.store.confirm session) s = (.ok e, s')
      ∧ (Entry.ofText datedText).KeepsDates false e)
    ∧ LeavesDates EntryForm.sample.front
    ∧ ∃ (t t' : FileTree) (session : Session) (e : Entry),
      Directory.sample.store.Holds t (.ofText datedText)
      ∧ previewOutcome (Directory.sample.store.prepare (.edit EntryId.first true) EntryForm.sample) t
        = (.ok session, t)
      ∧ previewOutcome (Directory.sample.store.confirm session) t = (.ok e, t')
      ∧ (Entry.ofText datedText).KeepsDates true e := by
  have htitle : EntryForm.sample.isTitleBlank = false := by rfl
  constructor
  · have hentry : Memory.store.Holds (Memory.empty.insert (.ofText datedText))
        (.ofText datedText) := by rfl
    obtain ⟨session, hprepare, hconfirm⟩ := DocumentStore.exists_session_of_save
      hentry htitle (Memory.outcome_save _ _ _)
    have hkeeps := (keepsDates_confirm_iff Directory.sample (.ofText datedText) false .sample).1
      _ _ _ _ _ hentry hprepare hconfirm
    exact ⟨_, _, session, _, hentry, hprepare, hconfirm, hkeeps.2⟩
  · have hleaves : LeavesDates EntryForm.sample.front :=
      EntryForm.leavesDates_of_fitsLines ⟨by decide, by decide, by decide, by decide⟩
    have hentry : Directory.sample.store.Holds (FileTree.ofText datedText) (.ofText datedText) := by rfl
    obtain ⟨t', hsave⟩ : ∃ t', outcome (Directory.sample.store.save (some EntryId.first)
        (EntryForm.sample.document (.edit EntryId.first true)
          (some (Entry.ofText datedText).document.metadata))) (FileTree.ofText datedText)
        = (.ok ⟨EntryId.first, (EntryForm.sample.document (.edit EntryId.first true)
          (some (Entry.ofText datedText).document.metadata)).recoded⟩, t') := ⟨_, by rfl⟩
    obtain ⟨session, hprepare, hconfirm⟩ :=
      DocumentStore.exists_session_of_save hentry htitle hsave
    obtain ⟨-, -, -, hiff⟩ := (keepsDates_confirm_iff Directory.sample (.ofText datedText) true
      .sample).2 _ _ _ _ _ hentry hprepare hconfirm
    have hsettled : ∀ s ∈ (Entry.ofText datedText).document.metadata.date, s ≠ "" →
        settled s = s := by
      intro s hs _
      cases hs
      decide
    exact ⟨hleaves, _, t', session, _, hentry, hprepare, hconfirm, (hiff hleaves).mpr
      ⟨hsettled, fun hfalse => absurd hfalse.symm Bool.false_ne_true⟩⟩

/-- In the tree with the file of the first entry, an edit by the form goes through, and the date of
    the entry is another one afterwards. -/
def EntryForm.ChangesDate (form : EntryForm) (text : String) : Prop :=
  ∃ (t' : FileTree) (session : Session) (e : Entry),
    Directory.sample.store.Holds (FileTree.ofText text) (.ofText text)
    ∧ previewOutcome (Directory.sample.store.prepare (.edit EntryId.first false) form)
      (FileTree.ofText text) = (.ok session, .ofText text)
    ∧ previewOutcome (Directory.sample.store.confirm session) (FileTree.ofText text) = (.ok e, t')
    ∧ ¬ (Entry.ofText text).KeepsDates false e

theorem EntryForm.changesDate_of_save {form : EntryForm} {text : String} {t' : FileTree} {e : Entry}
    (hentry : Directory.sample.store.Holds (FileTree.ofText text) (.ofText text))
    (htitle : form.isTitleBlank = false)
    (hsave : outcome (Directory.sample.store.save (some EntryId.first) (form.document
      (.edit EntryId.first false) (some (Entry.ofText text).document.metadata)))
      (FileTree.ofText text) = (.ok e, t'))
    (hdate : e.document.metadata.date.filter (· ≠ "")
      ≠ (Entry.ofText text).document.metadata.date.filter (· ≠ "")) :
    form.ChangesDate text := by
  obtain ⟨session, hprepare, hconfirm⟩ := DocumentStore.exists_session_of_save hentry htitle hsave
  exact ⟨t', session, e, hentry, hprepare, hconfirm, fun hkeeps => hdate hkeeps.date⟩

/-- A date loses the blanks around it, and a title with a line feed sets a date where there is none. -/
theorem not_keepsDates_confirm :
    EntryForm.ChangesDate { title := "New" } "---\ndate: \" 2024 \"\n---\n"
    ∧ EntryForm.ChangesDate { title := "New\ndate: 2000" } "---\ntitle: Old\n---\n" := by
  constructor
  · exact EntryForm.changesDate_of_save (e := ⟨EntryId.first, _⟩) (by rfl) (by rfl) (by rfl)
      (by decide)
  · exact EntryForm.changesDate_of_save (e := ⟨EntryId.first, _⟩) (by rfl) (by rfl) (by rfl)
      (by decide)

end Redline
