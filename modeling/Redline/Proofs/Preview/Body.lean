/-
  Edits that keep the body — where the review of such an edit has its changes.

  A written form ends with the line that closes its header, an empty line and the lines of the body.
  If the form of an edit has the content that is stored, both texts of the session end with the same
  lines, so these are a common tail: all of them are shown unchanged, and every change stands in
  front of the line that closes the header, whatever the two headers say.

  1. `lines_encode` — the lines of a written form.
  2. `Session.endsUnchanged_prepared` — the alignment of such a session.
-/
import Redline.Proofs.Diff.Tail
import Redline.Proofs.FrontMatter.Written
import Redline.Proofs.Preview.Clean

namespace Redline

open Diff (align unchangedLines)

namespace FrontMatter

/-- The lines of a written form in front of the one that closes its header. -/
def openLines (m : Metadata) : List String :=
  delimiter :: (writtenLines m).map String.ofList

/-- The lines of a written form from the one that closes its header on. -/
def closingLines (body : String) : List String :=
  delimiter :: "" :: Text.lines body

theorem lines_encode (m : Metadata) (body : String) :
    Text.lines (encode m body) = openLines m ++ closingLines body := by
  rw [Text.lines, toList_encode, pieces_encodeChars, openLines, closingLines, Text.lines,
    List.map_cons, List.map_append, List.map_cons, List.map_cons]
  rfl

end FrontMatter

open FrontMatter (openLines closingLines)

namespace DocumentStore

variable {σ : Type} {store : DocumentStore (StateM σ)} {st st' : σ}

/-- An edit is laid beside an entry. -/
theorem exists_of_storedEntry_edit {id : EntryId} {updateTimestamp : Bool} {stored : Option Entry}
    (h : previewOutcome (store.storedEntry (.edit id updateTimestamp)) st = (.ok stored, st')) :
    ∃ x, stored = some x := by
  obtain ⟨e?, st₁, -, hrest⟩ := previewOutcome_bind_eq_ok_iff.mp h
  cases e? with
  | none => cases hrest
  | some x =>
    cases hrest
    exact ⟨x, rfl⟩

end DocumentStore

/-! ## Sessions -/

namespace Session

/-- The two texts of the session end with the lines `tail`, and these are shown unchanged behind the
    alignment of what stands in front of them. -/
structure EndsUnchanged (session : Session) (old new tail : List String) : Prop where
  stored_lines : Text.lines session.storedText = old ++ tail
  candidate_lines : Text.lines session.candidateText = new ++ tail
  alignment_lines : session.alignment.lines
    = (align old new).lines ++ unchangedLines old.length new.length tail

theorem alignment_prepared (mode : PreviewMode) (form : EntryForm) (stored : Option Entry) :
    (prepared mode form stored).alignment
      = align (Text.lines (prepared mode form stored).storedText)
        (Text.lines (prepared mode form stored).candidateText) :=
  rfl

/-- A form with the content that is stored keeps all from the closing line on. -/
theorem endsUnchanged_prepared (mode : PreviewMode) {form : EntryForm} {x : Entry}
    (hbody : form.content = x.document.body) :
    (prepared mode form (some x)).EndsUnchanged (openLines x.document.metadata)
      (openLines (prepared mode form (some x)).candidate.metadata)
      (closingLines x.document.body) := by
  have hstored : Text.lines (prepared mode form (some x)).storedText
      = openLines x.document.metadata ++ closingLines x.document.body :=
    FrontMatter.lines_encode _ _
  have hcandidate : Text.lines (prepared mode form (some x)).candidateText
      = openLines (prepared mode form (some x)).candidate.metadata
        ++ closingLines x.document.body := by
    rw [← hbody]
    exact FrontMatter.lines_encode _ _
  refine ⟨hstored, hcandidate, ?_⟩
  rw [alignment_prepared, hstored, hcandidate, Diff.lines_align_append]

end Session

/-- **A common tail takes no part in an alignment**, so an edit that keeps the body shows the line
    that closes the header, the empty line and the body unchanged, whatever it does to the header. -/
theorem align_common_tail :
    (∀ old new tail : List String, (align (old ++ tail) (new ++ tail)).lines
      = (align old new).lines ++ unchangedLines old.length new.length tail)
    ∧ ∀ {σ : Type} (store : DocumentStore (StateM σ)) (id : EntryId) (updateTimestamp : Bool)
      (form : EntryForm) (session : Session) (st st' : σ),
      previewOutcome (store.prepare (.edit id updateTimestamp) form) st = (.ok session, st') →
      ∃ x, session.stored = some x ∧ (form.content = x.document.body →
        session.EndsUnchanged (openLines x.document.metadata)
          (openLines session.candidate.metadata) (closingLines x.document.body)) := by
  refine ⟨Diff.lines_align_append, ?_⟩
  intro σ store id updateTimestamp form session st st' hprepare
  obtain ⟨-, stored, hstored, rfl⟩ := DocumentStore.prepare_eq_ok_iff.mp hprepare
  obtain ⟨x, rfl⟩ := DocumentStore.exists_of_storedEntry_edit hstored
  exact ⟨x, rfl, Session.endsUnchanged_prepared _⟩

/-- An entry whose body looks like a header line. -/
def Entry.headed : Entry :=
  ⟨EntryId.first, ⟨{ title := "Old" }, "title: \"New\""⟩⟩

/-- The form that gives this entry that title. -/
def EntryForm.retitled : EntryForm where
  title := "New"
  content := Entry.headed.document.body

/-- The title changes, and the body stays though the new title line is the same. -/
theorem align_common_tail_retitled : ∃ session,
    previewOutcome (Memory.store.prepare (.edit EntryId.first false) EntryForm.retitled)
        (Memory.empty.insert Entry.headed)
      = (.ok session, Memory.empty.insert Entry.headed)
    ∧ EntryForm.retitled.content = Entry.headed.document.body
    ∧ session.alignment.lines
      = (align ["---", "title: \"Old\""] ["---", "title: \"New\""]).lines
        ++ [.unchanged "---" 3 3, .unchanged "" 4 4, .unchanged "title: \"New\"" 5 5] := by
  have hentry : Memory.store.Holds (Memory.empty.insert Entry.headed) Entry.headed := by rfl
  have htitle : EntryForm.retitled.isTitleBlank = false := by rfl
  have hprepare := DocumentStore.prepare_eq_ok_iff.mpr
    ⟨htitle, some Entry.headed, DocumentStore.storedEntry_edit hentry false, rfl⟩
  obtain ⟨x, hx, hends⟩ := align_common_tail.2 _ _ _ _ _ _ _ hprepare
  cases hx
  exact ⟨_, hprepare, rfl, (hends rfl).alignment_lines⟩

end Redline
