/-
  Renewed entries — a reopened entry that is to get a new time stamp.

  Such an edit gives up the time of the last change and keeps all else.  That time is the last thing
  that a header says, on a line of its own, so one line of the written form is taken out.

  1. **The last line** — a header with a time of the last change is the header without it, and one
     more line (`openLines_of_updated`).
  2. **Renewed entries** — the candidate of such an edit has the lines of the entry, without this
     one (`lines_candidateText_renewed`).  So no line is added, and one is deleted; whatever else
     holds lines that are equal to it, the one that is shown deleted is equal to it too
     (`renewal_deletes_updated`).
-/
import Redline.Proofs.Diff.Removal
import Redline.Proofs.Preview.Body
import Redline.Proofs.Preview.Reopened

namespace Redline

open FrontMatter (closingLines headerLines openLines)

/-! ## The last line -/

namespace FrontMatter

/-- The line of a header that says when the entry was last changed. -/
def updatedLine (updated : String) : String :=
  "updated: " ++ updated

theorem ofList_fieldLine_updated (updated : String) :
    String.ofList (fieldLine "updated" updated.toList) = updatedLine updated := by
  rw [← String.toList_inj, String.toList_ofList, updatedLine, String.toList_append]
  rfl

/-- The time of the last change stands at the end of the header lines. -/
theorem headerLines_eq_append (m : Metadata) : headerLines m
    = headerLines { m with updated := none } ++ textLine "updated" id (m.updated.getD "") := by
  have hnone : textLine "updated" id ((none : Option String).getD "") = [] := if_pos rfl
  rw [headerLines, headerLines, hnone, List.append_nil]
  rfl

/-- **The last line** of a header is that of the last change, when there is one. -/
theorem openLines_of_updated {m : Metadata} {u : String} (hupdated : m.updated = some u)
    (hne : u ≠ "") (hline : '\n' ∉ u.toList) :
    openLines m = openLines { m with updated := none } ++ [updatedLine u] := by
  have hlast : (textLine "updated" id (m.updated.getD "")).flatMap (Text.pieces '\n')
      = [fieldLine "updated" u.toList] := by
    rw [hupdated]
    show (textLine "updated" id u).flatMap (Text.pieces '\n') = _
    rw [textLine, if_neg hne, List.flatMap_singleton]
    exact Text.pieces_of_not_mem (newline_not_mem_fieldLine (by decide) hline)
  rw [openLines, openLines, writtenLines, headerLines_eq_append, List.flatMap_append, hlast,
    List.map_append, List.map_singleton, ofList_fieldLine_updated]
  rfl

end FrontMatter

open FrontMatter (updatedLine)

/-! ## Renewed entries -/

/-- The header of a reopened entry without the time of its last change. -/
theorem EntryForm.headerLines_renewed {document : Document} (id : EntryId)
    (hnames : document.metadata.HasTidyNames) :
    headerLines ((ofDocument document).metadata (.edit id true) (some document.metadata))
      = headerLines { document.metadata with updated := none } := by
  -- What is given up is the last line, and without it the entry is reopened as it is.
  have hkept := headerLines_ofDocument document id
  rw [document.metadata.headerLines_cleaned_of_hasTidyNames hnames,
    FrontMatter.headerLines_eq_append, FrontMatter.headerLines_eq_append document.metadata] at hkept
  exact List.append_cancel_right hkept

namespace Session

/-- **The candidate of a renewed entry** has all of its lines but the last one of the header. -/
theorem lines_candidateText_renewed {x : Entry} (hnames : x.document.metadata.HasTidyNames) :
    Text.lines (prepared (.edit x.id true) (.ofDocument x.document) (some x)).candidateText
      = openLines { x.document.metadata with updated := none } ++ closingLines x.document.body := by
  have hheader := EntryForm.headerLines_renewed x.id hnames
  have hbody : (EntryForm.ofDocument x.document).content = x.document.body := rfl
  rw [(endsUnchanged_prepared (.edit x.id true) hbody).candidate_lines, openLines, openLines,
    FrontMatter.writtenLines, FrontMatter.writtenLines, ← hheader]
  rfl

end Session

/-- **A new time stamp shows as one deleted line**, the one with the old time stamp, and nothing is
    added.  Whatever the store, and whatever the entry says otherwise. -/
theorem renewal_deletes_updated {σ : Type} (store : DocumentStore (StateM σ)) (st : σ) (x : Entry)
    (u : String) (hx : store.Holds st x)
    (htitle : ∃ c ∈ x.document.metadata.title.toList, Text.isBlank c = false)
    (hnames : x.document.metadata.HasTidyNames) (hupdated : x.document.metadata.updated = some u)
    (hne : u ≠ "") (hline : '\n' ∉ u.toList) : ∃ session,
    previewOutcome (store.prepare (.edit x.id true) (.ofDocument x.document)) st
        = (.ok session, st)
      ∧ session.alignment.additions = 0
      ∧ session.alignment.contents .deleted = ["updated: " ++ u] := by
  have hform : (EntryForm.ofDocument x.document).isTitleBlank = false :=
    EntryForm.isTitleBlank_eq_false_iff.mpr htitle
  have hprepare := DocumentStore.prepare_eq_ok_iff.mpr
    ⟨hform, some x, DocumentStore.storedEntry_edit hx true, rfl⟩
  have hstored : Text.lines
      (Session.prepared (.edit x.id true) (.ofDocument x.document) (some x)).storedText
        = openLines { x.document.metadata with updated := none }
          ++ updatedLine u :: closingLines x.document.body := by
    show Text.lines (FrontMatter.encode _ _) = _
    rw [FrontMatter.lines_encode, FrontMatter.openLines_of_updated hupdated hne hline,
      List.append_assoc, List.singleton_append]
  have hcandidate := Session.lines_candidateText_renewed hnames
  refine ⟨_, hprepare, ?_, ?_⟩
  · rw [Session.alignment_prepared, hstored, hcandidate]
    exact Diff.additions_align_of_sublist ((List.sublist_cons_self _ _).append_left _)
  · rw [Session.alignment_prepared, hstored, hcandidate, Diff.deleted_align_of_cut, updatedLine]

/-- An entry whose body begins like the end of its header. -/
def Entry.stamped : Entry :=
  ⟨EntryId.first, ⟨{ title := "Old", tags := [⟨"lean", some "4"⟩], updated := some "2024" },
    "updated: 2024\n---\n\nupdated: 2024"⟩⟩

/-- One line is deleted, though the body holds two more like it. -/
theorem renewal_deletes_updated_stamped : ∃ session,
    previewOutcome (Memory.store.prepare (.edit EntryId.first true)
        (.ofDocument Entry.stamped.document)) (Memory.empty.insert Entry.stamped)
      = (.ok session, Memory.empty.insert Entry.stamped)
    ∧ session.alignment.additions = 0
    ∧ session.alignment.contents .deleted = ["updated: 2024"] := by
  have hentry : Memory.store.Holds (Memory.empty.insert Entry.stamped) Entry.stamped := by rfl
  exact renewal_deletes_updated Memory.store _ Entry.stamped "2024" hentry
    ⟨'O', by decide, by decide⟩ ⟨by decide, by decide⟩ rfl (by decide) (by decide)

end Redline
