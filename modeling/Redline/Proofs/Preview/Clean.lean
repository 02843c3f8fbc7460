/-
  Clean previews — a form that was saved shows no changes.

  1. **Metadata of a form** — its names are bare, and if the form fits on lines it does too: what it
     takes over from a stored entry was read from a line.
  2. **Documents of a form** — an edit that keeps the dates leaves such a document as it is
     (`Describes`).  So it is with the document that is saved, and with what is read back of it: a
     date that has settled on the way is taken over in its settled form.
  3. **Saved forms** — what is saved is found, so the form is laid beside a document of its own
     (`previewsClean_of_confirm`).
-/
import Redline.Proofs.FrontMatter.Reread
import Redline.Proofs.Preview.Calls

namespace Redline

open FrontMatter (BareNames FitsList encodeDocument reread)

namespace EntryForm

variable {f : EntryForm} {mode : PreviewMode} {stored : Option Metadata}

/-! ## Metadata of a form -/

/-- No value of the form breaks a line, and no name a list. -/
structure FitsLines (f : EntryForm) : Prop where
  title : '\n' ∉ f.title.toList
  summary : '\n' ∉ f.summary.toList
  categories : ∀ name ∈ f.categories, FitsList name
  tags : ∀ name ∈ f.tags, FitsList name

theorem mem_cleanNames_iff {name : String} {names : List String} :
    name ∈ cleanNames names ↔ (∃ typed ∈ names, Text.trim typed = name) ∧ name ≠ "" := by
  rw [cleanNames, List.mem_filter, List.mem_map, decide_eq_true_iff]

/-- Nothing is added to a name when it is trimmed. -/
theorem fitsList_of_mem_cleanNames {names : List String} (h : ∀ name ∈ names, FitsList name) :
    ∀ name ∈ cleanNames names, FitsList name := by
  intro name hname
  obtain ⟨⟨typed, htyped, rfl⟩, -⟩ := mem_cleanNames_iff.mp hname
  have hsub := (Text.trimmed_sublist typed.toList).subset
  rw [FitsList, Text.toList_trim]
  exact ⟨fun hmem => (h typed htyped).1 (hsub hmem), fun hmem => (h typed htyped).2 (hsub hmem)⟩

theorem categoryNames_metadata :
    (f.metadata mode stored).categoryNames = cleanNames f.categories := by
  rw [Metadata.categoryNames, metadata, List.map_map]
  exact List.map_id _

theorem tagNames_metadata : (f.metadata mode stored).tagNames = cleanNames f.tags := by
  rw [Metadata.tagNames, metadata, List.map_map]
  exact List.map_id _

/-- The names of a form are bare. -/
theorem bareNames_metadata (f : EntryForm) (mode : PreviewMode) (stored : Option Metadata) :
    BareNames (f.metadata mode stored) where
  categories c hc := by
    obtain ⟨name, hname, rfl⟩ := List.mem_map.mp hc
    exact (mem_cleanNames_iff.mp hname).2
  tags t ht := by
    obtain ⟨name, hname, rfl⟩ := List.mem_map.mp ht
    exact ⟨(mem_cleanNames_iff.mp hname).2, rfl⟩

theorem exists_of_mem_carriedDate {s : String} (h : s ∈ carriedDate mode stored) :
    ∃ m ∈ stored, s ∈ m.date := by
  unfold carriedDate at h
  split at h
  · exact ⟨_, rfl, h⟩
  · cases h

theorem exists_of_mem_carriedUpdated {s : String} (h : s ∈ carriedUpdated mode stored) :
    ∃ m ∈ stored, s ∈ m.updated := by
  unfold carriedUpdated at h
  split at h
  · exact ⟨_, rfl, h⟩
  · cases h

/-- **A form that fits on lines** does so in an entry that does. -/
theorem fitsLines_metadata (hf : f.FitsLines) (hstored : ∀ m ∈ stored, FrontMatter.FitsLines m) :
    FrontMatter.FitsLines (f.metadata mode stored) where
  title := hf.title
  summary s hs := by
    change s ∈ (if f.summary = "" then none else some f.summary) at hs
    split at hs
    · cases hs
    · cases hs
      exact hf.summary
  categories := by
    rw [categoryNames_metadata]
    exact fitsList_of_mem_cleanNames hf.categories
  tags := by
    rw [tagNames_metadata]
    exact fitsList_of_mem_cleanNames hf.tags
  date s hs := by
    obtain ⟨m, hm, hdate⟩ := exists_of_mem_carriedDate hs
    exact (hstored m hm).date s hdate
  updated s hs := by
    obtain ⟨m, hm, hupdated⟩ := exists_of_mem_carriedUpdated hs
    exact (hstored m hm).updated s hupdated

/-! ## Documents of a form -/

/-- The form says of the document all but its dates: an edit that keeps them changes nothing. -/
def Describes (f : EntryForm) (document : Document) : Prop :=
  ∀ id, f.document (.edit id false) (some document.metadata) = document

theorem describes_document (f : EntryForm) (mode : PreviewMode) (stored : Option Metadata) :
    f.Describes (f.document mode stored) :=
  fun _ => rfl

/-- A summary that a form gives says something. -/
theorem filter_summary_metadata : (f.metadata mode stored).summary.filter (· ≠ "")
    = (f.metadata mode stored).summary := by
  rw [FrontMatter.filter_ne_empty_eq_self_iff, metadata]
  split
  · intro h
    cases h
  · rename_i hne
    exact fun h => hne (Option.some.inj h)

/-- **What is read back** of a document of the form is one too. -/
theorem describes_recoded (hf : f.FitsLines) (hstored : ∀ m ∈ stored, FrontMatter.FitsLines m) :
    f.Describes (f.document mode stored).recoded := by
  have hback : (f.document mode stored).recoded = ⟨reread (f.metadata mode stored), f.content⟩ :=
    FrontMatter.decodeDocument_encode (fitsLines_metadata hf hstored) f.content
  rw [hback, FrontMatter.reread_of_bareNames (bareNames_metadata f mode stored),
    filter_summary_metadata]
  exact fun _ => rfl

end EntryForm

/-! ## Saved forms -/

namespace DocumentStore

variable {σ : Type} {store : DocumentStore (StateM σ)} {st : σ} {e : Entry} {form : EntryForm}

/-- To edit the entry with the id `id` by the form, keeping its dates, would change nothing. -/
def PreviewsClean (store : DocumentStore (StateM σ)) (st : σ) (id : EntryId) (form : EntryForm) :
    Prop :=
  ∃ session, previewOutcome (store.prepare (.edit id false) form) st = (.ok session, st)
    ∧ session.hasChanges = false ∧ session.storedText = session.candidateText

theorem previewsClean_of_describes (he : store.Holds st e) (htitle : form.isTitleBlank = false)
    (hform : form.Describes e.document) : store.PreviewsClean st e.id form := by
  have hprepare := prepare_eq_ok_iff.mpr ⟨htitle, some e, storedEntry_edit he false, rfl⟩
  have htexts : (Session.prepared (.edit e.id false) form (some e)).storedText
      = (Session.prepared (.edit e.id false) form (some e)).candidateText := by
    show encodeDocument e.document
      = encodeDocument (form.document (.edit e.id false) (some e.document.metadata))
    rw [hform e.id]
  exact ⟨_, hprepare, Session.hasChanges_prepared_eq_false_iff.mpr htexts, htexts⟩

end DocumentStore

/-- What a directory holds fits on lines. -/
theorem Directory.fitsLines_of_holds {d : Directory} {t : FileTree} {x : Entry}
    (h : d.store.Holds t x) : FrontMatter.FitsLines x.document.metadata := by
  obtain ⟨-, -, text, -, -, -, hx⟩ := exists_of_holds h
  rw [hx]
  exact FrontMatter.fitsLines_decodeDocument text

/-- **A saved form previews clean**, in memory whatever it says, and in a directory if it fits on
    lines. -/
theorem previewsClean_of_confirm (d : Directory) (mode : PreviewMode) (form : EntryForm) :
    (∀ (s s₁ s₂ : Memory) (session : Session) (e : Entry),
      previewOutcome (Memory.store.prepare mode form) s = (.ok session, s₁) →
      previewOutcome (Memory.store.confirm session) s₁ = (.ok e, s₂) →
      Memory.store.PreviewsClean s₂ e.id form)
    ∧ (form.FitsLines → ∀ (t t₁ t₂ : FileTree) (session : Session) (e : Entry),
      previewOutcome (d.store.prepare mode form) t = (.ok session, t₁) →
      previewOutcome (d.store.confirm session) t₁ = (.ok e, t₂) →
      d.store.PreviewsClean t₂ e.id form) := by
  constructor
  · intro s s₁ s₂ session e hprepare hconfirm
    obtain ⟨-, htitle, hsession, -⟩ := DocumentStore.prepare_eq_ok Memory.reads hprepare
    rw [DocumentStore.confirm_eq_ok_iff] at hconfirm
    obtain ⟨he, hdocument⟩ := Memory.holds_of_save_ok hconfirm
    refine DocumentStore.previewsClean_of_describes he htitle ?_
    rw [hdocument, hsession]
    exact form.describes_document mode _
  · intro hform t t₁ t₂ session e hprepare hconfirm
    obtain ⟨-, htitle, hsession, hheld⟩ := DocumentStore.prepare_eq_ok d.reads hprepare
    rw [DocumentStore.confirm_eq_ok_iff] at hconfirm
    obtain ⟨he, hdocument⟩ := Directory.holds_of_save_ok hconfirm
    refine DocumentStore.previewsClean_of_describes he htitle ?_
    rw [hdocument, hsession]
    refine EntryForm.describes_recoded hform fun m hm => ?_
    obtain ⟨x, hx, rfl⟩ := Option.map_eq_some_iff.mp hm
    exact Directory.fitsLines_of_holds (hheld x hx).2

/-- A form with a name to be trimmed and a name to be dropped. -/
def EntryForm.sample : EntryForm where
  title := "Title"
  categories := [" Essays "]
  tags := ["lean", " "]
  content := "Text"

/-- An entry whose date reads otherwise once it was written again. -/
def Entry.quoted : Entry :=
  ⟨EntryId.first, FrontMatter.decodeDocument "---\ntitle: Old\ndate: \"\"2024\"\"\n---\n"⟩

/-- The tree with the file of that entry. -/
def FileTree.quoted : FileTree :=
  FileTree.empty.putFile [FileName.ofText "_", Directory.entryName EntryId.first]
    "---\ntitle: Old\ndate: \"\"2024\"\"\n---\n".toUTF8

/-- A new entry in memory, and an edit in a directory that takes over a date in quotes. -/
theorem previewsClean_of_confirm_sample :
    (∃ session s,
      previewOutcome (Memory.store.prepare (.create none) EntryForm.sample) Memory.empty
        = (.ok session, Memory.empty)
      ∧ previewOutcome (Memory.store.confirm session) Memory.empty
        = (.ok ⟨EntryId.first, session.candidate⟩, s)
      ∧ Memory.store.PreviewsClean s EntryId.first EntryForm.sample)
    ∧ EntryForm.sample.FitsLines
    ∧ ∃ session t,
      previewOutcome (Directory.sample.store.prepare (.edit EntryId.first false) EntryForm.sample)
        FileTree.quoted = (.ok session, FileTree.quoted)
      ∧ session.candidate.metadata.date = some "\"2024\""
      ∧ previewOutcome (Directory.sample.store.confirm session) FileTree.quoted
        = (.ok ⟨EntryId.first, session.candidate.recoded⟩, t)
      ∧ Directory.sample.store.PreviewsClean t EntryId.first EntryForm.sample := by
  have htitle : EntryForm.sample.isTitleBlank = false := by rfl
  constructor
  · have hprepare : previewOutcome (Memory.store.prepare (.create none) EntryForm.sample)
        Memory.empty = (.ok (.prepared (.create none) EntryForm.sample none), Memory.empty) :=
      DocumentStore.prepare_eq_ok_iff.mpr ⟨htitle, none, rfl, rfl⟩
    have hconfirm : previewOutcome (Memory.store.confirm (.prepared (.create none) .sample none))
        Memory.empty = (.ok ⟨EntryId.first, EntryForm.sample.document (.create none) none⟩,
          Memory.empty.insert ⟨EntryId.first, EntryForm.sample.document (.create none) none⟩) := by
      rw [DocumentStore.confirm_eq_ok_iff]
      exact Memory.outcome_save Memory.empty none (EntryForm.sample.document (.create none) none)
    have hclean := (previewsClean_of_confirm Directory.sample (.create none) .sample).1
      _ _ _ _ _ hprepare hconfirm
    exact ⟨_, _, hprepare, hconfirm, hclean⟩
  · have hfits : EntryForm.sample.FitsLines := ⟨by decide, by decide, by decide, by decide⟩
    have hentry : Directory.sample.store.Holds FileTree.quoted Entry.quoted := by rfl
    have hprepare := DocumentStore.prepare_eq_ok_iff.mpr
      ⟨htitle, some Entry.quoted, DocumentStore.storedEntry_edit hentry false, rfl⟩
    have hconfirm : previewOutcome (Directory.sample.store.confirm
        (.prepared (.edit EntryId.first false) .sample (some Entry.quoted))) FileTree.quoted
        = (.ok ⟨EntryId.first, _⟩, _) := DocumentStore.confirm_eq_ok_iff.mpr (by rfl)
    have hclean := (previewsClean_of_confirm Directory.sample (.edit EntryId.first false) .sample).2
      hfits _ _ _ _ _ hprepare hconfirm
    exact ⟨hfits, _, _, hprepare, by rfl, hconfirm, hclean⟩

end Redline
