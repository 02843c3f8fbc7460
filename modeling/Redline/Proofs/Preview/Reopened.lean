/-
  Reopened entries — a form filled with what an entry says of itself.

  To open an entry is to fill a form with its title, its summary, its names and its body.  Not all
  of it comes back: an absent summary is an empty one in the form, the versions of tags are left
  behind, and names are cleaned.  An edit shows what of this is written.

  1. **Names** — to clean a list keeps it if its names are tidy, and takes characters away
     otherwise (`isTidy_of_listWidth_cleanNames`).
  2. **Written lists** — nothing is escaped, so two lists may well be written alike: `a", "b` is one
     name or two.  But what is left of a list that is cleaned is written shorter than the list was,
     unless it is the whole list (`isTidy_of_length_listLine`).
  3. **Cleaned metadata** — the rest of a header does not depend on the names, so it is written as
     before exactly when the names are tidy (`encode_cleaned_eq_iff`).
  4. **Reopened entries** — an entry with tidy names and a title shows no changes, and no other does
     (`previewsClean_ofDocument_iff`).
-/
import Redline.Proofs.Preview.Unchanged

namespace Redline

open FrontMatter (encodeDocument headerLines listLine quoted quotedList textLine)

namespace EntryForm

/-- The form of a document that is opened. -/
def ofDocument (document : Document) : EntryForm where
  title := document.metadata.title
  summary := document.metadata.summary.getD ""
  categories := document.metadata.categoryNames
  tags := document.metadata.tagNames
  content := document.body

/-! ## Names -/

/-- There is something in the name, and nothing blank at either end. -/
structure IsTidy (name : String) : Prop where
  nonempty : name ≠ ""
  first : ∀ c ∈ name.toList.head?, Text.isBlank c = false
  last : ∀ c ∈ name.toList.getLast?, Text.isBlank c = false

/-- A tidy name is one that a form keeps. -/
theorem isTidy_iff {name : String} : IsTidy name ↔ name ≠ "" ∧ Text.trim name = name := by
  rw [Text.trim_eq_self_iff]
  exact ⟨fun h => ⟨h.nonempty, h.first, h.last⟩, fun ⟨h, hfirst, hlast⟩ => ⟨h, hfirst, hlast⟩⟩

instance (name : String) : Decidable (IsTidy name) :=
  decidable_of_iff _ isTidy_iff.symm

theorem cleanNames_cons (name : String) (names : List String) :
    cleanNames (name :: names)
      = if Text.trim name = "" then cleanNames names else Text.trim name :: cleanNames names := by
  rw [cleanNames, List.map_cons, List.filter_cons]
  by_cases h : Text.trim name = "" <;> simp [h, cleanNames]

/-- Tidy names are kept. -/
theorem cleanNames_eq_self {names : List String} (h : ∀ name ∈ names, IsTidy name) :
    cleanNames names = names := by
  induction names with
  | nil => rfl
  | cons name names ih =>
    obtain ⟨hne, htrim⟩ := isTidy_iff.mp (h name List.mem_cons_self)
    rw [cleanNames_cons, htrim, if_neg hne, ih fun n hn => h n (List.mem_cons_of_mem _ hn)]

/-- The number of characters of a written list: two quotes and a separator beside each name, with
    the brackets in place of the separator after the last. -/
def listWidth : List String → Nat
  | [] => 0
  | name :: names => name.toList.length + 4 + listWidth names

theorem length_trim_le (name : String) : (Text.trim name).toList.length ≤ name.toList.length := by
  rw [Text.toList_trim]
  exact (Text.trimmed_sublist _).length_le

theorem listWidth_cleanNames_le (names : List String) :
    listWidth (cleanNames names) ≤ listWidth names := by
  induction names with
  | nil => exact Nat.le_refl _
  | cons name names ih =>
    have htrim := length_trim_le name
    rw [cleanNames_cons, listWidth]
    split
    · omega
    · rw [listWidth]
      omega

/-- **To clean a list** takes characters away, unless all of its names are tidy. -/
theorem isTidy_of_listWidth_cleanNames {names : List String}
    (h : listWidth (cleanNames names) = listWidth names) : ∀ name ∈ names, IsTidy name := by
  induction names with
  | nil =>
    intro name hname
    cases hname
  | cons name names ih =>
    have htrim := length_trim_le name
    have hle := listWidth_cleanNames_le names
    rw [cleanNames_cons, listWidth] at h
    split at h
    · -- A name that is dropped takes its quotes with it.
      omega
    · rename_i hne
      rw [listWidth] at h
      have hname : Text.trim name = name := by
        rw [← String.toList_inj, Text.toList_trim]
        refine (Text.trimmed_sublist _).eq_of_length ?_
        rw [← Text.toList_trim]
        omega
      refine List.forall_mem_cons.mpr ⟨isTidy_iff.mpr ⟨?_, hname⟩, ih (by omega)⟩
      rwa [hname] at hne

end EntryForm

/-! ## Written lists -/

namespace FrontMatter

open EntryForm (cleanNames listWidth IsTidy)

theorem length_quotedList {names : List String} (hne : names ≠ []) :
    (quotedList names).length = listWidth names := by
  have hjoin : (Text.join [',', ' '] (names.map fun name => quoted name.toList)).length + 2
      = listWidth names := by
    induction names with
    | nil => exact absurd rfl hne
    | cons name names ih =>
      cases names with
      | nil =>
        simp [listWidth, quoted]
      | cons next names =>
        have hrest := ih (List.cons_ne_nil _ _)
        rw [List.map_cons, Text.join_cons_of_ne_nil _ _ (by simp), listWidth,
          ← hrest]
        simp [quoted]
        omega
  rw [← hjoin]
  simp [quotedList]

/-- The number of characters of the header line of a list. -/
theorem length_listLine (key : String) (names : List String) :
    ((listLine key names).flatMap (· ++ ['\n'])).length
      = if names = [] then 0 else key.toList.length + 3 + listWidth names := by
  rw [listLine]
  split
  · rfl
  · rename_i hne
    rw [List.flatMap_singleton, ← length_quotedList hne]
    simp [fieldLine]
    omega

theorem length_listLine_cleanNames_le (key : String) (names : List String) :
    ((listLine key (cleanNames names)).flatMap (· ++ ['\n'])).length
      ≤ ((listLine key names).flatMap (· ++ ['\n'])).length := by
  have hle := EntryForm.listWidth_cleanNames_le names
  rw [length_listLine, length_listLine]
  split
  · exact Nat.zero_le _
  · rename_i hclean
    have hne : names ≠ [] := by
      rintro rfl
      exact hclean rfl
    rw [if_neg hne]
    omega

/-- A list whose line is as long after cleaning as before is tidy. -/
theorem isTidy_of_length_listLine (key : String) {names : List String}
    (h : ((listLine key (cleanNames names)).flatMap (· ++ ['\n'])).length
      = ((listLine key names).flatMap (· ++ ['\n'])).length) : ∀ name ∈ names, IsTidy name := by
  refine EntryForm.isTidy_of_listWidth_cleanNames ?_
  rw [length_listLine, length_listLine] at h
  by_cases hne : names = []
  · rw [hne]
    rfl
  · rw [if_neg hne] at h
    split at h <;> omega

end FrontMatter

/-! ## Cleaned metadata -/

namespace Metadata

open EntryForm (cleanNames)

/-- All names of the metadata are tidy. -/
structure HasTidyNames (m : Metadata) : Prop where
  categories : ∀ name ∈ m.categoryNames, EntryForm.IsTidy name
  tags : ∀ name ∈ m.tagNames, EntryForm.IsTidy name

/-- The metadata with its names as a form gives them. -/
def cleaned (m : Metadata) : Metadata where
  title := m.title
  summary := m.summary
  categories := (cleanNames m.categoryNames).map fun name => ⟨name⟩
  tags := (cleanNames m.tagNames).map fun name => ⟨name, none⟩
  date := m.date
  updated := m.updated

theorem headerLines_cleaned (m : Metadata) : headerLines m.cleaned
    = textLine "title" quoted m.title
      ++ textLine "summary" quoted (m.summary.getD "")
      ++ listLine "categories" (cleanNames m.categoryNames)
      ++ listLine "tags" (cleanNames m.tagNames)
      ++ textLine "date" id (m.date.getD "")
      ++ textLine "updated" id (m.updated.getD "") := by
  have hcategories : m.cleaned.categoryNames = cleanNames m.categoryNames := by
    rw [categoryNames, cleaned, List.map_map]
    exact List.map_id _
  have htags : m.cleaned.tagNames = cleanNames m.tagNames := by
    rw [tagNames, cleaned, List.map_map]
    exact List.map_id _
  rw [headerLines, hcategories, htags]
  rfl

/-- Tidy names are written as they are. -/
theorem headerLines_cleaned_of_hasTidyNames (m : Metadata) (h : m.HasTidyNames) :
    headerLines m.cleaned = headerLines m := by
  rw [headerLines_cleaned, headerLines, EntryForm.cleanNames_eq_self h.categories,
    EntryForm.cleanNames_eq_self h.tags]

/-- **Cleaned metadata** is written as the metadata is, exactly when its names are tidy. -/
theorem encode_cleaned_eq_iff (m : Metadata) (body : String) :
    FrontMatter.encode m.cleaned body = FrontMatter.encode m body ↔ m.HasTidyNames := by
  rw [← String.toList_inj, FrontMatter.toList_encode, FrontMatter.toList_encode,
    FrontMatter.encodeChars, FrontMatter.encodeChars]
  constructor
  · intro h
    rw [headerLines_cleaned, headerLines] at h
    have hlength := congrArg List.length h
    have hcategories := FrontMatter.length_listLine_cleanNames_le "categories" m.categoryNames
    have htags := FrontMatter.length_listLine_cleanNames_le "tags" m.tagNames
    -- Every other line is the same in both, so neither list can have lost a character.
    simp only [List.flatMap_append, List.length_append] at hlength
    exact ⟨FrontMatter.isTidy_of_length_listLine "categories" (by omega),
      FrontMatter.isTidy_of_length_listLine "tags" (by omega)⟩
  · intro h
    rw [m.headerLines_cleaned_of_hasTidyNames h]

end Metadata

/-! ## Reopened entries -/

namespace EntryForm

theorem getD_summary_metadata (f : EntryForm) (mode : PreviewMode) (stored : Option Metadata) :
    (f.metadata mode stored).summary.getD "" = f.summary := by
  rw [metadata]
  split
  · rename_i h
    exact h.symm
  · rfl

theorem headerLines_ofDocument (document : Document) (id : EntryId) :
    headerLines ((ofDocument document).metadata (.edit id false) (some document.metadata))
      = headerLines document.metadata.cleaned := by
  rw [headerLines, categoryNames_metadata, tagNames_metadata, getD_summary_metadata,
    Metadata.headerLines_cleaned]
  rfl

/-- **The candidate of a reopened document** is written with its names cleaned, its dates as they
    are, and all else as it was. -/
theorem encodeDocument_ofDocument (document : Document) (id : EntryId) :
    encodeDocument ((ofDocument document).document (.edit id false) (some document.metadata))
      = FrontMatter.encode document.metadata.cleaned document.body := by
  rw [encodeDocument, FrontMatter.encode, FrontMatter.encode, FrontMatter.encodeChars,
    FrontMatter.encodeChars, ← headerLines_ofDocument document id]
  rfl

theorem isTitleBlank_eq_false_iff {f : EntryForm} :
    f.isTitleBlank = false ↔ ∃ c ∈ f.title.toList, Text.isBlank c = false := by
  rw [isTitleBlank, decide_eq_false_iff_not, Text.trimmed_eq_nil_iff]
  simp

end EntryForm

/-- **To open an entry and to change nothing is no change**, exactly when the entry has a title and
    tidy names.  Whatever the store, and whatever the entry says otherwise. -/
theorem previewsClean_ofDocument_iff {σ : Type} (store : DocumentStore (StateM σ)) (st : σ)
    (x : Entry) (hx : store.Holds st x) :
    store.PreviewsClean st x.id (.ofDocument x.document) ↔
      (∃ c ∈ x.document.metadata.title.toList, Text.isBlank c = false)
        ∧ x.document.metadata.HasTidyNames := by
  have htexts : (Session.prepared (.edit x.id false) (.ofDocument x.document) (some x)).storedText
      = (Session.prepared (.edit x.id false) (.ofDocument x.document) (some x)).candidateText
        ↔ x.document.metadata.HasTidyNames := by
    show encodeDocument x.document = encodeDocument
      ((EntryForm.ofDocument x.document).document (.edit x.id false) (some x.document.metadata)) ↔ _
    rw [EntryForm.encodeDocument_ofDocument, eq_comm]
    exact x.document.metadata.encode_cleaned_eq_iff x.document.body
  constructor
  · rintro ⟨session, hprepare, -, hsame⟩
    have htitle := (DocumentStore.prepare_eq_ok_iff.mp hprepare).1
    obtain ⟨-, rfl⟩ := DocumentStore.prepare_edit_eq_ok hx hprepare
    exact ⟨EntryForm.isTitleBlank_eq_false_iff.mp htitle, htexts.mp hsame⟩
  · rintro ⟨htitle, htidy⟩
    have hform : (EntryForm.ofDocument x.document).isTitleBlank = false :=
      EntryForm.isTitleBlank_eq_false_iff.mpr htitle
    have hprepare := DocumentStore.prepare_eq_ok_iff.mpr
      ⟨hform, some x, DocumentStore.storedEntry_edit hx false, rfl⟩
    have hsame := htexts.mpr htidy
    exact ⟨_, hprepare, Session.hasChanges_prepared_eq_false_iff.mpr hsame, hsame⟩

/-- An entry with the version of a tag, in memory, and one with a date in quotes, in a directory. -/
theorem previewsClean_ofDocument_iff_versioned :
    (∃ s : Memory, Memory.store.Holds s Entry.versioned
      ∧ Memory.store.PreviewsClean s EntryId.first (.ofDocument Entry.versioned.document))
    ∧ ∃ t : FileTree, Directory.sample.store.Holds t Entry.quoted
      ∧ Directory.sample.store.PreviewsClean t EntryId.first
        (.ofDocument Entry.quoted.document) := by
  constructor
  · have hx : Memory.store.Holds (Memory.empty.insert Entry.versioned) Entry.versioned := by rfl
    have hiff := previewsClean_ofDocument_iff Memory.store _ _ hx
    exact ⟨_, hx, hiff.mpr ⟨⟨'T', by decide, by decide⟩, by decide, by decide⟩⟩
  · have hx : Directory.sample.store.Holds FileTree.quoted Entry.quoted := by rfl
    have hiff := previewsClean_ofDocument_iff Directory.sample.store _ _ hx
    exact ⟨_, hx, hiff.mpr ⟨⟨'O', by decide, by decide⟩, by decide, by decide⟩⟩

end Redline
