/-
  Listing a directory — how often an entry is listed that is there once.

  The ids in a directory come from the names in it, and more than one name may stand for an id: `1.md`
  does, and `01.md`, `+1.md` and ` 1.md` do too.  An entry is only ever read from the first of these.

  1. **Names** — where the names that stand for ids stand for different ones, each id comes once
     (`pairwise_lt_idsOfNames_iff`).
  2. **Texts** — in a directory of text files an entry is found exactly where its own name is in the
     directory (`HasTexts.exists_fetch_iff`).
  3. **Listings** — so the directory lists each of its entries once, and counts each once, exactly
     when all names that stand for an id are names of entries (`listsOnce_iff`).  A name that is not
     makes an id come twice, or come without an entry.
-/
import Redline.Proofs.Store.Catalog
import Redline.Proofs.Store.Saved
import Mathlib.Data.List.Pairwise

namespace Redline

namespace Directory

variable {d : Directory} {t : FileTree} {dir : Location} {id : EntryId} {e : Entry}
  {names : List FileName}

/-! ## Names -/

/-- No two of the names stand for the same id. -/
def StandApart (names : List FileName) : Prop :=
  names.Pairwise fun name name' =>
    ∀ id ∈ idOfFileName? name, ∀ id' ∈ idOfFileName? name', id ≠ id'

/-- **Where each id comes once.** -/
theorem pairwise_lt_idsOfNames_iff :
    (idsOfNames names).Pairwise (· < ·) ↔ StandApart names := by
  have hperm : (idsOfNames names).Perm (names.filterMap idOfFileName?) := List.mergeSort_perm _ _
  have hapart : StandApart names ↔ (names.filterMap idOfFileName?).Nodup :=
    List.pairwise_filterMap.symm
  rw [hapart, ← hperm.nodup_iff]
  constructor
  · exact EntryId.nodup_of_pairwise_lt
  · intro h
    -- They come in ascending order in any case.
    refine (pairwise_idsOfNames names).imp₂ (fun a b hle hne => ?_) h
    exact Nat.lt_of_le_of_ne hle fun heq => hne (EntryId.ext_number heq)

theorem StandApart.eq_of_idOfFileName? (h : StandApart names) {name name' : FileName}
    (hname : name ∈ names) (hname' : name' ∈ names) (hid : idOfFileName? name = some id)
    (hid' : idOfFileName? name' = some id) : name = name' := by
  by_contra hne
  have hsymm : Std.Symm fun name name' : FileName =>
      ∀ id ∈ idOfFileName? name, ∀ id' ∈ idOfFileName? name', id ≠ id' :=
    ⟨fun _ _ hapart id hid id' hid' => (hapart id' hid' id hid).symm⟩
  exact List.Pairwise.forall h hname hname' hne id hid id hid' rfl

/-- All names that stand for ids are names of entries. -/
def NamesEntries (names : List FileName) : Prop :=
  ∀ name ∈ names, ∀ id ∈ idOfFileName? name, name = entryName id

theorem NamesEntries.standApart (h : NamesEntries names) (honce : names.Nodup) :
    StandApart names := by
  refine honce.imp_of_mem fun {name name'} hname hname' hne id hid id' hid' heq => hne ?_
  rw [h name hname id hid, h name' hname' id' hid', heq]

theorem NamesEntries.mem_idsOfNames_iff (h : NamesEntries names) :
    id ∈ idsOfNames names ↔ entryName id ∈ names := by
  constructor
  · intro hid
    obtain ⟨name, hname, hid⟩ := Directory.mem_idsOfNames_iff.mp hid
    rw [← h name hname id hid]
    exact hname
  · exact mem_idsOfNames

/-! ## Texts -/

/-- A directory that is made of text files, at the location `dir`. -/
structure HasTexts (d : Directory) (t : FileTree) (dir : Location) : Prop where
  there : t.at? d.path = .ok (dir, .directory)
  once : (t.children dir).Nodup
  texts : ∀ name ∈ t.children dir, ∃ content text,
    t.find? (dir ++ [name]) = some (.file content) ∧ String.fromUTF8? content = some text

/-- **Where an entry is found in a directory of texts.** -/
theorem HasTexts.exists_fetch_iff (h : d.HasTexts t dir) :
    (∃ e, outcome (d.store.fetch id) t = (.ok (some e), t))
      ↔ entryName id ∈ t.children dir ∧ FileTree.isTooLong (d.entryPath id) = false := by
  constructor
  · rintro ⟨e, hfetch⟩
    obtain ⟨-, rfl, hheld⟩ := DocumentStore.Reads.holds d.reads hfetch
    obtain ⟨dir', content, text, hdir', hat, -, -⟩ := exists_of_holds hheld
    have hthere := h.there
    rw [hdir'] at hthere
    cases hthere
    obtain ⟨hloc, hfile⟩ := FileTree.at?_eq_ok_iff.mp hat
    rw [FileTree.mem_children_iff, hfile]
    exact ⟨rfl, (FileTree.accepted_of_locate hloc).not_long⟩
  · rintro ⟨hmem, hfit⟩
    obtain ⟨content, text, hfind, htext⟩ := h.texts (entryName id) hmem
    rw [d.entryPath_eq] at hfit
    have hat := FileTree.at?_concat h.there (isFileName_fileName id) hfit
    rw [← entryName, hfind, ← d.entryPath_eq] at hat
    exact ⟨_, outcome_fetch_eq_some_iff.mpr ⟨rfl, _, content, text, hat, htext, rfl⟩⟩

/-- Where an entry is found under each id, these are the entries with the ids. -/
theorem exists_entries {ids : List EntryId}
    (h : ∀ id ∈ ids, ∃ e, outcome (d.store.fetch id) t = (.ok (some e), t)) :
    ∃ es : List Entry, es.map Entry.id = ids ∧ ∀ e ∈ es, d.store.Holds t e := by
  induction ids with
  | nil => exact ⟨[], rfl, fun e he => absurd he List.not_mem_nil⟩
  | cons id ids ih =>
    rw [List.forall_mem_cons] at h
    obtain ⟨⟨e, hfetch⟩, hothers⟩ := h
    obtain ⟨es, hids, hheld⟩ := ih hothers
    obtain ⟨-, hid, he⟩ := DocumentStore.Reads.holds d.reads hfetch
    exact ⟨e :: es, by rw [List.map_cons, hid, hids], List.forall_mem_cons.mpr ⟨he, hheld⟩⟩

/-! ## Listings -/

/-- What a directory answers if it lists each entry once: the ids of all entries that can be fetched,
    in strictly ascending order; the entries themselves, one for each id; and for each name of a tag
    the number of entries that carry it. -/
structure Listing (d : Directory) (t : FileTree) (ids : List EntryId) (es : List Entry)
    (ts : List TagCount) : Prop where
  ids_eq : outcome d.ids t = (.ok ids, t)
  list_eq : outcome d.store.list t = (.ok es, t)
  tags_eq : outcome d.store.tagCounts t = (.ok ts, t)
  ascending : ids.Pairwise (· < ·)
  found : ∀ id, id ∈ ids ↔ ∃ e, outcome (d.store.fetch id) t = (.ok (some e), t)
  each : es.map Entry.id = ids
  held : ∀ e, e ∈ es ↔ d.store.Holds t e
  counted : ∀ c ∈ ts, ∃ carriers : List Entry, carriers.Nodup ∧ carriers.length = c.count
    ∧ ∀ e, e ∈ carriers ↔ d.store.Holds t e ∧ Catalog.carries c.name e

/-- The directory lists each of its entries once. -/
def ListsOnce (d : Directory) (t : FileTree) : Prop :=
  ∃ ids es ts, d.Listing t ids es ts

/-- Where the ids are in order and each has an entry, all else follows. -/
theorem listsOnce_of_ids {ids : List EntryId} (hids : outcome d.ids t = (.ok ids, t))
    (hascending : ids.Pairwise (· < ·))
    (hfound : ∀ id, id ∈ ids ↔ ∃ e, outcome (d.store.fetch id) t = (.ok (some e), t)) :
    d.ListsOnce t := by
  obtain ⟨es, heach, hheld⟩ := exists_entries fun id hid => (hfound id).mp hid
  have hlist : outcome d.store.list t = (.ok es, t) := by
    show outcome (d.ids >>= d.fetchAll) t = _
    rw [outcome_bind_of_ok hids, ← heach]
    exact outcome_fetchAll hheld
  have hmem : ∀ e, e ∈ es ↔ d.store.Holds t e := by
    intro e
    constructor
    · exact hheld e
    · intro he
      have hid : e.id ∈ es.map Entry.id := by
        rw [heach]
        exact (hfound e.id).mpr ⟨e, he⟩
      obtain ⟨e', he', heq⟩ := List.mem_map.mp hid
      -- One entry is found under an id, so it is this one.
      have hfetch := hheld e' he'
      rw [DocumentStore.Holds, heq, he] at hfetch
      cases hfetch
      exact he'
  refine ⟨ids, es, Catalog.tagCounts es, hids, hlist, outcome_bind_of_ok hlist _, hascending, hfound,
    heach, hmem, fun c hc => ⟨es.filter (Catalog.carries c.name), ?_, ?_, fun e => ?_⟩⟩
  · rw [← heach] at hascending
    exact (EntryId.nodup_of_pairwise_lt hascending).of_map.filter _
  · rw [← List.countP_eq_length_filter]
    exact (Catalog.mem_tagCounts_iff.mp hc).1.symm
  · rw [List.mem_filter, hmem]

/-- Where each id comes once, no two names stand for the same one. -/
theorem ListsOnce.standApart (h : d.ListsOnce t) (hdir : t.at? d.path = .ok (dir, .directory)) :
    StandApart (t.children dir) := by
  obtain ⟨ids, es, ts, hlisting⟩ := h
  have hids := hlisting.ids_eq
  rw [outcome_ids_of_directory hdir] at hids
  cases hids
  exact pairwise_lt_idsOfNames_iff.mp hlisting.ascending

/-- **A directory of texts lists each entry once** exactly when every name in it that stands for an
    id is the name of the entry, at a path that the system takes. -/
theorem listsOnce_iff (h : d.HasTexts t dir) :
    d.ListsOnce t ↔ ∀ name ∈ t.children dir, ∀ id ∈ idOfFileName? name,
      name = entryName id ∧ FileTree.isTooLong (d.entryPath id) = false := by
  have hids := outcome_ids_of_directory h.there
  constructor
  · intro honce name hname id hid
    have hapart := honce.standApart h.there
    obtain ⟨ids, es, ts, hlisting⟩ := honce
    have hlisted := hlisting.ids_eq
    rw [hids] at hlisted
    cases hlisted
    -- The id is listed, so its entry is found, under its own name.
    obtain ⟨hown, hfit⟩ := h.exists_fetch_iff.mp
      ((hlisting.found id).mp (mem_idsOfNames_iff.mpr ⟨name, hname, hid⟩))
    exact ⟨hapart.eq_of_idOfFileName? hname hown hid (idOfFileName?_entryName id), hfit⟩
  · intro hnames
    have hentries : NamesEntries (t.children dir) := fun name hname id hid =>
      (hnames name hname id hid).1
    refine listsOnce_of_ids hids
      (pairwise_lt_idsOfNames_iff.mpr (hentries.standApart h.once)) fun id => ?_
    rw [hentries.mem_idsOfNames_iff, h.exists_fetch_iff]
    constructor
    · intro hmem
      exact ⟨hmem, (hnames _ hmem id (idOfFileName?_entryName id)).2⟩
    · rintro ⟨hmem, -⟩
      exact hmem

/-- A tree with files of the given names and texts in the directory `Directory.sample`. -/
def sampleTree (files : List (String × String)) : FileTree :=
  ⟨([FileName.ofText "_"], .directory) :: files.map fun (name, text) =>
    ([FileName.ofText "_", FileName.ofText name], .file text.toUTF8)⟩

/-- A first entry is listed once beside a file that is no entry. -/
theorem listsOnce_iff_first :
    sample.HasTexts (sampleTree [("1.md", "a"), ("notes.md", "b")]) [FileName.ofText "_"]
      ∧ sample.ListsOnce (sampleTree [("1.md", "a"), ("notes.md", "b")]) := by
  have hnames : (sampleTree [("1.md", "a"), ("notes.md", "b")]).children
      [FileName.ofText "_"] = [entryName EntryId.first, FileName.ofText "notes.md"] := by rfl
  have htexts : sample.HasTexts (sampleTree [("1.md", "a"), ("notes.md", "b")])
      [FileName.ofText "_"] := {
    there := by rfl
    once := by rw [hnames]; decide
    texts := by
      rw [hnames]
      intro name hname
      rcases List.mem_cons.mp hname with rfl | hname
      · exact ⟨_, "a", by rfl, fromUTF8?_toUTF8 "a"⟩
      · rw [List.mem_singleton.mp hname]
        exact ⟨_, "b", by rfl, fromUTF8?_toUTF8 "b"⟩ }
  refine ⟨htexts, (listsOnce_iff htexts).mpr ?_⟩
  rw [hnames]
  intro name hname id hid
  rcases List.mem_cons.mp hname with rfl | hname
  · rw [idOfFileName?_entryName] at hid
    cases hid
    exact ⟨rfl, by decide⟩
  · rw [List.mem_singleton.mp hname] at hid
    cases hid

/-- Beside a second name for it, an entry is listed twice. -/
theorem not_listsOnce_leading_zero :
    ¬ sample.ListsOnce (sampleTree [("1.md", "a"), ("01.md", "b")]) := by
  intro honce
  have hdir : (sampleTree [("1.md", "a"), ("01.md", "b")]).at? sample.path
      = .ok ([FileName.ofText "_"], .directory) := by rfl
  have hid : idOfFileName? (FileName.ofText "1.md") = some EntryId.first := by rfl
  have hid' : idOfFileName? (FileName.ofText "01.md") = some EntryId.first := by rfl
  have heq := (honce.standApart hdir).eq_of_idOfFileName? (by decide) (by decide) hid hid'
  exact absurd heq (by decide)

end Directory

end Redline
