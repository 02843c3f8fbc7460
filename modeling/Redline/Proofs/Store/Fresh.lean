/-
  Saving a new entry — how far its id is fresh.

  A store saves a new document under the id after the largest one in use, and the largest id of all
  is its own successor.  So the one thing that can go wrong is an entry under that id:

  1. **Ids** — the id after those in use is above each of them but the last id (`lt_after`).
  2. **What is kept** — to save under an id leaves every entry under another id as it was, in
     memory and in a directory (`holds_of_save`).
  3. **Freshness** — a new entry comes behind all others and takes nothing away exactly when no
     entry was kept under the last id (`addsFresh_save_iff`).  Else it replaces that entry.
-/
import Redline.Proofs.Store.Directory
import Redline.Proofs.Store.Memory

namespace Redline

/-! ## Ids -/

/-- The id for a new entry is above every id in use but the last one. -/
theorem EntryId.lt_after {ids : List EntryId} (hids : ids.Pairwise (· ≤ ·)) {id : EntryId}
    (hmem : id ∈ ids) (hlast : id ≠ EntryId.last) : id < EntryId.after ids.getLast? := by
  obtain ⟨largest, hlargest⟩ : ∃ largest, ids.getLast? = some largest :=
    ⟨_, List.getLast?_eq_getLast_of_ne_nil (List.ne_nil_of_mem hmem)⟩
  obtain ⟨others, rfl⟩ := List.getLast?_eq_some_iff.mp hlargest
  have hle : id ≤ largest := by
    rcases List.mem_append.mp hmem with hmem | hmem
    · exact (List.pairwise_append.mp hids).2.2 id hmem largest List.mem_cons_self
    · rw [List.mem_singleton.mp hmem]
      exact Nat.le_refl _
  rw [hlargest]
  show id < largest.next
  by_cases h : largest = EntryId.last
  · rw [h, EntryId.next_last]
    exact EntryId.lt_last_of_ne hlast
  · exact Nat.lt_of_le_of_lt hle (EntryId.lt_next h)

/-! ## Freshness -/

namespace DocumentStore

variable {σ : Type}

/-- The store finds the entry `e` under its id. -/
def Holds (store : DocumentStore (StateM σ)) (st : σ) (e : Entry) : Prop :=
  outcome (store.fetch e.id) st = (.ok (some e), st)

/-- Between `st` and `st'`, the entry `e` came behind all entries, and all of them were kept. -/
def AddsFresh (store : DocumentStore (StateM σ)) (st : σ) (e : Entry) (st' : σ) : Prop :=
  ∀ x, store.Holds st x → x.id < e.id ∧ store.Holds st' x

/-- Where all other entries are kept and all ids but the last one are exceeded, only the last id
    can be in the way. -/
theorem addsFresh_iff {store : DocumentStore (StateM σ)} {st st' : σ} {e : Entry}
    (hkeep : ∀ x, store.Holds st x → x.id ≠ e.id → store.Holds st' x)
    (hid : ∀ x, store.Holds st x → x.id ≠ EntryId.last → x.id < e.id) :
    store.AddsFresh st e st' ↔ ∀ x, store.Holds st x → x.id ≠ EntryId.last := by
  constructor
  · intro hfresh x hx hlast
    have hlt := (hfresh x hx).1
    rw [hlast] at hlt
    exact Nat.not_lt_of_le (EntryId.le_last e.id) hlt
  · intro hfree x hx
    have hlt := hid x hx (hfree x hx)
    refine ⟨hlt, hkeep x hx fun heq => ?_⟩
    rw [heq] at hlt
    exact Nat.lt_irrefl _ hlt

end DocumentStore

/-! ## In memory -/

namespace Memory

theorem holds_iff {s : Memory} {e : Entry} : store.Holds s e ↔ e ∈ s.entries := by
  rw [DocumentStore.Holds, outcome_fetch, Prod.mk.injEq, Except.ok.injEq, get?_eq_some_iff]
  simp

theorem holds_of_save {s : Memory} {e x : Entry} (hx : store.Holds s x) (hne : x.id ≠ e.id) :
    store.Holds (s.insert e) x := by
  rw [holds_iff] at hx ⊢
  rw [mem_insert_iff]
  exact .inr ⟨hx, hne⟩

theorem lt_newId {s : Memory} {x : Entry} (hx : store.Holds s x) (hlast : x.id ≠ EntryId.last) :
    x.id < s.newId := by
  rw [holds_iff] at hx
  rw [newId, ← List.getLast?_map]
  refine EntryId.lt_after ?_ (List.mem_map_of_mem hx) hlast
  rw [List.pairwise_map]
  exact s.ascending.imp Nat.le_of_lt

end Memory

/-! ## In a directory -/

namespace Directory

variable {d : Directory} {t t' : FileTree} {id : EntryId} {x : Entry}

/-- An entry that is found stands in the directory under its name. -/
theorem exists_of_holds (h : d.store.Holds t x) : ∃ dir content text,
    t.at? d.path = .ok (dir, .directory)
      ∧ t.at? (d.entryPath x.id) = .ok (dir ++ [entryName x.id], .file content)
      ∧ String.fromUTF8? content = some text
      ∧ x = ⟨x.id, FrontMatter.decodeDocument text⟩ := by
  obtain ⟨-, l, content, text, hat, htext, hx⟩ := outcome_fetch_eq_some_iff.mp h
  have hpath := hat
  rw [d.entryPath_eq] at hpath
  obtain ⟨dir, hdir, rfl⟩ :=
    FileTree.exists_directory_of_at?_concat d.path_ne_nil (isPlain_fileName x.id) hpath
  exact ⟨dir, content, text, hdir, hat, htext, hx⟩

/-- Where an entry is found the directory is there already, so to save is to replace a file. -/
theorem exists_replaced_of_holds {document : Document} {e : Entry}
    (h : outcome (d.save (some id) document) t = (.ok e, t')) (hx : d.store.Holds t x) :
    e = ⟨id, document.recoded⟩ ∧ ∃ dir temporary,
      t.at? d.path = .ok (dir, .directory)
      ∧ entryName x.id ∈ t.children dir
      ∧ temporary ∉ t.children dir
      ∧ t.find? (dir ++ [entryName id]) ≠ some .directory
      ∧ t' = t.replaced dir temporary (entryName id) (written document) := by
  obtain ⟨he, t₁, dir, temporary, hmake, hdir, hfree, hthere, ht', -⟩ :=
    exists_replaced_of_outcome_save h
  obtain ⟨dir', content, text, hdir', hat, -⟩ := exists_of_holds hx
  rw [FileTree.makeDirectories_of_directory hdir'] at hmake
  cases hmake
  rw [hdir] at hdir'
  cases hdir'
  have hmem : entryName x.id ∈ t.children dir := by
    rw [FileTree.mem_children_iff, (FileTree.at?_eq_ok_iff.mp hat).2]
    rfl
  exact ⟨he, dir, temporary, hdir, hmem, hfree, hthere, ht'⟩

theorem holds_of_save {document : Document} {e : Entry}
    (h : outcome (d.save (some id) document) t = (.ok e, t')) (hx : d.store.Holds t x)
    (hne : x.id ≠ e.id) : d.store.Holds t' x := by
  obtain ⟨rfl, dir, temporary, hdir, -, hfree, hthere, rfl⟩ := exists_replaced_of_holds h hx
  obtain ⟨-, l, content, text, hat, htext, hentry⟩ := outcome_fetch_eq_some_iff.mp hx
  rw [← at?_entryPath_replaced hdir hfree hthere hne] at hat
  exact outcome_fetch_eq_some_iff.mpr ⟨rfl, l, content, text, hat, htext, hentry⟩

theorem lt_newId (h : outcome d.newId t = (.ok id, t')) (hx : d.store.Holds t x) :
    t' = t ∧ (x.id ≠ EntryId.last → x.id < id) := by
  obtain ⟨dir, content, -, hdir, hat, -⟩ := exists_of_holds hx
  have hmem : entryName x.id ∈ t.children dir := by
    rw [FileTree.mem_children_iff, (FileTree.at?_eq_ok_iff.mp hat).2]
    rfl
  rw [newId, outcome_bind_of_ok (outcome_ids_of_directory hdir)] at h
  cases h
  exact ⟨rfl, EntryId.lt_after (pairwise_idsOfNames _) (mem_idsOfNames hmem)⟩

end Directory

/-! ## Both stores -/

/-- **How far a new entry is fresh.**  It comes behind every entry and takes none away, exactly when
    no entry was kept under the last id. -/
theorem addsFresh_save_iff (d : Directory) (document : Document) :
    (∀ (s s' : Memory) (e : Entry), outcome (Memory.store.save none document) s = (.ok e, s') →
      (Memory.store.AddsFresh s e s' ↔ ∀ x, Memory.store.Holds s x → x.id ≠ EntryId.last))
    ∧ (∀ (t t' : FileTree) (e : Entry), outcome (d.store.save none document) t = (.ok e, t') →
      (d.store.AddsFresh t e t' ↔ ∀ x, d.store.Holds t x → x.id ≠ EntryId.last)) := by
  constructor
  · intro s s' e h
    rw [Memory.outcome_save] at h
    cases h
    exact DocumentStore.addsFresh_iff (fun _ => Memory.holds_of_save) (fun _ => Memory.lt_newId)
  · intro t t' e h
    change outcome (d.save none document) t = _ at h
    rw [Directory.save_none, outcome_bind_eq_ok_iff] at h
    obtain ⟨id, t₁, hnew, hsave⟩ := h
    have hid : e.id = id := by
      rw [(Directory.outcome_save_eq_ok_iff.mp hsave).1]
    refine DocumentStore.addsFresh_iff (fun x hx hne => ?_) (fun x hx hlast => ?_)
    · obtain ⟨rfl, -⟩ := Directory.lt_newId hnew hx
      exact Directory.holds_of_save hsave hx hne
    · rw [hid]
      exact (Directory.lt_newId hnew hx).2 hlast

/-- A directory in an empty tree. -/
def Directory.sample : Directory := ⟨[], Directory.defaultTenant, by decide⟩

/-- The tree with a first entry in that directory. -/
def FileTree.sample : FileTree :=
  (outcome (Directory.sample.store.save none { body := "a" }) FileTree.empty).2

/-- Behind a first entry, in either store, a new one gets the second id and takes nothing away. -/
theorem addsFresh_save_iff_second :
    (∃ s s' : Memory,
      outcome (Memory.store.save none { body := "a" }) Memory.empty
        = (.ok ⟨EntryId.first, { body := "a" }⟩, s)
      ∧ outcome (Memory.store.save none { body := "b" }) s
        = (.ok ⟨EntryId.first.next, { body := "b" }⟩, s')
      ∧ Memory.store.AddsFresh s ⟨EntryId.first.next, { body := "b" }⟩ s')
    ∧ ∃ t',
      Directory.sample.store.Holds FileTree.sample
        ⟨EntryId.first, Document.recoded { body := "a" }⟩
      ∧ outcome (Directory.sample.store.save none { body := "b" }) FileTree.sample
        = (.ok ⟨EntryId.first.next, Document.recoded { body := "b" }⟩, t')
      ∧ Directory.sample.store.AddsFresh FileTree.sample
        ⟨EntryId.first.next, Document.recoded { body := "b" }⟩ t' := by
  obtain ⟨hmemory, hdirectory⟩ := addsFresh_save_iff Directory.sample { body := "b" }
  constructor
  · refine ⟨_, _, rfl, rfl, (hmemory _ _ _ rfl).mpr fun x hx hlast => ?_⟩
    have hx : outcome (Memory.store.fetch x.id) _ = _ := hx
    rw [hlast] at hx
    cases hx
  · have hdir : FileTree.sample.at? Directory.sample.path
        = .ok ([FileName.ofText "_"], .directory) := by rfl
    have hnames : (FileTree.sample.children [FileName.ofText "_"]).Perm
        ([EntryId.first].map Directory.entryName) := List.Perm.of_eq (by rfl)
    have hids : outcome Directory.sample.ids FileTree.sample
        = (.ok [EntryId.first], FileTree.sample) := by
      rw [Directory.outcome_ids_of_directory hdir,
        Directory.idsOfNames_of_perm hnames (List.pairwise_singleton _ _)]
    have hsave : outcome (Directory.sample.store.save none { body := "b" }) FileTree.sample
        = (.ok ⟨EntryId.first.next, Document.recoded { body := "b" }⟩,
          (outcome (Directory.sample.save (some EntryId.first.next) { body := "b" })
            FileTree.sample).2) := by
      show outcome (Directory.sample.save none _) _ = _
      rw [Directory.save_none, Directory.newId, bind_assoc, outcome_bind_of_ok hids]
      rfl
    have hnone : outcome (Directory.sample.store.fetch EntryId.last) FileTree.sample
        = (.ok none, FileTree.sample) := by rfl
    refine ⟨_, by rfl, hsave, (hdirectory _ _ _ hsave).mpr fun x hx hlast => ?_⟩
    rw [DocumentStore.Holds, hlast, hnone] at hx
    cases hx

/-- A new entry takes the place of one that was saved under the last id. -/
theorem not_addsFresh_after_last :
    ∃ s s' : Memory,
      outcome (Memory.store.save (some EntryId.last) { body := "a" }) Memory.empty
        = (.ok ⟨EntryId.last, { body := "a" }⟩, s)
      ∧ outcome (Memory.store.save none { body := "b" }) s
        = (.ok ⟨EntryId.last, { body := "b" }⟩, s')
      ∧ ¬ Memory.store.AddsFresh s ⟨EntryId.last, { body := "b" }⟩ s' := by
  refine ⟨_, _, rfl, rfl, fun hfresh => ?_⟩
  have hheld : Memory.store.Holds (Memory.empty.insert ⟨EntryId.last, { body := "a" }⟩)
      ⟨EntryId.last, { body := "a" }⟩ := rfl
  exact Nat.lt_irrefl _ (hfresh _ hheld).1

end Redline
