/-
  A store in a directory answers as a store in memory does.

  What is saved in a directory comes back as its written form describes it.  But for that, the two
  stores cannot be told apart: whatever is asked of them, one operation after another, on a
  directory that was empty or could be made.

  1. **Mirrors** — a directory mirrors entries in memory if it holds a file for each of them, with
     its written form, and no other name.  A directory that is missing and can be made mirrors no
     entries.
  2. **Calls** — on a mirror, every call answers what the call in memory does, and leaves a mirror.
  3. **Histories** — so do all operations one after another (`history_eq`).
-/
import Redline.Proofs.Store.Directory
import Redline.Proofs.Store.Memory

namespace Redline

/-- An entry as it comes back from a directory. -/
def Entry.recoded (e : Entry) : Entry :=
  ⟨e.id, e.document.recoded⟩

theorem Entry.map_id_recoded (es : List Entry) :
    (es.map Entry.recoded).map Entry.id = es.map Entry.id := by
  rw [List.map_map]
  refine List.map_congr_left fun e _ => ?_
  rw [Function.comp_apply, Entry.recoded]

namespace Directory

/-! ## Mirrors -/

/-- The directory is there and holds the written forms of the entries in `s`, and nothing else. -/
structure Keeps (d : Directory) (t : FileTree) (s : Memory) (dir : Location) : Prop where
  there : t.at? d.path = .ok (dir, .directory)
  files : ∀ id, t.find? (dir ++ [entryName id])
    = (s.get? id).map fun e => .file (written e.document)
  names : (t.children dir).Perm (s.entries.map fun e => entryName e.id)

/-- The tree `t` stands for the entries in `s`, kept in a directory that is there or, if there are
    none, may have to be made. -/
inductive Mirrors (d : Directory) : FileTree → Memory → Prop
  | kept {t : FileTree} {s : Memory} {dir : Location} (h : d.Keeps t s dir) : Mirrors d t s
  | unmade {t t' : FileTree} {dir : Location} (hmissing : t.at? d.path = .error .notFound)
      (hmake : FileAccess.makeDirectories (m := StateM FileTree) d.path t = (.ok (), t'))
      (h : d.Keeps t' Memory.empty dir) : Mirrors d t Memory.empty

/-- All paths of entries are short enough for the system. -/
def Fits (d : Directory) : Prop :=
  ∀ id, FileTree.isTooLong (d.entryPath id) = false

variable {d : Directory} {t t' : FileTree} {s : Memory} {dir : Location} {id : EntryId}

/-- The file of an entry is found exactly when the memory has the entry, with its written
    document. -/
theorem Keeps.at?_entryPath (h : d.Keeps t s dir) (hfit : d.Fits) (id : EntryId) :
    t.at? (d.entryPath id) = match s.get? id with
      | none => .error .notFound
      | some e => .ok (dir ++ [entryName id], .file (written e.document)) := by
  have hfit := hfit id
  rw [d.entryPath_eq] at hfit ⊢
  have hat := FileTree.at?_concat h.there (isFileName_fileName id) hfit
  have hfind := h.files id
  rw [entryName] at hfind
  rw [hat, hfind]
  cases s.get? id <;> rfl

/-- All names in the directory are names of entries, so every temporary name is free. -/
theorem Keeps.temporary_free (h : d.Keeps t s dir) (n : Nat) :
    FileName.ofText (FilePath.temporaryName n) ∉ t.children dir := by
  rw [h.names.mem_iff, List.mem_map]
  rintro ⟨e, -, he⟩
  exact entryName_ne_temporaryName e.id n he

/-- Nothing in the directory is a directory itself. -/
theorem Keeps.find?_ne_directory (h : d.Keeps t s dir) (id : EntryId) :
    t.find? (dir ++ [entryName id]) ≠ some .directory := by
  rw [h.files]
  cases s.get? id with
  | none => simp
  | some e => simp

/-- The names of the other entries. -/
theorem filter_entryNames (es : List Entry) (id : EntryId) :
    (es.map fun e => entryName e.id).filter (· ≠ entryName id)
      = (es.filter fun e => e.id ≠ id).map fun e => entryName e.id := by
  rw [List.filter_map]
  congr 1
  refine List.filter_congr fun e _ => ?_
  show decide (entryName e.id ≠ entryName id) = decide (e.id ≠ id)
  rw [decide_eq_decide]
  exact not_congr ⟨entryName_injective, congrArg entryName⟩

theorem concat_entryName_eq_iff {id' : EntryId} :
    dir ++ [entryName id] = dir ++ [entryName id'] ↔ id = id' :=
  ⟨fun h => entryName_injective (List.cons.inj (List.append_cancel_left h)).1, fun h => by rw [h]⟩

/-- A mirror of one more entry. -/
theorem Keeps.insert (h : d.Keeps t s dir) (e : Entry) : d.Keeps
    (t.replaced dir (FileName.ofText (FilePath.temporaryName 0)) (entryName e.id)
      (written e.document)) (s.insert e) dir where
  there := FileTree.at?_of_keeps
    (FileTree.keeps_replaced (h.temporary_free 0) (h.find?_ne_directory e.id)) h.there
  files id := by
    rw [FileTree.find?_replaced (h.temporary_free 0), Memory.get?_insert, h.files]
    simp only [concat_entryName_eq_iff]
    split <;> rfl
  names := by
    rw [FileTree.children_replaced (h.temporary_free 0)]
    have hothers := h.names.filter (· ≠ entryName e.id)
    rw [filter_entryNames] at hothers
    have hinsert := (perm_insertEntry e s.ascending).map fun x => entryName x.id
    exact (hothers.cons _).trans hinsert.symm

/-- A mirror of one entry less. -/
theorem Keeps.erase (h : d.Keeps t s dir) (id : EntryId) :
    d.Keeps (t.drop (dir ++ [entryName id])) (s.erase id) dir where
  there := FileTree.at?_of_keeps (FileTree.keeps_drop_file (by simp) (h.find?_ne_directory id))
    h.there
  files id' := by
    rw [FileTree.find?_drop t (by simp), Memory.get?_erase, h.files]
    simp only [concat_entryName_eq_iff]
    split <;> rfl
  names := by
    rw [FileTree.children_drop]
    have hothers := h.names.filter (· ≠ entryName id)
    rwa [filter_entryNames] at hothers

/-- Once the directory was made, it mirrors the same entries. -/
theorem Mirrors.exists_made (h : d.Mirrors t s) : ∃ t' dir,
    FileAccess.makeDirectories (m := StateM FileTree) d.path t = (.ok (), t')
      ∧ d.Keeps t' s dir := by
  cases h with
  | kept h => exact ⟨t, _, FileTree.makeDirectories_of_directory h.there, h⟩
  | unmade _ hmake h => exact ⟨_, _, hmake, h⟩

/-- Without the directory, no entry is found. -/
theorem at?_entryPath_of_missing (hfit : d.Fits) (hmissing : t.at? d.path = .error .notFound)
    (h : d.Keeps t' s dir) (id : EntryId) : t.at? (d.entryPath id) = .error .notFound := by
  have hpath := FileTree.accepted_of_locate (FileTree.at?_eq_ok_iff.mp h.there).1
  have hfit := hfit id
  rw [d.entryPath_eq] at hfit ⊢
  exact FileTree.at?_concat_of_missing hpath hmissing (isFileName_fileName id)
    hfit

/-! ## Calls -/

theorem Mirrors.outcome_fetch (h : d.Mirrors t s) (hfit : d.Fits) (id : EntryId) :
    outcome (d.fetch id) t = (.ok ((s.get? id).map Entry.recoded), t) := by
  cases h with
  | unmade hmissing _ h =>
    exact outcome_fetch_of_missing (at?_entryPath_of_missing hfit hmissing h id)
  | kept h =>
    have hat := h.at?_entryPath hfit id
    cases hget : s.get? id with
    | none =>
      rw [hget] at hat
      exact outcome_fetch_of_missing hat
    | some e =>
      rw [hget] at hat
      refine outcome_fetch_eq_some_iff.mpr ⟨rfl, _, _, _, hat, fromUTF8?_written _, ?_⟩
      rw [Entry.recoded, Memory.id_of_get? hget]
      rfl

theorem Mirrors.outcome_ids (h : d.Mirrors t s) :
    outcome d.ids t = (.ok (s.entries.map Entry.id), t) := by
  cases h with
  | unmade hmissing _ h => exact outcome_ids_of_missing hmissing
  | kept h =>
    rw [outcome_ids_of_directory h.there]
    have hnames := h.names
    rw [show (fun e : Entry => entryName e.id) = entryName ∘ Entry.id from rfl, ← List.map_map]
      at hnames
    rw [idsOfNames_of_perm hnames (List.pairwise_map.mpr s.ascending)]

/-- A listing gives every entry as it is read back from its file. -/
theorem Mirrors.outcome_list (h : d.Mirrors t s) (hfit : d.Fits) :
    outcome d.list t = (.ok (s.entries.map Entry.recoded), t) := by
  rw [list, outcome_bind_of_ok h.outcome_ids, ← Entry.map_id_recoded]
  refine outcome_fetchAll fun x hx => ?_
  obtain ⟨e, he, rfl⟩ := List.mem_map.mp hx
  rw [show e.recoded.id = e.id by rw [Entry.recoded], h.outcome_fetch hfit,
    Memory.get?_eq_some_iff.mpr ⟨he, rfl⟩, Option.map_some]

theorem Mirrors.outcome_newId (h : d.Mirrors t s) :
    outcome d.newId t = (.ok s.newId, t) := by
  rw [newId, outcome_bind_of_ok h.outcome_ids, List.getLast?_map]
  rfl

/-- What is saved under an id comes back recoded, and is mirrored. -/
theorem Mirrors.outcome_save_some (h : d.Mirrors t s) (hfit : d.Fits) (id : EntryId)
    (document : Document) : ∃ t', outcome (d.save (some id) document) t
        = (.ok ⟨id, document.recoded⟩, t') ∧ d.Mirrors t' (s.insert ⟨id, document⟩) := by
  obtain ⟨t₁, dir, hmake, hkept⟩ := h.exists_made
  exact ⟨_, outcome_save_of_free hmake hkept.there hfit (hkept.temporary_free 0)
    (hkept.find?_ne_directory id), .kept (hkept.insert ⟨id, document⟩)⟩

/-- **One save.**  Both stores choose the same id, and the directory holds what the memory
    holds. -/
theorem Mirrors.outcome_save (h : d.Mirrors t s) (hfit : d.Fits) (id? : Option EntryId)
    (document : Document) : ∃ t', outcome (d.save id? document) t
        = (.ok ⟨id?.getD s.newId, document.recoded⟩, t')
      ∧ d.Mirrors t' (s.insert ⟨id?.getD s.newId, document⟩) := by
  cases id? with
  | some id => exact h.outcome_save_some hfit id document
  | none =>
    rw [save_none, outcome_bind_of_ok h.outcome_newId]
    exact h.outcome_save_some hfit s.newId document

theorem Mirrors.outcome_delete (h : d.Mirrors t s) (hfit : d.Fits) (id : EntryId) :
    ∃ t', outcome (d.delete id) t = (.ok (s.get? id).isSome, t') ∧ d.Mirrors t' (s.erase id) := by
  cases h with
  | unmade hmissing hmake h =>
    exact ⟨t, outcome_delete_of_missing (at?_entryPath_of_missing hfit hmissing h id),
      .unmade hmissing hmake h⟩
  | kept h =>
    have hat := h.at?_entryPath hfit id
    cases hget : s.get? id with
    | none =>
      rw [hget] at hat
      rw [Memory.erase_of_none hget]
      exact ⟨t, outcome_delete_of_missing hat, .kept h⟩
    | some e =>
      rw [hget] at hat
      exact ⟨_, outcome_delete_of_file hat, .kept (h.erase id)⟩

end Directory

/-! ## Histories -/

/-- The answer of a store in a directory where a store in memory, which then holds the entries
    `es`, answers `a`. -/
def Answer.recoded (es : List Entry) : Answer → Answer
  | .found e? => .found (e?.map Entry.recoded)
  | .saved e => .saved e.recoded
  | .entries es' => .entries (es'.map Entry.recoded)
  | .deleted there => .deleted there
  | .tags _ => .tags (Catalog.tagCounts (es.map Entry.recoded))
  | .paths _ => .paths (Catalog.categoryPaths (es.map Entry.recoded))

namespace Directory

variable {d : Directory} {t : FileTree} {s : Memory}

/-- **One operation.** -/
theorem Mirrors.outcome_call (h : d.Mirrors t s) (hfit : d.Fits) (op : Operation) :
    ∃ a s' t', outcome (op.call Memory.store) s = (.ok a, s')
      ∧ outcome (op.call d.store) t = (.ok (a.recoded s'.entries), t') ∧ d.Mirrors t' s' := by
  cases op with
  | fetch id =>
    refine ⟨.found (s.get? id), s, t, rfl, ?_, h⟩
    exact outcome_bind_of_ok (h.outcome_fetch hfit id) _
  | save id? document =>
    obtain ⟨t', hsave, h'⟩ := h.outcome_save hfit id? document
    exact ⟨.saved ⟨id?.getD s.newId, document⟩, _, t', rfl, outcome_bind_of_ok hsave _, h'⟩
  | list =>
    exact ⟨.entries s.entries, s, t, rfl, outcome_bind_of_ok (h.outcome_list hfit) _, h⟩
  | delete id =>
    obtain ⟨t', hdelete, h'⟩ := h.outcome_delete hfit id
    exact ⟨.deleted (s.get? id).isSome, _, t', rfl, outcome_bind_of_ok hdelete _, h'⟩
  | tagCounts =>
    have htags : outcome d.store.tagCounts t
        = (.ok (Catalog.tagCounts (s.entries.map Entry.recoded)), t) :=
      outcome_bind_of_ok (h.outcome_list hfit) _
    exact ⟨.tags (Catalog.tagCounts s.entries), s, t, rfl, outcome_bind_of_ok htags _, h⟩
  | categoryPaths =>
    have hpaths : outcome d.store.categoryPaths t
        = (.ok (Catalog.categoryPaths (s.entries.map Entry.recoded)), t) :=
      outcome_bind_of_ok (h.outcome_list hfit) _
    exact ⟨.paths (Catalog.categoryPaths s.entries), s, t, rfl, outcome_bind_of_ok hpaths _, h⟩

/-- What a new directory needs: nothing is in it once it was made, and its paths fit. -/
structure IsFresh (d : Directory) (t : FileTree) : Prop where
  empty : ∃ t', FileAccess.makeDirectories (m := StateM FileTree) d.path t = (.ok (), t')
    ∧ t'.names d.path = .ok []
  fits : d.Fits

/-- An empty directory is a store without entries. -/
theorem keeps_empty {dir : Location} (hdir : t.at? d.path = .ok (dir, .directory))
    (hnames : t.children dir = []) : d.Keeps t Memory.empty dir where
  there := hdir
  files id := by
    rw [FileTree.find?_eq_none_of_not_mem (by rw [hnames]; exact List.not_mem_nil)]
    rfl
  names := List.Perm.of_eq hnames

/-- A new directory mirrors no entries. -/
theorem IsFresh.mirrors (h : d.IsFresh t) : d.Mirrors t Memory.empty := by
  obtain ⟨t', hmake, hnames⟩ := h.empty
  obtain ⟨dir, hdir, hchildren⟩ : ∃ dir, t'.at? d.path = .ok (dir, .directory)
      ∧ t'.children dir = [] := by
    cases hat : t'.at? d.path with
    | error e => simp [FileTree.names, hat, bind, Except.bind] at hnames
    | ok found =>
      obtain ⟨dir, n⟩ := found
      rw [FileTree.names, hat] at hnames
      cases n with
      | file content => cases hnames
      | directory => exact ⟨dir, rfl, Except.ok.inj hnames⟩
  have hkept := keeps_empty hdir hchildren
  rcases FileTree.at?_of_makeDirectories_ok hmake with ⟨l, hthere⟩ | hmissing
  · rw [FileTree.makeDirectories_of_directory hthere] at hmake
    cases hmake
    exact .kept hkept
  · exact .unmade hmissing hmake hkept

/-- In an empty tree, every tenant whose name the system takes has a new directory. -/
theorem isFresh_empty {tenant : String} (hname : isTenantName tenant = true)
    (hshort : tenant.utf8ByteSize ≤ FileTree.maxNameSize) :
    IsFresh ⟨[], tenant, hname⟩ FileTree.empty := by
  have hfile := isFileName_of_isTenantName hname hshort
  have hlocate := FileTree.locate_singleton hfile
  have hmake : FileTree.empty.makeDirectory [tenant]
      = .ok (FileTree.empty.put [FileName.ofText tenant] .directory) := by
    rw [FileTree.makeDirectory, hlocate]
    rfl
  constructor
  · refine ⟨_, FileTree.makeDirectories_of_makeDirectory (List.cons_ne_nil _ _) hmake, ?_⟩
    have hat := FileTree.at?_of_locate
      (hlocate (FileTree.empty.put [FileName.ofText tenant] .directory))
    rw [FileTree.find?_put _ (List.cons_ne_nil _ _), if_pos rfl] at hat
    show FileTree.names _ [tenant] = _
    rw [FileTree.names, hat]
    rfl
  · intro id
    have hdigits := Text.length_decimal_le id.bounded
    rw [entryPath_eq, FileTree.isTooLong, decide_eq_false_iff_not,
      FileTree.utf8ByteSize_text_concat (path_ne_nil _), utf8ByteSize_fileName]
    show ¬ FileTree.maxPathSize < (FilePath.text [tenant]).utf8ByteSize + 1 + _
    rw [FileTree.text_singleton, FileTree.maxPathSize]
    rw [FileTree.maxNameSize] at hshort
    omega

/-- On mirrors, all operations one after another get the same answers. -/
theorem Mirrors.history_eq (h : d.Mirrors t s) (hfit : d.Fits) (ops : List Operation) :
    (history d.store ops t).map Prod.fst
      = (history Memory.store ops s).map fun step => step.1.map (Answer.recoded step.2.entries) := by
  induction ops generalizing s t with
  | nil => rfl
  | cons op ops ih =>
    obtain ⟨a, s', t', hmemory, hdirectory, h'⟩ := h.outcome_call hfit op
    rw [history, history, List.map_cons, List.map_cons, hmemory, hdirectory]
    exact congrArg _ (ih h')

/-- **The two stores are equivalent up to what a written form keeps.**  In memory no operation
    fails, and in a new directory each gets the same answer, with all documents recoded. -/
theorem history_eq_recoded (h : d.IsFresh t) (ops : List Operation) :
    (∀ step ∈ history Memory.store ops Memory.empty, ∃ a, step.1 = .ok a)
    ∧ (history d.store ops t).map Prod.fst
      = (history Memory.store ops Memory.empty).map fun step =>
          step.1.map (Answer.recoded step.2.entries) :=
  ⟨Memory.history_ok Memory.empty ops, h.mirrors.history_eq h.fits ops⟩

/-- An entry that is saved, found, deleted and gone. -/
theorem history_eq_recoded_deleted :
    (history (Directory.store ⟨[], defaultTenant, by decide⟩)
      [.save none { body := "a" }, .fetch EntryId.first, .categoryPaths, .delete EntryId.first, .list]
      FileTree.empty).map Prod.fst
    = [.ok (.saved ⟨EntryId.first, Document.recoded { body := "a" }⟩),
      .ok (.found (some ⟨EntryId.first, Document.recoded { body := "a" }⟩)),
      .ok (.paths (Catalog.categoryPaths [⟨EntryId.first, Document.recoded { body := "a" }⟩])),
      .ok (.deleted true),
      .ok (.entries [])] :=
  (history_eq_recoded (isFresh_empty (by decide) (by decide)) _).2.trans rfl

end Directory

end Redline
