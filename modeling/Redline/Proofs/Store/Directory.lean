/-
  Calls of a store in a directory, on a file tree.

  Each call is settled by what stands in the tree.

  1. **Reading** — an entry is found exactly where a file with a text stands at its path
     (`outcome_fetch_eq_some_iff`); the ids come from the names in the directory.
  2. **Saving** — the directory is made if it is missing, and one file in it is replaced.  Whatever
     the tree was, this is all that a successful call does (`outcome_save_eq_ok_iff`), and where nothing
     is in the way a call is successful (`outcome_save_of_free`).
  3. **Deleting** — the file of the entry is dropped.
-/
import Redline.Proofs.Store.Calls
import Redline.Proofs.Store.Names

namespace Redline

/-- A document as it comes back from its written form. -/
def Document.recoded (document : Document) : Document :=
  FrontMatter.decodeDocument (FrontMatter.encodeDocument document)

namespace Directory

variable {d : Directory} {t t' t'' : FileTree} {id : EntryId} {dir l : Location}

/-! ## Reading -/

/-- Only a file is read. -/
theorem read_eq_ok_iff {path : FilePath} {content : ByteArray} :
    t.read path = .ok content ↔ ∃ l, t.at? path = .ok (l, .file content) := by
  cases hat : t.at? path with
  | error e => simp [FileTree.read, hat, bind, Except.bind]
  | ok found =>
    obtain ⟨l, n⟩ := found
    cases n <;> simp [FileTree.read, hat, bind, Except.bind, Prod.ext_iff]

/-- The text of a file in a tree. -/
theorem readText_run (t : FileTree) (path : FilePath) :
    FileAccess.readText (m := StateM FileTree) path t
      = ((t.read path).map String.fromUTF8?, t) := by
  have hread : FileAccess.read (m := StateM FileTree) path t = (t.read path, t) := rfl
  simp only [FileAccess.readText, bind, StateT.bind, hread]
  cases t.read path <;> rfl

/-- What is answered for an entry, from the text that its file was read as. -/
def answerOfText (id : EntryId) :
    Except FileError (Option String) → Except StoreError (Option Entry)
  | .ok (some text) => .ok (some ⟨id, FrontMatter.decodeDocument text⟩)
  | .ok none => .error (.corrupt id "stream did not contain valid UTF-8")
  | .error .notFound => .ok none
  | .error e => .error (.file e)

/-- To fetch an entry is to read one file; the tree stays as it is. -/
theorem outcome_fetch (d : Directory) (id : EntryId) (t : FileTree) :
    outcome (d.fetch id) t
      = (answerOfText id ((t.read (d.entryPath id)).map String.fromUTF8?), t) := by
  rw [fetch, outcome_mk_bind (readText_run t (d.entryPath id))]
  cases (t.read (d.entryPath id)).map String.fromUTF8? with
  | error e => cases e <;> rfl
  | ok text? => cases text? <;> rfl

/-- A file that is not there is no failure but an entry that is not there. -/
theorem outcome_fetch_of_missing (h : t.at? (d.entryPath id) = .error .notFound) :
    outcome (d.fetch id) t = (.ok none, t) := by
  rw [outcome_fetch, FileTree.read, h]
  rfl

/-- **Where an entry is found.** -/
theorem outcome_fetch_eq_some_iff {e : Entry} :
    outcome (d.fetch id) t = (.ok (some e), t') ↔ t' = t ∧ ∃ l content text,
      t.at? (d.entryPath id) = .ok (l, .file content) ∧ String.fromUTF8? content = some text
        ∧ e = ⟨id, FrontMatter.decodeDocument text⟩ := by
  rw [outcome_fetch]
  constructor
  · intro h
    obtain ⟨hanswer, rfl⟩ := Prod.mk.inj h
    refine ⟨rfl, ?_⟩
    cases hread : t.read (d.entryPath id) with
    | error e =>
      rw [hread] at hanswer
      cases e <;> cases hanswer
    | ok content =>
      rw [hread] at hanswer
      change answerOfText id (.ok (String.fromUTF8? content)) = _ at hanswer
      obtain ⟨l, hat⟩ := read_eq_ok_iff.mp hread
      cases htext : String.fromUTF8? content with
      | none => rw [htext] at hanswer; cases hanswer
      | some text =>
        rw [htext] at hanswer
        cases hanswer
        exact ⟨l, content, text, hat, htext, rfl⟩
  · rintro ⟨rfl, l, content, text, hat, htext, rfl⟩
    rw [read_eq_ok_iff.mpr ⟨l, hat⟩]
    show (answerOfText id (.ok (String.fromUTF8? content)), _) = _
    rw [htext]
    rfl

theorem names_run (t : FileTree) (path : FilePath) :
    FileAccess.names (m := StateM FileTree) path t = (t.names path, t) := rfl

theorem outcome_ids_of_directory (h : t.at? d.path = .ok (dir, .directory)) :
    outcome d.ids t = (.ok (idsOfNames (t.children dir)), t) := by
  rw [ids, outcome_mk_bind (names_run t d.path), FileTree.names, h]
  rfl

/-- A directory that is not there has no entries. -/
theorem outcome_ids_of_missing (h : t.at? d.path = .error .notFound) :
    outcome d.ids t = (.ok [], t) := by
  rw [ids, outcome_mk_bind (names_run t d.path), FileTree.names, h]
  rfl

/-- Entries that are found one by one are found in a row. -/
theorem outcome_fetchAll {es : List Entry}
    (h : ∀ e ∈ es, outcome (d.fetch e.id) t = (.ok (some e), t)) :
    outcome (d.fetchAll (es.map Entry.id)) t = (.ok es, t) := by
  induction es with
  | nil => rfl
  | cons e es ih =>
    rw [List.forall_mem_cons] at h
    rw [List.map_cons, fetchAll, outcome_bind_of_ok h.1, outcome_bind_of_ok (ih h.2)]
    rfl

/-! ## Saving -/

theorem outcome_run {σ α : Type} (operation : StateM σ (Except FileError α)) (st : σ) :
    outcome (run operation) st = match operation st with
      | (.ok a, st') => (.ok a, st')
      | (.error e, st') => (.error (.file e), st') := by
  cases hoperation : operation st with
  | mk answer st' =>
    rw [run, outcome_mk_bind hoperation]
    cases answer <;> rfl

theorem outcome_run_eq_ok_iff {σ α : Type} {operation : StateM σ (Except FileError α)} {a : α}
    {st st' : σ} : outcome (run operation) st = (.ok a, st') ↔ operation st = (.ok a, st') := by
  rw [outcome_run]
  constructor
  · intro h
    split at h
    · rename_i hoperation
      rw [hoperation]
      cases h
      rfl
    · cases h
  · intro h
    rw [h]

theorem outcome_run_eq_error {α : Type} {operation : StateM FileTree (Except FileError α)}
    {e : StoreError} (h : outcome (run operation) t = (.error e, t')) :
    ∃ e', operation t = (.error e', t') := by
  rw [outcome_run] at h
  split at h
  · cases h
  · rename_i hoperation
    rw [hoperation]
    cases h
    exact ⟨_, rfl⟩

/-- A file is replaced when a new one could be made and moved to its place. -/
theorem outcome_replaceFile_eq_ok_iff {path target : FilePath} {content : ByteArray} :
    outcome (replaceFile path target content) t = (.ok (), t'') ↔
      ∃ new t', t.newFile path content = .ok (new, t') ∧ t'.rename new target = .ok t'' := by
  rw [replaceFile, outcome_bind_eq_ok_iff]
  refine exists_congr fun new => exists_congr fun t' => ?_
  have hnew : FileAccess.newFile (m := StateM FileTree) path content t = (.ok new, t')
      ↔ t.newFile path content = .ok (new, t') := FileTree.update_eq_ok_iff
  have hrename : FileAccess.rename (m := StateM FileTree) new target t' = (.ok (), t'')
      ↔ t'.rename new target = .ok t'' := FileTree.update_map_eq_ok_iff
  rw [outcome_run_eq_ok_iff, hnew, outcome_bind_eq_ok_iff, ← hrename]
  refine and_congr_right fun _ => ?_
  constructor
  · rintro ⟨answer, t₁, hmoved, hrest⟩
    rw [outcome_liftM] at hmoved
    obtain ⟨hanswer, hstate⟩ := Prod.mk.inj hmoved
    cases answer with
    | error e => cases hrest
    | ok done =>
      cases hrest
      exact Prod.ext (Except.ok.inj hanswer) hstate
  · intro hmoved
    refine ⟨.ok (), t'', ?_, rfl⟩
    rw [outcome_liftM, hmoved]

/-- The bytes of the written form of a document. -/
def written (document : Document) : ByteArray :=
  (FrontMatter.encodeDocument document).toUTF8

/-- A text is read back from its bytes. -/
theorem fromUTF8?_toUTF8 (s : String) : String.fromUTF8? s.toUTF8 = some s :=
  FileName.text?_ofText s

/-- What is written is read back as text. -/
theorem fromUTF8?_written (document : Document) :
    String.fromUTF8? (written document) = some (FrontMatter.encodeDocument document) :=
  fromUTF8?_toUTF8 _

/-- A save without an id reads the new id first, and then is a save with it. -/
theorem save_none (d : Directory) (document : Document) :
    d.save (m := StateM FileTree) none document
      = d.newId >>= fun id => d.save (some id) document := by
  simp only [save, pure_bind]

/-- To save under an id is to make the directory and to replace one file in it. -/
theorem outcome_save_eq_ok_iff {document : Document} {e : Entry} :
    outcome (d.save (some id) document) t = (.ok e, t'') ↔ e = ⟨id, document.recoded⟩ ∧
      ∃ t', FileAccess.makeDirectories (m := StateM FileTree) d.path t = (.ok (), t')
        ∧ outcome (replaceFile d.path (d.entryPath id) (written document)) t' = (.ok (), t'') := by
  simp only [save, pure_bind]
  rw [outcome_bind_eq_ok_iff]
  constructor
  · rintro ⟨_, t', hmake, hrest⟩
    obtain ⟨_, t₁, hreplace, hpure⟩ := outcome_bind_eq_ok_iff.mp hrest
    obtain ⟨he, rfl⟩ := Prod.mk.inj hpure
    cases he
    exact ⟨rfl, t', outcome_run_eq_ok_iff.mp hmake, hreplace⟩
  · rintro ⟨rfl, t', hmake, hreplace⟩
    refine ⟨(), t', outcome_run_eq_ok_iff.mpr hmake, outcome_bind_eq_ok_iff.mpr ?_⟩
    exact ⟨(), t'', hreplace, rfl⟩

/-- **What a successful call does**, whatever the tree was. -/
theorem exists_replaced_of_outcome_save {document : Document} {e : Entry}
    (h : outcome (d.save (some id) document) t = (.ok e, t'')) :
    e = ⟨id, document.recoded⟩ ∧ ∃ t' dir temporary,
      FileAccess.makeDirectories (m := StateM FileTree) d.path t = (.ok (), t')
      ∧ t'.at? d.path = .ok (dir, .directory)
      ∧ temporary ∉ t'.children dir
      ∧ t'.find? (dir ++ [entryName id]) ≠ some .directory
      ∧ t'' = t'.replaced dir temporary (entryName id) (written document)
      ∧ t''.at? (d.entryPath id) = .ok (dir ++ [entryName id], .file (written document)) := by
  obtain ⟨he, t', hmake, hreplace⟩ := outcome_save_eq_ok_iff.mp h
  refine ⟨he, t', ?_⟩
  obtain ⟨new, t₁, hnew, hrename⟩ := outcome_replaceFile_eq_ok_iff.mp hreplace
  obtain ⟨dir, temporary, hdir, hname, -, hfree, rfl, rfl⟩ := FileTree.newFile_eq_ok hnew
  rw [d.child_path, d.entryPath_eq] at hrename
  obtain ⟨hthere, ht''⟩ :=
    FileTree.rename_eq_ok hdir hname.toIsPlain hfree (isPlain_fileName id) hrename
  have hat :=
    FileTree.at?_of_rename_eq_ok hdir hname.toIsPlain hfree (isPlain_fileName id) hrename
  rw [← d.entryPath_eq] at hat
  exact ⟨dir, FileName.ofText temporary, hmake, hdir, hfree, hthere, ht'', hat⟩

/-- To replace the file of one entry leaves those of the others where they stand. -/
theorem at?_entryPath_replaced {temporary : FileName} {content : ByteArray} {id' : EntryId}
    (hdir : t.at? d.path = .ok (dir, .directory)) (hfree : temporary ∉ t.children dir)
    (hthere : t.find? (dir ++ [entryName id]) ≠ some .directory) (hne : id' ≠ id) :
    (t.replaced dir temporary (entryName id) content).at? (d.entryPath id')
      = t.at? (d.entryPath id') := by
  have hkeep := @FileTree.keeps_replaced t dir temporary (entryName id) content hfree hthere
  have hapart : dir ++ [entryName id'] ≠ dir ++ [entryName id] := fun heq =>
    hne (entryName_injective (List.cons.inj (List.append_cancel_left heq)).1)
  rw [d.entryPath_eq]
  have hdir' := FileTree.at?_of_keeps hkeep hdir
  refine FileTree.at?_concat_congr d.path_ne_nil (isPlain_fileName id') (hdir'.trans hdir.symm) ?_
  intro dir' hthere'
  rw [hdir'] at hthere'
  cases hthere'
  exact (FileTree.find?_replaced hfree (entryName id) content _).trans (if_neg hapart)

/-- A temporary name does not make the path longer than the longest name of an entry does. -/
theorem isTooLong_temporary (hfit : ∀ id, FileTree.isTooLong (d.entryPath id) = false) :
    FileTree.isTooLong (d.path ++ [FilePath.temporaryName 0]) = false := by
  have hlast := hfit EntryId.last
  rw [d.entryPath_eq] at hlast
  rw [FileTree.isTooLong, decide_eq_false_iff_not, FileTree.utf8ByteSize_text_concat d.path_ne_nil]
    at hlast ⊢
  have hshort : (FilePath.temporaryName 0).utf8ByteSize ≤ (fileName EntryId.last).utf8ByteSize := by
    decide
  omega

/-- **A call that succeeds**: the directory is there once it was made, and nothing stands in the
    way in it. -/
theorem outcome_save_of_free {document : Document}
    (hmake : FileAccess.makeDirectories (m := StateM FileTree) d.path t = (.ok (), t'))
    (hdir : t'.at? d.path = .ok (dir, .directory))
    (hfit : ∀ id, FileTree.isTooLong (d.entryPath id) = false)
    (hfree : FileName.ofText (FilePath.temporaryName 0) ∉ t'.children dir)
    (hthere : t'.find? (dir ++ [entryName id]) ≠ some .directory) :
    outcome (d.save (some id) document) t = (.ok ⟨id, document.recoded⟩,
      t'.replaced dir (FileName.ofText (FilePath.temporaryName 0)) (entryName id)
        (written document)) := by
  rw [outcome_save_eq_ok_iff]
  refine ⟨rfl, t', hmake, outcome_replaceFile_eq_ok_iff.mpr
    ⟨_, _, FileTree.newFile_of_free hdir hfree ?_, ?_⟩⟩
  · rw [d.child_path]
    exact isTooLong_temporary hfit
  · have hfit' := hfit id
    rw [d.entryPath_eq] at hfit' ⊢
    rw [d.child_path]
    exact FileTree.rename_of_free hdir FileTree.isFileName_temporaryName_zero
      (isTooLong_temporary hfit) hfree (isFileName_fileName id) hfit' hthere

/-! ## Deleting -/

theorem outcome_delete_of_file {content : ByteArray}
    (h : t.at? (d.entryPath id) = .ok (l, .file content)) :
    outcome (d.delete id) t = (.ok true, t.drop l) := by
  have hrun : FileAccess.remove (m := StateM FileTree) (d.entryPath id) t = (.ok (), t.drop l) :=
    FileTree.update_map_eq_ok_iff.mpr (FileTree.remove_of_file h)
  rw [delete, outcome_mk_bind hrun]
  rfl

theorem outcome_delete_of_missing (h : t.at? (d.entryPath id) = .error .notFound) :
    outcome (d.delete id) t = (.ok false, t) := by
  have hrun : FileAccess.remove (m := StateM FileTree) (d.entryPath id) t = (.error .notFound, t) :=
    FileTree.update_of_error (FileTree.remove_of_error h)
  rw [delete, outcome_mk_bind hrun]
  rfl

end Directory

end Redline
