/-
  Saving is all or nothing — what becomes of the files when a save succeeds, and when it fails.

  A save looks at the directory for an id, makes the directory, writes a new file and moves it to
  its place.  Each of these may be refused, whatever the reason in the tree:

  1. **Before the new file** — looking changes nothing, and making directories changes no file.
  2. **The new file** — where it cannot be made nothing has changed, and where it cannot be moved it
     is removed again (`state_of_replaceFile_error`).
  3. **Success** — the file of the entry, and no other, has the new text (`file?_of_save_ok`).

  So there is no tree in which a save leaves a part of its work behind (`files_of_save`).
-/
import Redline.Proofs.Files.Contents
import Redline.Proofs.Store.Invariant
import Redline.Proofs.Store.Saved

namespace Redline

namespace Directory

open FileTree (SameFiles)

variable {d : Directory} {t t' t'' : FileTree} {id : EntryId} {document : Document} {e : Entry}
  {error : StoreError}

/-! ## Before the new file -/

/-- What is true of a tree is true of it after a new id was looked for. -/
theorem preserves_newId {P : FileTree → Prop} (d : Directory) : Preserves P d.newId.run :=
  .bind_run d.preserves_ids fun _ => .pure _

/-- To look for a new id changes nothing. -/
theorem state_newId (d : Directory) (t : FileTree) : (outcome d.newId t).2 = t :=
  d.preserves_newId (P := fun t' => t' = t) t rfl

/-- To make directories changes no file, even where it fails half-way. -/
theorem sameFiles_makeDirectories {answer : Except FileError Unit} {path : FilePath}
    (h : FileAccess.makeDirectories (m := StateM FileTree) path t = (answer, t')) :
    SameFiles t t' := by
  have hmake : Preserves (SameFiles t) (FileAccess.makeDirectories path : StateM FileTree _) :=
    FileTree.preserves_makeDirectoriesOf fun _ _ => FileTree.preserves_update_map
      fun hfiles hmade => hfiles.trans (FileTree.sameFiles_makeDirectory hmade)
  have hfiles := hmake t (.refl t)
  rwa [h] at hfiles

/-- A save is refused before it has begun, for want of an id, or it is a save under one id. -/
theorem cases_save (d : Directory) (id? : Option EntryId) (document : Document) (t : FileTree) :
    (∃ error, outcome (d.save id? document) t = (.error error, t)) ∨
      ∃ id, (∀ given ∈ id?, id = given)
        ∧ outcome (d.save id? document) t = outcome (d.save (some id) document) t := by
  cases id? with
  | some id => exact .inr ⟨id, fun given hgiven => Option.some.inj hgiven, rfl⟩
  | none =>
    have hstate := d.state_newId t
    rw [save_none, outcome_bind]
    generalize outcome d.newId t = looked at hstate ⊢
    obtain ⟨answer, t'⟩ := looked
    cases hstate
    cases answer with
    | error e => exact .inl ⟨e, rfl⟩
    | ok id => exact .inr ⟨id, fun given hgiven => absurd hgiven (Option.not_mem_none given), rfl⟩

/-- The id of a new entry is the one that was looked for. -/
theorem outcome_newId_of_save (h : outcome (d.save none document) t = (.ok e, t'')) :
    outcome d.newId t = (.ok e.id, t) := by
  rw [save_none, outcome_bind_eq_ok_iff] at h
  obtain ⟨id, t', hnew, hsave⟩ := h
  have hstate := d.state_newId t
  rw [hnew] at hstate
  rw [(outcome_save_eq_ok_iff.mp hsave).1, hnew]
  exact congrArg _ hstate

/-! ## The new file -/

/-- **A file that cannot be replaced** leaves the tree as it was. -/
theorem state_of_replaceFile_error {path target : FilePath} {content : ByteArray}
    (hlast : path.getLast? ≠ some "")
    (h : outcome (replaceFile path target content) t = (.error error, t'')) : t'' = t := by
  rw [replaceFile, outcome_bind_eq_error_iff] at h
  rcases h with h | ⟨new, t', hnew, h⟩
  · -- No new file could be made.
    obtain ⟨e', hrun⟩ := outcome_run_eq_error h
    exact FileTree.update_eq_error hrun
  · rw [outcome_run_eq_ok_iff] at hnew
    replace hnew : t.newFile path content = .ok (new, t') := FileTree.update_eq_ok_iff.mp hnew
    rw [outcome_bind_eq_error_iff] at h
    rcases h with h | ⟨moved, t₁, hmoved, h⟩
    · cases h
    · rw [outcome_liftM] at hmoved
      cases moved with
      | ok done => cases h
      | error e' =>
        -- It could not be moved, so it stands where it was made, and is removed.
        have hrename : FileAccess.rename (m := StateM FileTree) new target t' = (.error e', t₁) :=
          Prod.ext (Except.ok.inj (Prod.mk.inj hmoved).1) (Prod.mk.inj hmoved).2
        rw [FileTree.update_eq_error hrename] at h
        have hrun : FileAccess.remove (m := StateM FileTree) new t' = (.ok (), t) :=
          FileTree.update_map_eq_ok_iff.mpr (FileTree.remove_newFile hlast hnew)
        have hstate := congrArg Prod.snd h
        change (FileAccess.remove (m := StateM FileTree) new t').2 = t'' at hstate
        rw [hrun] at hstate
        exact hstate.symm

/-- **A save that fails** leaves all files as they were. -/
theorem sameFiles_of_save_error
    (h : outcome (d.save (some id) document) t = (.error error, t'')) : SameFiles t t'' := by
  simp only [save, pure_bind] at h
  rw [outcome_bind_eq_error_iff] at h
  rcases h with h | ⟨made, t', hmake, h⟩
  · obtain ⟨e', hmake⟩ := outcome_run_eq_error h
    exact sameFiles_makeDirectories hmake
  · have hfiles := sameFiles_makeDirectories (outcome_run_eq_ok_iff.mp hmake)
    rw [outcome_bind_eq_error_iff] at h
    rcases h with h | ⟨done, t₁, -, h⟩
    · rw [state_of_replaceFile_error d.path_getLast?_ne h]
      exact hfiles
    · -- Nothing is left to fail once the file is replaced.
      cases h

/-- No directory has to be made for a save: the one of the tenant is there, or it cannot be made. -/
def IsSettled (d : Directory) (t : FileTree) : Prop :=
  (FileAccess.makeDirectories (m := StateM FileTree) d.path t).2 = t

theorem isSettled_of_directory {dir : Location} (h : t.at? d.path = .ok (dir, .directory)) :
    d.IsSettled t := by
  rw [IsSettled, FileTree.makeDirectories_of_directory h]

/-- **A save that fails** leaves the tree as it was where no directory had to be made. -/
theorem state_of_save_error (hsettled : d.IsSettled t)
    (h : outcome (d.save (some id) document) t = (.error error, t'')) : t'' = t := by
  simp only [save, pure_bind] at h
  rw [outcome_bind_eq_error_iff] at h
  rcases h with h | ⟨made, t', hmake, h⟩
  · obtain ⟨e', hmake⟩ := outcome_run_eq_error h
    rw [IsSettled, hmake] at hsettled
    exact hsettled
  · rw [IsSettled, outcome_run_eq_ok_iff.mp hmake] at hsettled
    cases hsettled
    rw [outcome_bind_eq_error_iff] at h
    rcases h with h | ⟨done, t₁, -, h⟩
    · exact state_of_replaceFile_error d.path_getLast?_ne h
    · cases h

/-! ## Success -/

/-- **A save that succeeds** changes one file, which has the text of the document then. -/
theorem file?_of_save_ok (h : outcome (d.save (some id) document) t = (.ok e, t'')) :
    ∃ l, t''.at? (d.entryPath id) = .ok (l, .file (written document))
      ∧ ∀ l', l' ≠ l → t''.file? l' = t.file? l' := by
  obtain ⟨-, t', dir, temporary, hmake, -, hfree, -, rfl, hat⟩ := exists_replaced_of_outcome_save h
  refine ⟨dir ++ [entryName id], hat, fun l' hl' => ?_⟩
  rw [FileTree.file?_replaced hfree, if_neg hl']
  exact sameFiles_makeDirectories hmake l'

/-- The same of a save under a new id. -/
theorem sameFiles_of_store_save_error {id? : Option EntryId}
    (h : outcome (d.store.save id? document) t = (.error error, t'')) : SameFiles t t'' := by
  change outcome (d.save id? document) t = _ at h
  rcases d.cases_save id? document t with ⟨error', hrefused⟩ | ⟨id, -, hsave⟩
  · rw [hrefused] at h
    cases h
    exact .refl t
  · rw [hsave] at h
    exact sameFiles_of_save_error h

theorem state_of_store_save_error {id? : Option EntryId} (hsettled : d.IsSettled t)
    (h : outcome (d.store.save id? document) t = (.error error, t'')) : t'' = t := by
  change outcome (d.save id? document) t = _ at h
  rcases d.cases_save id? document t with ⟨error', hrefused⟩ | ⟨id, -, hsave⟩
  · rw [hrefused] at h
    cases h
    rfl
  · rw [hsave] at h
    exact state_of_save_error hsettled h

/-- **A save is all or nothing**, in every tree: where it fails all files are as they were, and no
    temporary file is there; where it succeeds the entry that it answers is found, and of all files
    the one at the path of that entry is written, and no other. -/
theorem files_of_save (d : Directory) (t : FileTree) (id? : Option EntryId) (document : Document) :
    match outcome (d.store.save id? document) t with
    | (.error _, t') => SameFiles t t'
    | (.ok e, t') => (∀ id ∈ id?, e.id = id) ∧ d.store.Holds t' e
        ∧ ∃ l, t'.at? (d.entryPath e.id) = .ok (l, .file (written document))
          ∧ ∀ l', l' ≠ l → t'.file? l' = t.file? l' := by
  show match outcome (d.save id? document) t with
    | (.error _, t') => SameFiles t t'
    | (.ok e, t') => _
  rcases d.cases_save id? document t with ⟨error, hrefused⟩ | ⟨id, hgiven, hsave⟩
  · rw [hrefused]
    exact .refl t
  · rw [hsave]
    cases hrun : outcome (d.save (some id) document) t with
    | mk answer t' =>
      cases answer with
      | error e => exact sameFiles_of_save_error hrun
      | ok e =>
        have hid : e.id = id := by rw [(outcome_save_eq_ok_iff.mp hrun).1]
        obtain ⟨l, hat, hothers⟩ := file?_of_save_ok hrun
        refine ⟨fun given hmem => hid.trans (hgiven given hmem), holds_of_save_some hrun, l, ?_,
          hothers⟩
        rw [hid]
        exact hat

end Directory

end Redline
