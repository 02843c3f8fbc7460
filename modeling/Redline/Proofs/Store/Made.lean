/-
  Directories that were made — a store before and after its directory was made.

  To save, a store makes its directory, and then the save may fail all the same.  What is left is the
  directory, with nothing in it, and the store cannot tell it from the one that was missing: nothing
  is found, nothing is listed, and to save makes it, or finds it made.

  1. **Missing and empty** — each call answers alike in both trees, and to save leaves one tree for
     both (`answersAlike_made`).
  2. **Saves that fail** — where the directory was there, or its path does not go up, such a save
     does no more than to make the directory (`made_of_save_error`).  Where it does go up, behind a
     directory that was missing too, there may be entries in what comes to light.
-/
import Redline.Proofs.Store.Atomic
import Redline.Proofs.Store.Closed

namespace Redline

/-- Where nothing stands at any name there are no names. -/
theorem FileTree.children_eq_nil {t : FileTree} {dir : Location}
    (h : ∀ name, t.find? (dir ++ [name]) = none) : t.children dir = [] := by
  refine List.eq_nil_iff_forall_not_mem.mpr fun name hname => ?_
  rw [mem_children_iff, h name] at hname
  cases hname

namespace Directory

open FileTree (Founded)

variable {d : Directory} {t t' t'' : FileTree} {dir : Location} {id : EntryId}
  {document : Document}

/-! ## Missing and empty -/

section Founded

variable (h : Founded d.path dir t t')
include h

/-- No entry is found in either tree: there is no directory, or an empty one. -/
theorem at?_entryPath_of_founded (id : EntryId) :
    t.at? (d.entryPath id) = t'.at? (d.entryPath id) :=
  at?_entryPath_of_made h.missing h.there (h.empty _)

/-- An empty directory has no ids, as a missing one has none. -/
theorem outcome_ids_of_founded : outcome d.ids t' = (.ok [], t') := by
  rw [outcome_ids_of_directory h.there, FileTree.children_eq_nil h.empty]
  simp [idsOfNames]

/-- So both listings are empty. -/
theorem answer_list_of_founded : (outcome d.list t).1 = (outcome d.list t').1 :=
  answer_list_congr (outcome_ids_of_missing h.missing) (outcome_ids_of_founded h) fun id =>
    answer_fetch_congr (at?_entryPath_of_founded h id)

/-- Nothing is deleted where there is nothing. -/
theorem outcome_delete_of_founded (id : EntryId) :
    ∃ answer, outcome (d.delete id) t = (answer, t) ∧ outcome (d.delete id) t' = (answer, t') := by
  have hclosed : d.Closed t := fun l hat => by
    rw [h.missing] at hat
    cases hat
  obtain ⟨e, hat⟩ := hclosed.exists_error (d.owns_entryPath id)
  have hrun : ∀ {t : FileTree}, t.at? (d.entryPath id) = .error e →
      FileAccess.remove (m := StateM FileTree) (d.entryPath id) t = (.error e, t) := fun hat =>
    FileTree.update_of_error (by rw [FileTree.remove_of_error hat])
  have hat' : t'.at? (d.entryPath id) = .error e := at?_entryPath_of_founded h id ▸ hat
  rw [delete, outcome_mk_bind (hrun hat), outcome_mk_bind (hrun hat')]
  cases e <;> exact ⟨_, rfl, rfl⟩

/-- A save makes the directory, or finds it made; the rest is the same. -/
theorem outcome_save_of_founded (id? : Option EntryId) (document : Document) :
    outcome (d.save id? document) t = outcome (d.save id? document) t' := by
  have hsave : ∀ id, outcome (d.save (some id) document) t
      = outcome (d.save (some id) document) t' := by
    intro id
    have hmake : outcome (run (FileAccess.makeDirectories (m := StateM FileTree) d.path)) t
        = (.ok (), t') := outcome_run_eq_ok_iff.mpr h.made
    have hmade : outcome (run (FileAccess.makeDirectories (m := StateM FileTree) d.path)) t'
        = (.ok (), t') :=
      outcome_run_eq_ok_iff.mpr (FileTree.makeDirectories_of_directory h.there)
    simp only [save, pure_bind]
    rw [outcome_bind_of_ok hmake, outcome_bind_of_ok hmade]
  cases id? with
  | some id => exact hsave id
  | none =>
    have hnew : ∀ {t : FileTree}, outcome d.ids t = (.ok [], t) →
        outcome d.newId t = (.ok EntryId.first, t) := fun hids => by
      rw [newId, outcome_bind_of_ok hids]
      rfl
    rw [save_none, outcome_bind_of_ok (hnew (outcome_ids_of_missing h.missing)),
      outcome_bind_of_ok (hnew (outcome_ids_of_founded h)), hsave]

end Founded

/-- The two trees are one, or the directory of `d` is missing in the first and was made in the
    second. -/
structure Made (d : Directory) (t t' : FileTree) : Prop where
  rooted : t'.Rooted
  same : t = t' ∨ ∃ dir, Founded d.path dir t t'

theorem made_refl (d : Directory) (h : t.Rooted) : d.Made t t :=
  ⟨h, .inl rfl⟩

/-- Once made, a directory is not missing again, so the two steps are one. -/
theorem Made.trans (h : d.Made t t') (h' : d.Made t' t'') : d.Made t t'' := by
  refine ⟨h'.rooted, ?_⟩
  rcases h.same with rfl | ⟨dir, hfounded⟩
  · exact h'.same
  · rcases h'.same with rfl | ⟨dir', hfounded'⟩
    · exact .inr ⟨dir, hfounded⟩
    · -- What was made is not missing.
      have hmissing := hfounded'.missing
      rw [hfounded.there] at hmissing
      cases hmissing

/-- A save does not tell them apart, and leaves one tree. -/
theorem Made.save_eq (h : d.Made t t') (id? : Option EntryId) (document : Document) :
    outcome (d.save id? document) t = outcome (d.save id? document) t' := by
  rcases h.same with rfl | ⟨dir, hfounded⟩
  · rfl
  · exact outcome_save_of_founded hfounded id? document

/-- A call that answers alike before and after the directory was made, and leaves one tree for both or
    both trees as they were. -/
theorem related_made {α : Type} {call : ExceptT StoreError (StateM FileTree) α}
    (hrooted : Preserves FileTree.Rooted call.run)
    (hcall : ∀ {t t' dir}, Founded d.path dir t t' →
      (outcome call t).1 = (outcome call t').1 ∧ ((outcome call t).2 = (outcome call t').2
        ∨ (outcome call t).2 = t ∧ (outcome call t').2 = t')) :
    Related d.Made call.run call.run := by
  intro t t' h
  have hafter : (outcome call t').2.Rooted := hrooted t' h.rooted
  show (outcome call t).1 = (outcome call t').1 ∧ d.Made (outcome call t).2 (outcome call t').2
  rcases h.same with rfl | ⟨dir, hfounded⟩
  · exact ⟨rfl, d.made_refl hafter⟩
  · obtain ⟨hanswer, hstate⟩ := hcall hfounded
    refine ⟨hanswer, hafter, ?_⟩
    rcases hstate with hstate | ⟨hstate, hstate'⟩
    · exact .inl hstate
    · rw [hstate, hstate']
      exact .inr ⟨dir, hfounded⟩

/-- **A store does not see** whether its directory is missing or was made. -/
theorem answersAlike_made (d : Directory) :
    DocumentStore.AnswersAlike d.Made (d.store (m := StateM FileTree)) d.store where
  fetch id := related_made (d.preserves_fetch id) fun {t t'} _ h =>
    ⟨answer_fetch_congr (at?_entryPath_of_founded h id), .inr
      ⟨congrArg Prod.snd (outcome_fetch d id t), congrArg Prod.snd (outcome_fetch d id t')⟩⟩
  save id? document := related_made
    (preserves_of_bind_pure (d.preserves_call FileTree.invariant_rooted (.save id? document)))
    fun h => by
      have hsave := outcome_save_of_founded h id? document
      exact ⟨congrArg Prod.fst hsave, .inl (congrArg Prod.snd hsave)⟩
  list := related_made d.preserves_list fun {t t'} _ h => by
    have hstate : ∀ t, (outcome d.list t).2 = t := fun t =>
      d.preserves_list (P := fun t' => t' = t) t rfl
    exact ⟨answer_list_of_founded h, .inr ⟨hstate t, hstate t'⟩⟩
  delete id := related_made
    (preserves_of_bind_pure (d.preserves_call FileTree.invariant_rooted (.delete id)))
    fun h => by
      obtain ⟨answer, hrun, hrun'⟩ := outcome_delete_of_founded h id
      show (outcome (d.delete id) _).1 = (outcome (d.delete id) _).1 ∧ _
      rw [hrun, hrun']
      exact ⟨rfl, .inr ⟨congrArg Prod.snd hrun, congrArg Prod.snd hrun'⟩⟩

/-! ## Saves that fail -/

/-- There can be a directory at the path of `d`. -/
structure Usable (d : Directory) : Prop where
  accepted : FileTree.Accepted d.path
  short : ∀ name ∈ d.path, name.utf8ByteSize ≤ FileTree.maxNameSize

/-- Where the directory is there, its path has been accepted. -/
theorem usable_of_directory (h : t.at? d.path = .ok (dir, .directory)) : d.Usable := by
  have hloc := (FileTree.at?_eq_ok_iff.mp h).1
  have hacc := FileTree.accepted_of_locate hloc
  rw [FileTree.locate_of_accepted hacc] at hloc
  exact ⟨hacc, FileTree.short_of_follow hloc⟩

/-- To make the directory brings nothing to light: it is there, or its path does not go up. -/
def IsSheltered (d : Directory) (t : FileTree) : Prop :=
  (∃ dir, t.at? d.path = .ok (dir, .directory)) ∨ ".." ∉ d.path

/-- Where the directory is not missing it is there, or it cannot be made. -/
theorem isSettled_of_at? (h : t.at? d.path ≠ .error .notFound) : d.IsSettled t := by
  rw [IsSettled, FileTree.makeDirectories_of_at? h]

/-- **A save that fails** does no more than to make the directory. -/
theorem made_of_save_error {error : StoreError} {id? : Option EntryId} (husable : d.Usable)
    (hrooted : t.Rooted) (hsheltered : d.IsSheltered t)
    (h : outcome (d.store.save id? document) t = (.error error, t')) : d.Made t t' := by
  have hrooted' : (outcome (d.store.save id? document) t).2.Rooted :=
    preserves_of_bind_pure (d.preserves_call FileTree.invariant_rooted (.save id? document)) t
      hrooted
  rw [h] at hrooted'
  refine ⟨hrooted', ?_⟩
  by_cases hmissing : t.at? d.path = .error .notFound
  · have hdots : ".." ∉ d.path := by
      refine hsheltered.resolve_left ?_
      rintro ⟨dir, hdir⟩
      rw [hmissing] at hdir
      cases hdir
    obtain ⟨dir, t₁, hfounded⟩ :=
      FileTree.exists_founded hrooted husable.accepted hdots husable.short hmissing
    -- What fails where the directory was made leaves that tree.
    change outcome (d.save id? document) t = _ at h
    rw [outcome_save_of_founded hfounded] at h
    rw [state_of_store_save_error (isSettled_of_directory hfounded.there) h]
    exact .inr ⟨dir, hfounded⟩
  · exact .inl (state_of_store_save_error (isSettled_of_at? hmissing) h).symm

end Directory

end Redline
