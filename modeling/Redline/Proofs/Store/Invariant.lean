/-
  Invariants of file trees — what stays true of a tree, whatever a store in it is asked.

  A store changes a tree in four ways only: a directory is made, a file is made, a file is moved, a
  file is removed.  What these keep is an invariant.

  1. **Steps** — a step that preserves `P` leaves it true, whether it answers or fails; so do two
     such steps one after the other.  It is a step that is related to itself, with one state instead
     of two (`related_self_iff`).
  2. **Files** — the steps on a tree, and what is put together from them.
  3. **Calls** — a call preserves what is preserved by what it does to files
     (`preserves_call_of_files`), so every call of a store preserves every invariant
     (`preserves_call`).
-/
import Redline.Proofs.Store.Related

namespace Redline

/-! ## Steps -/

section Steps

variable {σ α β ε : Type} {P : σ → Prop}

/-- Whatever the step answers, `P` stays true of the state. -/
def Preserves (P : σ → Prop) (step : StateM σ α) : Prop :=
  ∀ st, P st → P (step st).2

/-- An answer that touches nothing. -/
theorem Preserves.pure (a : α) : Preserves P (Pure.pure a : StateM σ α) :=
  fun _ h => h

/-- Two steps, one after the other. -/
theorem Preserves.bind {step : StateM σ α} {next : α → StateM σ β} (hstep : Preserves P step)
    (hnext : ∀ a, Preserves P (next a)) : Preserves P (step >>= next) :=
  fun st h => hnext _ _ (hstep st h)

/-- Two calls that may fail, one after the other. -/
theorem Preserves.bind_run {call : ExceptT ε (StateM σ) α} {next : α → ExceptT ε (StateM σ) β}
    (hcall : Preserves P call.run) (hnext : ∀ a, Preserves P (next a).run) :
    Preserves P (call >>= next).run := by
  intro st h
  have hst := hcall st h
  show P ((ExceptT.bindCont next (call.run st).1 : StateM σ _) (call.run st).2).2
  cases (call.run st).1 with
  | ok a => exact hnext a _ hst
  | error e => exact hst

/-- A call whose answer is only put into another form. -/
theorem preserves_of_bind_pure {call : ExceptT StoreError (StateM σ) α} {f : α → β}
    (h : Preserves P (call >>= fun a => pure (f a)).run) : Preserves P call.run := by
  intro st hst
  have hafter : P (outcome (call >>= fun a => pure (f a)) st).2 := h st hst
  show P (outcome call st).2
  rw [outcome_bind] at hafter
  generalize outcome call st = done at hafter ⊢
  obtain ⟨answer, st'⟩ := done
  cases answer <;> exact hafter

/-- To preserve `P` is to be related to itself where both states are the same one, with `P`. -/
theorem related_self_iff {step : StateM σ α} :
    Related (fun st st' => st = st' ∧ P st) step step ↔ Preserves P step := by
  constructor
  · intro h st hst
    exact (h st st ⟨rfl, hst⟩).2.2
  · rintro h st _ ⟨rfl, hst⟩
    exact ⟨rfl, rfl, h st hst⟩

end Steps

/-! ## Files -/

namespace FileTree

variable {P : FileTree → Prop}

/-- What is true of a tree and stays true when its files change. -/
structure Invariant (P : FileTree → Prop) : Prop where
  makeDirectory : ∀ {t t' path}, P t → t.makeDirectory path = .ok t' → P t'
  newFile : ∀ {t t' path content new}, P t → t.newFile path content = .ok (new, t') → P t'
  rename : ∀ {t t' source target}, P t → t.rename source target = .ok t' → P t'
  remove : ∀ {t t' path}, P t → t.remove path = .ok t' → P t'

/-- An operation that fails leaves its tree, so only one that succeeds has to be looked at. -/
theorem preserves_update {α : Type} {operation : FileTree → Except FileError (α × FileTree)}
    (h : ∀ {t t' a}, P t → operation t = .ok (a, t') → P t') : Preserves P (update operation) := by
  intro t ht
  rw [update]
  split
  · exact h ht ‹_›
  · exact ht

/-- The same for an operation that answers with its tree only. -/
theorem preserves_update_map {operation : FileTree → Except FileError FileTree}
    (h : ∀ {t t'}, P t → operation t = .ok t' → P t') :
    Preserves P (update fun t => (operation t).map ((), ·)) := by
  refine preserves_update fun {t t' _} ht hrun => ?_
  cases hoperation : operation t with
  | error e => rw [hoperation] at hrun; cases hrun
  | ok t₁ =>
    rw [hoperation] at hrun
    cases hrun
    exact h ht hoperation

/-- To make a directory and those around it is to make one directory after another, each of them
    named by a first part of the path. -/
theorem preserves_makeDirectoriesOf {parts : List String}
    (h : ∀ outer, outer <:+ parts →
      Preserves P (FileAccess.makeDirectory outer.reverse : StateM FileTree _)) :
    Preserves P (FileAccess.makeDirectoriesOf parts : StateM FileTree _) :=
  related_self_iff.mp (related_makeDirectoriesOf
    (fun outer houter => related_self_iff.mpr (h outer houter))
    (fun _ => related_self_iff.mpr fun _ ht => ht))

variable (hP : Invariant P)
include hP

theorem Invariant.preserves_makeDirectory (path : FilePath) :
    Preserves P (FileAccess.makeDirectory path : StateM FileTree _) :=
  preserves_update_map hP.makeDirectory

theorem Invariant.preserves_newFile (path : FilePath) (content : ByteArray) :
    Preserves P (FileAccess.newFile path content : StateM FileTree _) :=
  preserves_update hP.newFile

theorem Invariant.preserves_rename (source target : FilePath) :
    Preserves P (FileAccess.rename source target : StateM FileTree _) :=
  preserves_update_map hP.rename

theorem Invariant.preserves_remove (path : FilePath) :
    Preserves P (FileAccess.remove path : StateM FileTree _) :=
  preserves_update_map hP.remove

/-- A directory and those around it, one after another. -/
theorem Invariant.preserves_makeDirectories (path : FilePath) :
    Preserves P (FileAccess.makeDirectories path : StateM FileTree _) :=
  preserves_makeDirectoriesOf fun _ _ => hP.preserves_makeDirectory _

end FileTree

/-! ## Calls -/

namespace Directory

variable {P : FileTree → Prop} (d : Directory)

/-- To fetch an entry changes nothing. -/
theorem preserves_fetch (id : EntryId) : Preserves P (d.fetch id).run := by
  intro t ht
  have hstate := congrArg Prod.snd (outcome_fetch d id t)
  exact hstate ▸ ht

/-- To read the ids of a directory changes nothing. -/
theorem preserves_ids : Preserves P d.ids.run := by
  refine Preserves.bind (fun _ ht => ht) fun answer => ?_
  split <;> exact .pure _

/-- Nor does it to fetch one entry after another. -/
theorem preserves_fetchAll (ids : List EntryId) : Preserves P (d.fetchAll ids).run := by
  induction ids with
  | nil => exact .pure _
  | cons id ids ih =>
    refine .bind_run (d.preserves_fetch id) fun found => ?_
    refine .bind_run ih fun others => ?_
    exact .pure _

/-- A listing is the ids and then the entries. -/
theorem preserves_list : Preserves P d.list.run :=
  .bind_run d.preserves_ids fun ids => d.preserves_fetchAll ids

/-- What is done to the files of one directory preserves what every call of its store preserves. -/
theorem preserves_call_of_files {d : Directory}
    (hmake : Preserves P (FileAccess.makeDirectories d.path : StateM FileTree _))
    (hnew : ∀ content, Preserves P (FileAccess.newFile d.path content : StateM FileTree _))
    (hrename : ∀ {source target}, d.Owns source → d.Owns target →
      Preserves P (FileAccess.rename source target : StateM FileTree _))
    (hremove : ∀ {path}, d.Owns path →
      Preserves P (FileAccess.remove path : StateM FileTree _)) (op : Operation) :
    Preserves P (op.call d.store).run := by
  have hagrees : d.Agrees fun t t' : FileTree => t = t' ∧ P t := {
    read := fun _ => related_self_iff.mpr fun _ ht => ht
    names := related_self_iff.mpr fun _ ht => ht
    makeDirectories := related_self_iff.mpr hmake
    newFile := fun content => related_self_iff.mpr (hnew content)
    owns_newFile := owns_of_newFile
    rename := fun hsource htarget => related_self_iff.mpr (hrename hsource htarget)
    remove := fun hpath => related_self_iff.mpr (hremove hpath) }
  exact related_self_iff.mp (hagrees.call op)

/-- **Every call of a store** preserves every invariant of its tree. -/
theorem preserves_call (hP : FileTree.Invariant P) (op : Operation) :
    Preserves P (op.call d.store).run :=
  preserves_call_of_files (hP.preserves_makeDirectories _) (hP.preserves_newFile _)
    (fun _ _ => hP.preserves_rename _ _) (fun _ => hP.preserves_remove _) op

end Directory

end Redline
