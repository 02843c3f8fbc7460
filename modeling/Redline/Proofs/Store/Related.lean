/-
  Runs side by side — what a store answers alike in two states.

  Two steps are related by `R` if they answer alike in states that stand in `R`, and leave states
  that stand in `R` again.  The states need not be of one type: a step may also be compared with
  what it is over another access to files.

  1. **Steps** — steps that are related stay so one after the other, whether they are steps or calls
     that may fail.
  2. **Trees** — an operation on a tree is related to itself if it fails alike in both trees, or
     changes both of them.
  3. **Files** — a store in a directory looks at the directory, makes it, and has to do with two
     kinds of files in it: those of entries and temporary ones (`Owns`).
  4. **Calls** — if what a store does to these is related, so is every call of it (`Agrees.call`);
     and stores that answer their four operations alike answer alike whatever they are asked
     (`AnswersAlike.call`).
-/
import Redline.Proofs.Store.Directory

namespace Redline

/-! ## Steps -/

section Steps

variable {σ τ α β ε : Type} {R : σ → τ → Prop}

/-- In states that stand in `R` both steps answer alike, and they leave such states. -/
def Related (R : σ → τ → Prop) (step : StateM σ α) (step' : StateM τ α) : Prop :=
  ∀ st st', R st st' → (step st).1 = (step' st').1 ∧ R (step st).2 (step' st').2

theorem Related.pure (a : α) : Related R (Pure.pure a : StateM σ α) (Pure.pure a : StateM τ α) :=
  fun _ _ h => ⟨rfl, h⟩

/-- Two steps, one after the other; what follows is related for every answer. -/
theorem Related.bind {step : StateM σ α} {step' : StateM τ α} {next : α → StateM σ β}
    {next' : α → StateM τ β} (hstep : Related R step step')
    (hnext : ∀ a, Related R (next a) (next' a)) : Related R (step >>= next) (step' >>= next') := by
  intro st st' h
  obtain ⟨hanswer, hst⟩ := hstep st st' h
  have hrest := hnext (step st).1 _ _ hst
  show (next (step st).1 (step st).2).1 = (next' (step' st').1 (step' st').2).1
    ∧ R (next (step st).1 (step st).2).2 (next' (step' st').1 (step' st').2).2
  rw [← hanswer]
  exact hrest

/-- Two calls that may fail, one after the other; the second has to be related only for what the
    first can answer. -/
theorem Related.bind_run {call : ExceptT ε (StateM σ) α} {call' : ExceptT ε (StateM τ) α}
    {next : α → ExceptT ε (StateM σ) β} {next' : α → ExceptT ε (StateM τ) β}
    (hcall : Related R call.run call'.run)
    (hnext : ∀ a st, (call.run st).1 = .ok a → Related R (next a).run (next' a).run) :
    Related R (call >>= next).run (call' >>= next').run := by
  intro st st' h
  obtain ⟨hanswer, hst⟩ := hcall st st' h
  show ((ExceptT.bindCont next (call.run st).1 : StateM σ _) (call.run st).2).1
      = ((ExceptT.bindCont next' (call'.run st').1 : StateM τ _) (call'.run st').2).1
    ∧ R ((ExceptT.bindCont next (call.run st).1 : StateM σ _) (call.run st).2).2
      ((ExceptT.bindCont next' (call'.run st').1 : StateM τ _) (call'.run st').2).2
  rw [← hanswer]
  cases hrun : (call.run st).1 with
  | ok a => exact hnext a st hrun _ _ hst
  | error e => exact ⟨rfl, hst⟩

/-- A step of the state alone, as a call. -/
theorem Related.liftM {step : StateM σ α} {step' : StateM τ α} (h : Related R step step') :
    Related R (liftM step : ExceptT ε (StateM σ) α).run (liftM step' : ExceptT ε (StateM τ) α).run :=
  .bind h fun _ => .pure _

/-- A call with failures of its own. -/
theorem Related.adapt {ε' : Type} {call : ExceptT ε (StateM σ) α} {call' : ExceptT ε (StateM τ) α}
    (h : Related R call.run call'.run) (f : ε → ε') :
    Related R (call.adapt f).run (call'.adapt f).run :=
  fun st st' hR => (h st st' hR).imp_left (congrArg (Except.mapError f))

/-- Steps that are related to one step in between. -/
theorem Related.comp {υ : Type} {S : τ → υ → Prop} {step : StateM σ α} {step' : StateM τ α}
    {step'' : StateM υ α} (h : Related R step step') (h' : Related S step' step'') :
    Related (Relation.Comp R S) step step'' := by
  rintro st st'' ⟨st', hR, hS⟩
  obtain ⟨hanswer, hst⟩ := h st st' hR
  obtain ⟨hanswer', hst'⟩ := h' st' st'' hS
  exact ⟨hanswer.trans hanswer', _, hst, hst'⟩

/-- The two sides may change places. -/
theorem Related.flip {step : StateM σ α} {step' : StateM τ α} (h : Related R step step') :
    Related (flip R) step' step := by
  intro st' st hR
  obtain ⟨hanswer, hst⟩ := h st st' hR
  exact ⟨hanswer.symm, hst⟩

/-- Directories are made alike where a single one is that is named by a first part of the path. -/
theorem related_makeDirectoriesOf [FileAccess (StateM σ)] [FileAccess (StateM τ)]
    {parts : List String}
    (hmake : ∀ outer, outer <:+ parts →
      Related R (FileAccess.makeDirectory outer.reverse : StateM σ _)
        (FileAccess.makeDirectory outer.reverse : StateM τ _))
    (hlook : ∀ path, Related R (FileAccess.isDirectory path : StateM σ _)
      (FileAccess.isDirectory path : StateM τ _)) :
    Related R (FileAccess.makeDirectoriesOf parts : StateM σ _)
      (FileAccess.makeDirectoriesOf parts : StateM τ _) := by
  have haccept : ∀ path e, Related R (FileAccess.acceptDirectory path e : StateM σ _)
      (FileAccess.acceptDirectory path e : StateM τ _) := by
    intro path e
    refine .bind (hlook path) fun there => ?_
    split <;> exact .pure _
  induction parts with
  | nil => exact .pure _
  | cons part outer ih =>
    have hone := hmake (part :: outer) List.suffix_rfl
    have hmade := ih fun inner hinner => hmake inner (hinner.trans (List.suffix_cons part outer))
    rw [FileAccess.makeDirectoriesOf, FileAccess.makeDirectoriesOf]
    refine .bind hone fun made => ?_
    split
    · exact .pure _
    · refine .bind hmade fun around => ?_
      split
      · exact .pure _
      · refine .bind hone fun madeThen => ?_
        split
        · exact .pure _
        · exact haccept _ _
    · exact haccept _ _

end Steps

/-! ## Trees -/

namespace FileTree

variable {R : FileTree → FileTree → Prop} {α : Type}

/-- An operation that fails alike in both trees, or changes both of them. -/
theorem related_update {operation : FileTree → Except FileError (α × FileTree)}
    (h : ∀ t t', R t t' → (∃ e, operation t = .error e ∧ operation t' = .error e)
      ∨ ∃ a u u', operation t = .ok (a, u) ∧ operation t' = .ok (a, u') ∧ R u u') :
    Related R (update operation) (update operation) := by
  intro t t' ht
  rw [update, update]
  rcases h t t' ht with ⟨e, hrun, hrun'⟩ | ⟨a, u, u', hrun, hrun', hu⟩
  · rw [hrun, hrun']
    exact ⟨rfl, ht⟩
  · rw [hrun, hrun']
    exact ⟨rfl, hu⟩

/-- An operation that is refused alike, where the trees are not one and the same. -/
theorem related_update_of_refused {operation : FileTree → Except FileError (α × FileTree)}
    (hrefl : ∀ t, R t t) (h : ∀ t t', R t t' → t = t'
      ∨ ∃ e, operation t = .error e ∧ operation t' = .error e) :
    Related R (update operation) (update operation) := by
  intro t t' ht
  rcases h t t' ht with rfl | ⟨e, hrun, hrun'⟩
  · exact ⟨rfl, hrefl _⟩
  · rw [update, update, hrun, hrun']
    exact ⟨rfl, ht⟩

theorem related_update_map {operation : FileTree → Except FileError FileTree}
    (h : ∀ t t', R t t' → (∃ e, operation t = .error e ∧ operation t' = .error e)
      ∨ ∃ u u', operation t = .ok u ∧ operation t' = .ok u' ∧ R u u') :
    Related R (update fun t => (operation t).map ((), ·))
      (update fun t => (operation t).map ((), ·)) := by
  refine related_update fun t t' ht => ?_
  rcases h t t' ht with ⟨e, hrun, hrun'⟩ | ⟨u, u', hrun, hrun', hu⟩
  · exact .inl ⟨e, by rw [hrun]; rfl, by rw [hrun']; rfl⟩
  · exact .inr ⟨(), u, u', by rw [hrun]; rfl, by rw [hrun']; rfl, hu⟩

end FileTree

/-! ## Files -/

namespace Directory

variable (d : Directory)

/-- The path of a file that the store in `d` may work on: that of an entry, or a temporary one. -/
def Owns (path : FilePath) : Prop :=
  (∃ id, path = d.entryPath id) ∨ ∃ n, path = d.path.child (FilePath.temporaryName n)

/-- The file of an entry. -/
theorem owns_entryPath (id : EntryId) : d.Owns (d.entryPath id) :=
  .inl ⟨id, rfl⟩

/-- A temporary file. -/
theorem owns_temporary (n : Nat) : d.Owns (d.path.child (FilePath.temporaryName n)) :=
  .inr ⟨n, rfl⟩

/-- It lies directly in the directory. -/
theorem Owns.eq_concat {d : Directory} {path : FilePath} (h : d.Owns path) :
    ∃ name, FileTree.IsPlain name ∧ path = d.path ++ [name] := by
  rcases h with ⟨id, rfl⟩ | ⟨n, rfl⟩
  · exact ⟨_, isPlain_fileName id, d.entryPath_eq id⟩
  · exact ⟨_, FileTree.isPlain_temporaryName n, d.child_path _⟩

/-- What the store in `d` does to files is related. -/
structure Agrees {σ τ : Type} [FileAccess (StateM σ)] [FileAccess (StateM τ)] (R : σ → τ → Prop) :
    Prop where
  read : ∀ {path}, d.Owns path →
    Related R (FileAccess.read path : StateM σ _) (FileAccess.read path : StateM τ _)
  names : Related R (FileAccess.names d.path : StateM σ _) (FileAccess.names d.path : StateM τ _)
  makeDirectories : Related R (FileAccess.makeDirectories d.path : StateM σ _)
    (FileAccess.makeDirectories d.path : StateM τ _)
  newFile : ∀ content, Related R (FileAccess.newFile d.path content : StateM σ _)
    (FileAccess.newFile d.path content : StateM τ _)
  owns_newFile : ∀ {content new} {st : σ},
    (FileAccess.newFile (m := StateM σ) d.path content st).1 = .ok new → d.Owns new
  rename : ∀ {source target}, d.Owns source → d.Owns target →
    Related R (FileAccess.rename source target : StateM σ _)
      (FileAccess.rename source target : StateM τ _)
  remove : ∀ {path}, d.Owns path →
    Related R (FileAccess.remove path : StateM σ _) (FileAccess.remove path : StateM τ _)

end Directory

/-! ## Calls -/

/-- Both stores answer alike in states that stand in `R`, and leave such states. -/
structure DocumentStore.AnswersAlike {σ τ : Type} (R : σ → τ → Prop)
    (store : DocumentStore (StateM σ)) (store' : DocumentStore (StateM τ)) : Prop where
  fetch : ∀ id, Related R (store.fetch id).run (store'.fetch id).run
  save : ∀ id? document, Related R (store.save id? document).run (store'.save id? document).run
  list : Related R store.list.run store'.list.run
  delete : ∀ id, Related R (store.delete id).run (store'.delete id).run

/-- **All that a store can be asked** is made of its four operations. -/
theorem DocumentStore.AnswersAlike.call {σ τ : Type} {R : σ → τ → Prop}
    {store : DocumentStore (StateM σ)} {store' : DocumentStore (StateM τ)}
    (h : AnswersAlike R store store') (op : Operation) :
    Related R (op.call store).run (op.call store').run := by
  cases op with
  | fetch id => exact .bind_run (h.fetch id) fun _ _ _ => .pure _
  | save id? document => exact .bind_run (h.save id? document) fun _ _ _ => .pure _
  | list => exact .bind_run h.list fun _ _ _ => .pure _
  | delete id => exact .bind_run (h.delete id) fun _ _ _ => .pure _
  | tagCounts =>
    exact .bind_run (.bind_run h.list fun _ _ _ => .pure _) fun _ _ _ => .pure _
  | categoryPaths =>
    exact .bind_run (.bind_run h.list fun _ _ _ => .pure _) fun _ _ _ => .pure _

namespace Directory

section Calls

variable {σ τ : Type} {R : σ → τ → Prop}

/-- A failure of an operation on files becomes a failure of the store on both sides. -/
theorem related_run {α : Type} {operation : StateM σ (Except FileError α)}
    {operation' : StateM τ (Except FileError α)} (h : Related R operation operation') :
    Related R (run operation).run (run operation').run := by
  refine Related.bind h fun answer => ?_
  cases answer <;> exact .pure _

variable [FileAccess (StateM σ)] [FileAccess (StateM τ)] {d : Directory}

namespace Agrees

variable (h : d.Agrees R)
include h

/-- From here on each call follows its own text, one operation on files after another. -/
theorem ids : Related R (d.ids (m := StateM σ)).run (d.ids (m := StateM τ)).run := by
  refine Related.bind h.names fun answer => ?_
  split <;> exact .pure _

theorem fetch (id : EntryId) :
    Related R (d.fetch (m := StateM σ) id).run (d.fetch (m := StateM τ) id).run := by
  refine Related.bind (.bind (h.read (d.owns_entryPath id)) fun answer => ?_) fun text => ?_
  · split <;> exact .pure _
  · split <;> exact .pure _

/-- The entries of a list of ids, from the first to the last. -/
theorem fetchAll (ids : List EntryId) :
    Related R (d.fetchAll (m := StateM σ) ids).run (d.fetchAll (m := StateM τ) ids).run := by
  induction ids with
  | nil => exact .pure _
  | cons id ids ih =>
    refine .bind_run (h.fetch id) fun found _ _ => ?_
    refine .bind_run ih fun others _ _ => ?_
    exact .pure _

theorem list : Related R (d.list (m := StateM σ)).run (d.list (m := StateM τ)).run :=
  .bind_run h.ids fun ids _ _ => h.fetchAll ids

theorem replaceFile (id : EntryId) (content : ByteArray) :
    Related R (Directory.replaceFile (m := StateM σ) d.path (d.entryPath id) content).run
      (Directory.replaceFile (m := StateM τ) d.path (d.entryPath id) content).run := by
  refine .bind_run (related_run (h.newFile content)) fun new st hnew => ?_
  have hmade : outcome (run (FileAccess.newFile d.path content)) st = (.ok new, _) :=
    Prod.ext hnew rfl
  have howns : d.Owns new := h.owns_newFile (congrArg Prod.fst (outcome_run_eq_ok_iff.mp hmade))
  refine .bind_run (.liftM (h.rename howns (d.owns_entryPath id))) fun moved _ _ => ?_
  split
  · exact .pure _
  · refine .bind_run (.liftM (h.remove howns)) fun _ _ _ => ?_
    exact .pure _

/-- The directory, a new file, and its move to the name of the entry. -/
theorem save_some (id : EntryId) (document : Document) :
    Related R (d.save (m := StateM σ) (some id) document).run
      (d.save (m := StateM τ) (some id) document).run := by
  simp only [save, pure_bind]
  refine .bind_run (related_run h.makeDirectories) fun _ _ _ => ?_
  refine .bind_run (h.replaceFile id _) fun _ _ _ => ?_
  exact .pure _

/-- Without an id the ids are read first; as they are the same, so is the new one. -/
theorem save (id? : Option EntryId) (document : Document) :
    Related R (d.save (m := StateM σ) id? document).run
      (d.save (m := StateM τ) id? document).run := by
  cases id? with
  | some id => exact h.save_some id document
  | none =>
    have hnew : ∀ {υ : Type} [FileAccess (StateM υ)], d.save (m := StateM υ) none document
        = d.newId >>= fun id => d.save (some id) document := by
      intro υ _
      simp only [Directory.save, pure_bind]
    rw [hnew, hnew]
    refine .bind_run (.bind_run h.ids fun _ _ _ => .pure _) fun id _ _ => ?_
    exact h.save_some id document

theorem delete (id : EntryId) :
    Related R (d.delete (m := StateM σ) id).run (d.delete (m := StateM τ) id).run := by
  refine Related.bind (h.remove (d.owns_entryPath id)) fun answer => ?_
  split <;> exact .pure _

/-- The four calls together. -/
theorem answersAlike :
    DocumentStore.AnswersAlike R (d.store (m := StateM σ)) (d.store (m := StateM τ)) :=
  ⟨h.fetch, h.save, h.list, h.delete⟩

/-- **Every call of a store** is answered alike if what it does to files is. -/
theorem call (op : Operation) :
    Related R (op.call (d.store (m := StateM σ))).run (op.call (d.store (m := StateM τ))).run :=
  h.answersAlike.call op

end Agrees

end Calls

/-- A new file in a tree has a temporary name. -/
theorem owns_of_newFile {d : Directory} {t : FileTree} {content : ByteArray} {new : FilePath}
    (h : (FileAccess.newFile (m := StateM FileTree) d.path content t).1 = .ok new) :
    d.Owns new := by
  change (FileTree.update (fun t => t.newFile d.path content) t).1 = _ at h
  rw [FileTree.update] at h
  split at h
  · rename_i hnew
    cases h
    obtain ⟨n, rfl⟩ := FileTree.exists_temporaryName_of_newFile hnew
    exact d.owns_temporary n
  · cases h

end Directory

end Redline
