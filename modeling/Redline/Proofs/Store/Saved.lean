/-
  Saved entries — what a store answers once it has answered a save.

  1. **Reading** — to look for an entry leaves the state as it is and finds what was looked for
     (`Reads`).
  2. **What is saved is found** — in memory and in a directory, whatever the state was and whether
     the id was given or new (`holds_of_save_ok`).
  3. **Saving over an entry** — the store answers everything as before exactly when the entry that
     was saved is the one that was there (`sameAnswers_save_iff`).  One direction is reading it;
     the other is that no other entry, and not the order of a list, is touched.
-/
import Redline.Proofs.Files.Distinct
import Redline.Proofs.Store.Fresh

namespace Redline

namespace DocumentStore

variable {σ : Type} {store : DocumentStore (StateM σ)} {st st' : σ} {x e : Entry}

/-- To look for an entry changes nothing, and what is found has the id that was looked for. -/
def Reads (store : DocumentStore (StateM σ)) : Prop :=
  ∀ {st st' id e?}, outcome (store.fetch id) st = (.ok e?, st') → st' = st ∧ ∀ e ∈ e?, e.id = id

theorem Reads.holds (h : store.Reads) {id : EntryId}
    (hfetch : outcome (store.fetch id) st = (.ok (some x), st')) :
    st' = st ∧ x.id = id ∧ store.Holds st x := by
  obtain ⟨rfl, hid⟩ := h hfetch
  have hid : x.id = id := hid x rfl
  refine ⟨rfl, hid, ?_⟩
  rw [Holds, hid]
  exact hfetch

/-- In the states `st` and `st'` the store answers alike, for each entry and for all of them. -/
structure SameAnswers (store : DocumentStore (StateM σ)) (st st' : σ) : Prop where
  fetch : ∀ id, (outcome (store.fetch id) st).1 = (outcome (store.fetch id) st').1
  list : (outcome store.list st).1 = (outcome store.list st').1

theorem SameAnswers.refl (store : DocumentStore (StateM σ)) (st : σ) : store.SameAnswers st st :=
  ⟨fun _ => rfl, rfl⟩

/-- Answers that are the same find the same entry under an id. -/
theorem SameAnswers.eq_of_holds (h : store.SameAnswers st st') (hx : store.Holds st x)
    (he : store.Holds st' e) (hid : e.id = x.id) : e = x := by
  have hfetch := h.fetch x.id
  rw [Holds, hid] at he
  rw [hx, he] at hfetch
  exact (Option.some.inj (Except.ok.inj hfetch)).symm

end DocumentStore

/-! ## In memory -/

/-- An entry that is there already takes its own place. -/
theorem insertEntry_of_mem {e : Entry} {es : List Entry} (h : es.Pairwise fun a b => a.id < b.id)
    (hmem : e ∈ es) : insertEntry e es = es := by
  induction es with
  | nil => cases hmem
  | cons first rest ih =>
    obtain ⟨hfirst, hrest⟩ := List.pairwise_cons.mp h
    rw [insertEntry]
    rcases List.mem_cons.mp hmem with rfl | hmem
    · have hnot : ¬ e.id < e.id := Nat.lt_irrefl e.id.number
      rw [if_neg hnot, if_pos rfl]
    · have hlt : first.id < e.id := hfirst e hmem
      have hnot : ¬ e.id < first.id := Nat.lt_asymm hlt
      have hne : e.id ≠ first.id := fun heq => Nat.lt_irrefl _ (heq ▸ hlt)
      rw [if_neg hnot, if_neg hne, ih hrest hmem]

namespace Memory

variable {s s' : Memory} {x e : Entry}

theorem reads : store.Reads := by
  intro s s' id e? h
  rw [outcome_fetch] at h
  cases h
  exact ⟨rfl, fun e he => id_of_get? he⟩

theorem holds_of_save_ok {id? : Option EntryId} {document : Document}
    (h : outcome (store.save id? document) s = (.ok e, s')) :
    store.Holds s' e ∧ e.document = document := by
  rw [outcome_save] at h
  cases h
  exact ⟨holds_iff.mpr (mem_insert_iff.mpr (.inl rfl)), rfl⟩

/-- **Saving over an entry** in memory. -/
theorem sameAnswers_save_iff {document : Document} (hx : store.Holds s x)
    (h : outcome (store.save (some x.id) document) s = (.ok e, s')) :
    store.SameAnswers s s' ↔ e = x := by
  have he := (holds_of_save_ok h).1
  rw [outcome_save] at h
  cases h
  constructor
  · intro hsame
    exact hsame.eq_of_holds hx he rfl
  · intro heq
    have hinsert : s.insert x = s := by
      cases s
      exact (Memory.mk.injEq _ _ _ _).mpr (insertEntry_of_mem ‹_› (holds_iff.mp hx))
    rw [heq, hinsert]
    exact .refl _ _

end Memory

/-! ## In a directory -/

namespace Directory

variable {d : Directory} {t t' : FileTree} {id : EntryId} {x e : Entry} {document : Document}

theorem reads (d : Directory) : (d.store : DocumentStore (StateM FileTree)).Reads := by
  intro t t' id e? h
  change outcome (d.fetch id) t = _ at h
  cases e? with
  | none =>
    rw [outcome_fetch] at h
    exact ⟨(Prod.mk.inj h).2.symm, fun e he => absurd he (Option.not_mem_none e)⟩
  | some x =>
    obtain ⟨rfl, l, content, text, -, -, rfl⟩ := outcome_fetch_eq_some_iff.mp h
    exact ⟨rfl, fun e he => by cases he; rfl⟩

/-- The file of an entry stands where it was moved to. -/
theorem holds_of_save_some (h : outcome (d.save (some id) document) t = (.ok e, t')) :
    d.store.Holds t' e := by
  obtain ⟨rfl, t₁, dir, temporary, -, -, -, -, -, hat⟩ := exists_replaced_of_outcome_save h
  exact outcome_fetch_eq_some_iff.mpr ⟨rfl, _, _, _, hat, fromUTF8?_written _, rfl⟩

theorem holds_of_save_ok {id? : Option EntryId}
    (h : outcome (d.store.save id? document) t = (.ok e, t')) :
    d.store.Holds t' e ∧ e.document = document.recoded := by
  -- With the id that the save chooses, it is a save under a given id.
  change outcome (d.save id? document) t = _ at h
  obtain ⟨id, t₁, hsave⟩ : ∃ id, ∃ t₁ : FileTree,
      outcome (d.save (some id) document) t₁ = (.ok e, t') := by
    cases id? with
    | some id => exact ⟨id, t, h⟩
    | none =>
      rw [save_none, outcome_bind_eq_ok_iff] at h
      obtain ⟨id, t₁, -, hsave⟩ := h
      exact ⟨id, t₁, hsave⟩
  refine ⟨holds_of_save_some hsave, ?_⟩
  rw [(outcome_save_eq_ok_iff.mp hsave).1]

/-- An entry is found alike where the same stands at its path. -/
theorem answer_fetch_congr (h : t.at? (d.entryPath id) = t'.at? (d.entryPath id)) :
    (outcome (d.fetch id) t).1 = (outcome (d.fetch id) t').1 := by
  rw [outcome_fetch, outcome_fetch, FileTree.read, FileTree.read, h]

/-- Entries that are found alike one by one are found alike in a row. -/
theorem answer_fetchAll_congr
    (h : ∀ id, (outcome (d.fetch id) t).1 = (outcome (d.fetch id) t').1) (ids : List EntryId) :
    (outcome (d.fetchAll ids) t).1 = (outcome (d.fetchAll ids) t').1 := by
  induction ids with
  | nil => rfl
  | cons id ids ih =>
    refine answer_bind_congr (h id) fun found st st' hst hst' => ?_
    -- Looking for an entry has left both trees as they were.
    obtain ⟨rfl, -⟩ := d.reads hst
    obtain ⟨rfl, -⟩ := d.reads hst'
    refine answer_bind_congr ih fun others st st' _ _ => ?_
    rfl

/-- One list of entries, wherever the same ids are found and the same under each of them. -/
theorem answer_list_congr {ids : List EntryId} (hids : outcome d.ids t = (.ok ids, t))
    (hids' : outcome d.ids t' = (.ok ids, t'))
    (h : ∀ id, (outcome (d.fetch id) t).1 = (outcome (d.fetch id) t').1) :
    (outcome d.list t).1 = (outcome d.list t').1 := by
  rw [list, outcome_bind_of_ok hids, outcome_bind_of_ok hids']
  exact answer_fetchAll_congr h ids

/-- **Saving over an entry** in a directory. -/
theorem sameAnswers_save_iff (ht : t.Distinct) (hx : d.store.Holds t x)
    (h : outcome (d.store.save (some x.id) document) t = (.ok e, t')) :
    d.store.SameAnswers t t' ↔ e = x := by
  have he := holds_of_save_some h
  obtain ⟨hentry, dir, temporary, hdir, hmem, hfree, hthere, rfl⟩ := exists_replaced_of_holds h hx
  constructor
  · intro hsame
    exact hsame.eq_of_holds hx he (by rw [hentry])
  · intro heq
    have hfetch : ∀ id, (outcome (d.fetch id) t).1 = (outcome (d.fetch id)
        (t.replaced dir temporary (entryName x.id) (written document))).1 := by
      intro id
      by_cases hid : id = x.id
      · rw [DocumentStore.Holds, heq] at he
        rw [hid]
        exact (congrArg Prod.fst hx).trans (congrArg Prod.fst he).symm
      · exact answer_fetch_congr (at?_entryPath_replaced hdir hfree hthere hid).symm
    -- The name that is written was there, so only the order of the names can be another.
    have hids := outcome_ids_of_directory hdir
    have hids' := outcome_ids_of_directory (FileTree.at?_of_keeps
      (@FileTree.keeps_replaced t dir temporary _ (written document) hfree hthere) hdir)
    rw [idsOfNames_congr (ht.perm_children_replaced hfree hmem)] at hids'
    exact ⟨hfetch, answer_list_congr hids hids' hfetch⟩

end Directory

end Redline
