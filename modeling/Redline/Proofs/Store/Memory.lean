/-
  Entries in memory — what one call changes.

  1. **Entries** — an id has one entry at most, so looking it up is membership
     (`get?_eq_some_iff`); an insertion and a deletion concern one id (`get?_insert`, `get?_erase`).
     As a collection, what was inserted comes to the other entries (`perm_insertEntry`).
  2. **Calls** — no call fails.
-/
import Redline.Proofs.Entry.Id
import Redline.Proofs.Store.Calls
import Redline.Store.Memory
import Mathlib.Data.List.Nodup

namespace Redline

/-- An entry that is inserted takes the place of the one with its id. -/
theorem perm_insertEntry (e : Entry) {es : List Entry} (h : es.Pairwise fun a b => a.id < b.id) :
    (insertEntry e es).Perm (e :: es.filter fun x => x.id ≠ e.id) := by
  induction es with
  | nil => exact List.Perm.refl _
  | cons first rest ih =>
    obtain ⟨hfirst, hrest⟩ := List.pairwise_cons.mp h
    rw [insertEntry]
    split
    · rename_i hlt
      have hkeep : (first :: rest).filter (fun x => x.id ≠ e.id) = first :: rest := by
        rw [List.filter_eq_self]
        intro x hx
        refine decide_eq_true fun heq => ?_
        rcases List.mem_cons.mp hx with rfl | hx
        · exact Nat.lt_irrefl _ (heq ▸ hlt)
        · exact Nat.lt_asymm hlt (heq ▸ hfirst x hx)
      rw [hkeep]
    · split
      · rename_i heq
        have hkeep : rest.filter (fun x => x.id ≠ e.id) = rest := by
          rw [List.filter_eq_self]
          intro x hx
          refine decide_eq_true fun hxe => ?_
          exact Nat.lt_irrefl _ (heq ▸ hxe ▸ hfirst x hx)
        rw [List.filter_cons_of_neg (by simp [heq]), hkeep]
      · rename_i hne
        rw [List.filter_cons_of_pos (by simpa using Ne.symm hne)]
        exact ((ih hrest).cons first).trans (List.Perm.swap _ _ _)

namespace Memory

variable {s : Memory} {id : EntryId} {e : Entry}

/-! ## Entries -/

/-- No two entries have the same id, since the ids ascend. -/
theorem nodup_ids (s : Memory) : (s.entries.map Entry.id).Nodup := by
  refine EntryId.nodup_of_pairwise_lt ?_
  rw [List.pairwise_map]
  exact s.ascending

theorem mem_of_get? (h : s.get? id = some e) : e ∈ s.entries :=
  List.mem_of_find?_eq_some h

theorem id_of_get? (h : s.get? id = some e) : e.id = id := by
  have hid := List.find?_some (p := fun x : Entry => x.id = id) h
  exact of_decide_eq_true hid

/-- An id is the id of one entry at most. -/
theorem get?_eq_some_iff : s.get? id = some e ↔ e ∈ s.entries ∧ e.id = id := by
  constructor
  · intro h
    exact ⟨mem_of_get? h, id_of_get? h⟩
  · rintro ⟨hmem, hid⟩
    cases hget : s.get? id with
    | none => exact absurd (decide_eq_true hid) (List.find?_eq_none.mp hget e hmem)
    | some e' =>
      have hid' := (id_of_get? hget).trans hid.symm
      rw [List.inj_on_of_nodup_map s.nodup_ids (mem_of_get? hget) hmem hid']

/-- The entries after an insertion: the new one, and those with other ids. -/
theorem mem_insert_iff {x : Entry} :
    x ∈ (s.insert e).entries ↔ x = e ∨ x ∈ s.entries ∧ x.id ≠ e.id := by
  rw [insert, (perm_insertEntry e s.ascending).mem_iff, List.mem_cons, List.mem_filter,
    decide_eq_true_eq]

/-- Read after write. -/
theorem get?_insert (s : Memory) (e : Entry) (id : EntryId) :
    (s.insert e).get? id = if id = e.id then some e else s.get? id := by
  ext x
  rw [get?_eq_some_iff, mem_insert_iff]
  split
  · rename_i hid
    rw [hid]
    constructor
    · rintro ⟨rfl | ⟨-, hne⟩, hx⟩
      · rfl
      · exact absurd hx hne
    · intro hx
      cases hx
      exact ⟨.inl rfl, rfl⟩
  · rename_i hid
    rw [get?_eq_some_iff]
    constructor
    · rintro ⟨rfl | ⟨hmem, -⟩, hx⟩
      · exact absurd hx.symm hid
      · exact ⟨hmem, hx⟩
    · rintro ⟨hmem, hx⟩
      exact ⟨.inr ⟨hmem, fun heq => hid (hx.symm.trans heq)⟩, hx⟩

/-- Read after removal. -/
theorem get?_erase (s : Memory) (id id' : EntryId) :
    (s.erase id).get? id' = if id' = id then none else s.get? id' := by
  ext x
  rw [get?_eq_some_iff, erase, List.mem_filter, decide_eq_true_eq]
  split
  · rename_i hid
    constructor
    · rintro ⟨⟨-, hne⟩, hx⟩
      exact absurd (hx.trans hid) hne
    · intro h
      cases h
  · rename_i hid
    rw [get?_eq_some_iff]
    constructor
    · rintro ⟨⟨hmem, -⟩, hx⟩
      exact ⟨hmem, hx⟩
    · rintro ⟨hmem, hx⟩
      exact ⟨⟨hmem, fun heq => hid (hx.symm.trans heq)⟩, hx⟩

/-- An id that no entry has is erased without any change. -/
theorem erase_of_none (h : s.get? id = none) : s.erase id = s := by
  have hkeep : s.entries.filter (fun e => e.id ≠ id) = s.entries := by
    rw [List.filter_eq_self]
    intro e he
    exact decide_eq_true fun hid => absurd (decide_eq_true hid) (List.find?_eq_none.mp h e he)
  cases s
  exact (Memory.mk.injEq _ _ _ _).mpr hkeep

/-! ## Calls -/

theorem outcome_fetch (s : Memory) (id : EntryId) :
    outcome (store.fetch id) s = (.ok (s.get? id), s) := rfl

/-- An entry that is saved without an id has the new id. -/
theorem outcome_save (s : Memory) (id? : Option EntryId) (document : Document) :
    outcome (store.save id? document) s
      = (.ok ⟨id?.getD s.newId, document⟩, s.insert ⟨id?.getD s.newId, document⟩) := rfl

/-- **No operation fails.** -/
theorem outcome_call_ok (s : Memory) (op : Operation) :
    ∃ a s', outcome (op.call store) s = (.ok a, s') := by
  cases op <;> exact ⟨_, _, rfl⟩

/-- So no operation of a history fails. -/
theorem history_ok (s : Memory) (ops : List Operation) :
    ∀ step ∈ history store ops s, ∃ a, step.1 = .ok a := by
  induction ops generalizing s with
  | nil =>
    intro step hstep
    cases hstep
  | cons op ops ih =>
    obtain ⟨a, s', hcall⟩ := outcome_call_ok s op
    rw [history, List.forall_mem_cons, hcall]
    exact ⟨⟨a, rfl⟩, ih s'⟩

end Memory

end Redline
