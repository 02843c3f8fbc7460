/-
  A store in memory.

  The entries are kept in strictly ascending order of their ids.  Saving under an id that is in use
  replaces the document; a new entry comes after the last one.  A document is kept as it is given.
-/
import Redline.Store.Basic

namespace Redline

/-- `es` with `e`, in place of the entry with its id if there is one. -/
def insertEntry (e : Entry) : List Entry → List Entry
  | [] => [e]
  | first :: rest =>
    if e.id < first.id then e :: first :: rest
    else if e.id = first.id then e :: rest
    else first :: insertEntry e rest

/-- Inserting an entry adds no id but its own. -/
theorem mem_insertEntry {e x : Entry} {es : List Entry} (h : x ∈ insertEntry e es) :
    x = e ∨ x ∈ es := by
  induction es with
  | nil => simpa [insertEntry] using h
  | cons first rest ih =>
    simp only [insertEntry] at h
    split at h
    · simpa using h
    · split at h
      · rcases List.mem_cons.1 h with h | h
        · exact .inl h
        · exact .inr (List.mem_cons_of_mem _ h)
      · rcases List.mem_cons.1 h with h | h
        · exact .inr (h ▸ List.mem_cons_self)
        · exact (ih h).imp_right (List.mem_cons_of_mem _)

/-- Inserting an entry keeps the order. -/
theorem pairwise_insertEntry (e : Entry) {es : List Entry}
    (h : es.Pairwise fun a b => a.id < b.id) :
    (insertEntry e es).Pairwise fun a b => a.id < b.id := by
  induction es with
  | nil => simp [insertEntry]
  | cons first rest ih =>
    obtain ⟨hfirst, hrest⟩ := List.pairwise_cons.1 h
    simp only [insertEntry]
    split
    · rename_i hlt
      refine List.pairwise_cons.2 ⟨fun x hx => ?_, h⟩
      rcases List.mem_cons.1 hx with rfl | hx
      · exact hlt
      · exact Nat.lt_trans hlt (hfirst x hx)
    · split
      · rename_i heq
        exact List.pairwise_cons.2 ⟨fun x hx => heq ▸ hfirst x hx, hrest⟩
      · rename_i hlt hne
        have hgt : first.id < e.id := by
          have : e.id.number ≠ first.id.number := fun h => hne (EntryId.ext_number h)
          exact Nat.lt_of_le_of_ne (Nat.le_of_not_lt hlt) (Ne.symm this)
        refine List.pairwise_cons.2 ⟨fun x hx => ?_, ih hrest⟩
        rcases mem_insertEntry hx with rfl | hx
        · exact hgt
        · exact hfirst x hx

/-- Entries in memory, in ascending order of their ids. -/
structure Memory where
  entries : List Entry
  ascending : entries.Pairwise fun a b => a.id < b.id

namespace Memory

/-- No entry. -/
def empty : Memory := ⟨[], .nil⟩

/-- The entry with the id `id`. -/
def get? (s : Memory) (id : EntryId) : Option Entry :=
  s.entries.find? fun e => e.id = id

/-- `s` with `e`, in place of the entry with its id if there is one. -/
def insert (s : Memory) (e : Entry) : Memory :=
  ⟨insertEntry e s.entries, pairwise_insertEntry e s.ascending⟩

/-- `s` without the entry with the id `id`. -/
def erase (s : Memory) (id : EntryId) : Memory :=
  ⟨s.entries.filter fun e => e.id ≠ id, s.ascending.filter _⟩

/-- The entries `es`; of two with one id, the later one. -/
def ofList (es : List Entry) : Memory :=
  es.foldl insert empty

/-- How many entries there are. -/
def size (s : Memory) : Nat :=
  s.entries.length

/-- The id for a new entry. -/
def newId (s : Memory) : EntryId :=
  EntryId.after (s.entries.getLast?.map Entry.id)

/-- The store that keeps its entries in a state of type `Memory`. -/
def store : DocumentStore (StateM Memory) where
  fetch id := do
    let s : Memory ← get
    return s.get? id
  save id? document := do
    let s : Memory ← get
    let e : Entry := ⟨id?.getD s.newId, document⟩
    set (s.insert e)
    return e
  list := do
    let s : Memory ← get
    return s.entries
  delete id := do
    let s : Memory ← get
    set (s.erase id)
    return (s.get? id).isSome

end Memory

end Redline
