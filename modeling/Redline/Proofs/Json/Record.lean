/-
  Records — what is read from the members of an object.

  A value may be arranged anew before it is written: the members of its objects change places, and
  nothing else does (`Arranges`).  Members of different names are found wherever they stand, so a
  record is read alike from every arrangement of its members (`record?_of_perm`).  What a field gives
  then depends on the member of its name only.
-/
import Redline.Json.Record
import Redline.Proofs.Json.Tokens

namespace Redline.Json

/-! ## Members by name -/

/-- Among members of different names, a member is found by its name. -/
theorem lookup_eq_some_iff_mem {members : List (String × Json)} {name : String} {j : Json}
    (hnodup : (members.map Prod.fst).Nodup) :
    members.lookup name = some j ↔ (name, j) ∈ members := by
  rw [List.lookup_eq_some_iff]
  constructor
  · rintro ⟨before, behind, rfl, -⟩
    exact List.mem_append_right _ List.mem_cons_self
  · intro hmem
    obtain ⟨before, behind, rfl⟩ := List.append_of_mem hmem
    refine ⟨before, behind, rfl, fun m hm => bne_iff_ne.mpr fun hname => ?_⟩
    rw [List.map_append, List.nodup_append] at hnodup
    exact hnodup.2.2 m.1 (List.mem_map_of_mem hm) name (by simp) hname.symm

/-- It does not matter where a member stands. -/
theorem lookup_eq_of_perm {members members' : List (String × Json)} (hperm : members'.Perm members)
    (hnodup : (members.map Prod.fst).Nodup) (name : String) :
    members'.lookup name = members.lookup name := by
  have hnodup' : (members'.map Prod.fst).Nodup := (hperm.map Prod.fst).nodup_iff.mpr hnodup
  ext j
  rw [lookup_eq_some_iff_mem hnodup', lookup_eq_some_iff_mem hnodup, hperm.mem_iff]

/-- A member is found by its name, whatever is done to the values. -/
theorem lookup_map (f : Json → Json) (members : List (String × Json)) (name : String) :
    (members.map fun m => (m.1, f m.2)).lookup name = (members.lookup name).map f := by
  induction members with
  | nil => rfl
  | cons m ms ih =>
    rw [List.map_cons, List.lookup_cons, List.lookup_cons, ih]
    split <;> rfl

/-- The members of an object, where some fields may be absent. -/
def present (fields : List (String × Option Json)) : List (String × Json) :=
  fields.flatMap fun m => (m.2.map (m.1, ·)).toList

theorem sublist_present (fields : List (String × Option Json)) :
    ((present fields).map Prod.fst).Sublist (fields.map Prod.fst) := by
  induction fields with
  | nil => exact List.Sublist.refl _
  | cons m ms ih =>
    obtain ⟨name, j?⟩ := m
    cases j? with
    | none => exact ih.cons name
    | some j => exact ih.cons_cons name

/-- An absent field is not found, a present one is found as it is. -/
theorem lookup_present {fields : List (String × Option Json)}
    (hnodup : (fields.map Prod.fst).Nodup) (name : String) :
    (present fields).lookup name = (fields.lookup name).join := by
  induction fields with
  | nil => rfl
  | cons m ms ih =>
    obtain ⟨name', j?⟩ := m
    rw [List.map_cons, List.nodup_cons] at hnodup
    have hrest := ih hnodup.2
    by_cases hname : name = name'
    · subst hname
      cases j? with
      | some j => rw [List.lookup_cons_self]; exact List.lookup_cons_self
      | none =>
        -- A field that is absent is no member, and neither is one of its name further on.
        have hnone : (present ms).lookup name = none := by
          rw [List.lookup_eq_none_iff]
          intro m hm
          refine bne_iff_ne.mpr fun h => hnodup.1 ?_
          rw [h]
          exact (sublist_present ms).subset (List.mem_map_of_mem hm)
        rw [List.lookup_cons_self]
        exact hnone
    · have hne : (name == name') = false := beq_false_of_ne hname
      cases j? with
      | none =>
        rw [List.lookup_cons, hne]
        exact hrest
      | some j =>
        rw [List.lookup_cons, hne, ← hrest]
        show List.lookup name ((name', j) :: present ms) = _
        rw [List.lookup_cons, hne]

theorem textMember_eq_present (name : String) (s : Option String) :
    textMember name s = present [(name, s.map .text)] := by
  cases s <;> rfl

/-! ## Arrangements -/

/-- `f` arranges values: at most the members of objects change places. -/
structure Arranges (f : Json → Json) : Prop where
  null : f .null = .null
  bool (b : Bool) : f (.bool b) = .bool b
  number (n : Nat) : f (.number n) = .number n
  text (s : String) : f (.text s) = .text s
  array (items : List Json) : f (.array items) = .array (items.map f)
  object (members : List (String × Json)) :
    ∃ members', f (.object members) = .object members'
      ∧ members'.Perm (members.map fun m => (m.1, f m.2))

/-- To leave a value alone is to arrange it. -/
theorem arranges_id : Arranges id where
  null := rfl
  bool _ := rfl
  number _ := rfl
  text _ := rfl
  array items := by rw [List.map_id]; rfl
  object members := ⟨members, rfl, by
    have hsame : (members.map fun m => (m.1, id m.2)) = members := List.map_id members
    rw [hsame]⟩

theorem sortedItems_eq_map (items : List Json) : sortedItems items = items.map sorted := by
  induction items with
  | nil => rfl
  | cons j js ih => rw [sortedItems, ih, List.map_cons]

theorem sortedMembers_eq_map (members : List (String × Json)) :
    sortedMembers members = members.map fun m => (m.1, m.2.sorted) := by
  induction members with
  | nil => rfl
  | cons m ms ih =>
    obtain ⟨name, j⟩ := m
    rw [sortedMembers, sortedMember, ih, List.map_cons]

/-- So is to put the members in the order of their names. -/
theorem arranges_sorted : Arranges sorted where
  null := rfl
  bool _ := rfl
  number _ := rfl
  text _ := rfl
  array items := by rw [sorted, sortedItems_eq_map]
  object members := by
    rw [sorted, sortedMembers_eq_map]
    exact ⟨_, rfl, List.mergeSort_perm _ _⟩

/-- An arranged value can be written if the value can. -/
theorem Written.arranged {f : Json → Json} {j : Json} (h : Written j) (hf : Arranges f) :
    Written (f j) := by
  induction h with
  | null => rw [hf.null]; exact .null
  | bool b => rw [hf.bool]; exact .bool b
  | number n => rw [hf.number]; exact .number n
  | text s => rw [hf.text]; exact .text s
  | @array items _ ih =>
    rw [hf.array]
    exact .array (List.forall_mem_map.mpr ih)
  | @object members _ ih =>
    obtain ⟨members', hmembers, hperm⟩ := hf.object members
    rw [hmembers]
    refine .object fun m hm => ?_
    obtain ⟨m', hm', rfl⟩ := List.mem_map.mp (hperm.mem_iff.mp hm)
    exact ih m' hm'

/-! ## Records -/

/-- **A record** is read from members of some of its names, in any order. -/
theorem record?_of_perm {names : List String} {members members' : List (String × Json)}
    (hnames : names.Nodup) (hsub : (members.map Prod.fst).Sublist names)
    (hperm : members'.Perm members) (least : Nat) :
    ∃ r, record? names least (.object members') = some r
      ∧ ∀ name, r.get? name = members.lookup name := by
  have hnodup : (members.map Prod.fst).Nodup := hnames.sublist hsub
  have hnodup' : (members'.map Prod.fst).Nodup := (hperm.map Prod.fst).nodup_iff.mpr hnodup
  have hknown : (members'.filter fun m => names.contains m.1) = members' := by
    rw [List.filter_eq_self]
    intro m hm
    exact List.contains_iff_mem.mpr (hsub.subset (List.mem_map_of_mem (hperm.mem_iff.mp hm)))
  refine ⟨⟨members'⟩, ?_, lookup_eq_of_perm hperm hnodup⟩
  rw [record?]
  simp only [hknown, if_pos hnodup']

/-- **The record that is read from an arranged object** has the fields that are present. -/
theorem record?_present {f : Json → Json} (hf : Arranges f) {j : Json}
    {fields : List (String × Option Json)} (hj : j = .object (present fields)) (names : List String)
    (least : Nat) (hkeys : fields.map Prod.fst = names) (hnodup : names.Nodup) :
    ∃ r, record? names least (f j) = some r
      ∧ ∀ name, r.get? name = (fields.lookup name).join.map f := by
  subst hj hkeys
  obtain ⟨members', hmembers, hperm⟩ := hf.object (present fields)
  have hsub := sublist_present fields
  have hsame : ((present fields).map fun m => (m.1, f m.2)).map Prod.fst
      = (present fields).map Prod.fst := List.map_map
  rw [← hsame] at hsub
  obtain ⟨r, hr, hget⟩ := record?_of_perm hnodup hsub hperm least
  rw [hmembers]
  refine ⟨r, hr, fun name => ?_⟩
  rw [hget, lookup_map, lookup_present hnodup]

namespace Record

variable {α : Type} {r : Record} {name : String} {read : Json → Option α} {j : Json} {x : α}

/-- A member that is there is read. -/
theorem required?_of_get? (hget : r.get? name = some j) (hread : read j = some x) :
    r.required? name read = some x := by
  rw [required?, hget]
  exact hread

theorem getD?_of_get? {default : α} (hget : r.get? name = some j) (hread : read j = some x) :
    r.getD? name default read = some x := by
  rw [getD?, hget]
  exact hread

/-- A member that is there and is not null is read. -/
theorem optional?_of_ne_null (hget : r.get? name = some j) (hj : j ≠ .null)
    (hread : read j = some x) : r.optional? name read = some (some x) := by
  unfold optional?
  split
  · rename_i hnone
    exact nomatch hget.symm.trans hnone
  · rename_i hnull
    exact absurd (Option.some.inj (hget.symm.trans hnull)) hj
  · rename_i hsome
    rw [← Option.some.inj (hget.symm.trans hsome), hread]
    rfl

/-- A field that is left out where it is absent. -/
theorem optional?_of_get? {write : α → Json} {x? : Option α} (hget : r.get? name = x?.map write)
    (hnull : ∀ x, write x ≠ .null) (hread : ∀ x ∈ x?, read (write x) = some x) :
    r.optional? name read = some x? := by
  cases x? with
  | none =>
    rw [optional?, hget]
    rfl
  | some x => exact optional?_of_ne_null hget (hnull x) (hread x rfl)

/-- A field that is `null` where it is absent. -/
theorem optional?_of_elim {f : Json → Json} (hf : Arranges f) {write : α → Json} {x? : Option α}
    (hget : r.get? name = some (f (x?.elim .null write))) (hnull : ∀ x, f (write x) ≠ .null)
    (hread : ∀ x ∈ x?, read (f (write x)) = some x) : r.optional? name read = some x? := by
  cases x? with
  | none =>
    rw [Option.elim_none, hf.null] at hget
    rw [optional?, hget]
  | some x => exact optional?_of_ne_null hget (hnull x) (hread x rfl)

end Record

/-- **A list** is read item by item. -/
theorem list?_map {α : Type} {write : α → Json} {read : Json → Option α} {xs : List α}
    (h : ∀ x ∈ xs, read (write x) = some x) : list? read (.array (xs.map write)) = some xs := by
  rw [list?]
  induction xs with
  | nil => rfl
  | cons x xs ih =>
    rw [List.forall_mem_cons] at h
    rw [List.map_cons, List.mapM_cons, h.1, ih h.2]
    rfl

end Redline.Json
