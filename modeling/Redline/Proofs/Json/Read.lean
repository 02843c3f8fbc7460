/-
  What is written is read back.

  The tokens of a value bring a reader that waits for a value behind this value, whatever is open
  around it and whatever follows (`readsBack`, by induction on how the value is written).  Inside an
  array or an object the induction is on the items or members that are left, over those that have been
  read.  Both forms of a value have its tokens, so both are read as that value (`read?_compact`,
  `read?_indented`).
-/
import Redline.Json.Read
import Redline.Proofs.Json.Tokens

namespace Redline.Json

variable {j : Json} {js : List Json} {m : String × Json} {ms : List (String × Json)}

/-- A reader that waits for a value reads `j` from its tokens. -/
def ReadsBack (j : Json) : Prop :=
  ∀ stack ts, Reader.run ⟨stack, .value⟩ (j.tokens ++ ts) = Reader.run ⟨stack, .afterValue j⟩ ts

/-! ## Arrays -/

/-- No value starts with a bracket that closes. -/
theorem exists_tokens_eq_cons (h : Written j) :
    ∃ t ts, j.tokens = t :: ts ∧ ∀ stack items, Reader.step ⟨.array items :: stack, .itemOrClose⟩ t
      = Reader.step ⟨.array items :: stack, .value⟩ t := by
  cases h with
  | null => exact ⟨_, _, rfl, fun _ _ => rfl⟩
  | bool b => exact ⟨_, _, rfl, fun _ _ => rfl⟩
  | number n => exact ⟨_, _, rfl, fun _ _ => rfl⟩
  | text s => exact ⟨_, _, rfl, fun _ _ => rfl⟩
  | array _ => exact ⟨_, _, rfl, fun _ _ => rfl⟩
  | object _ => exact ⟨_, _, rfl, fun _ _ => rfl⟩

/-- The first item of an array is read like any other value. -/
theorem run_itemOrClose (h : Written j) (stack : List Frame) (items : List Json) (ts : List Token) :
    Reader.run ⟨.array items :: stack, .itemOrClose⟩ (j.tokens ++ ts)
      = Reader.run ⟨.array items :: stack, .value⟩ (j.tokens ++ ts) := by
  obtain ⟨t, rest, htokens, hstep⟩ := exists_tokens_eq_cons h
  rw [htokens, List.cons_append, Reader.run, Reader.run, hstep]

/-- The items behind the first, each behind its comma. -/
theorem run_itemTail (h : ∀ j ∈ js, ReadsBack j) (j : Json) (stack : List Frame)
    (read : List Json) (ts : List Token) :
    Reader.run ⟨.array read :: stack, .afterValue j⟩ (itemTailTokens js ++ .closeArray :: ts)
      = Reader.run ⟨stack, .afterValue (.array (read.reverse ++ j :: js))⟩ ts := by
  induction js generalizing j read with
  | nil =>
    show Reader.run ⟨stack, .afterValue (.array (j :: read).reverse)⟩ ts = _
    rw [List.reverse_cons]
  | cons j' js ih =>
    rw [List.forall_mem_cons] at h
    show Reader.run ⟨.array (j :: read) :: stack, .value⟩
      ((j'.tokens ++ itemTailTokens js) ++ .closeArray :: ts) = _
    rw [List.append_assoc, h.1, ih h.2, List.reverse_cons, List.append_assoc]
    rfl

/-- An array: its first item stands without a comma. -/
theorem readsBack_array (hwritten : ∀ j ∈ js, Written j) (h : ∀ j ∈ js, ReadsBack j) :
    ReadsBack (.array js) := by
  intro stack ts
  cases js with
  | nil => rfl
  | cons j js =>
    rw [List.forall_mem_cons] at h hwritten
    show Reader.run ⟨.array [] :: stack, .itemOrClose⟩
      (((j.tokens ++ itemTailTokens js) ++ [.closeArray]) ++ ts) = _
    rw [List.append_assoc, List.append_assoc, run_itemOrClose hwritten.1, h.1]
    exact run_itemTail h.2 j stack [] ts

/-! ## Objects -/

/-- The members as they are read. -/
def rawMembers (ms : List (String × Json)) : List RawMember :=
  ms.map fun m => (some m.1, m.2)

/-- To name every member succeeds where each of them can be named. -/
theorem mapM_rawMembers {f : RawMember → Option (String × Json)}
    (hf : ∀ m : String × Json, f (some m.1, m.2) = some m) (ms : List (String × Json)) :
    (rawMembers ms).mapM f = some ms := by
  induction ms with
  | nil => rfl
  | cons m ms ih =>
    rw [rawMembers, List.map_cons, List.mapM_cons, hf, ← rawMembers, ih]
    rfl

/-- The members are collected from the last to the first. -/
theorem ofRawMembers_reverse (ms : List (String × Json)) :
    ofRawMembers (rawMembers ms).reverse = .object ms := by
  rw [ofRawMembers, List.reverse_reverse, mapM_rawMembers fun _ => rfl]

/-- One member more, in front of those that have been read. -/
theorem reverse_rawMembers_concat (ms : List (String × Json)) (m : String × Json) :
    (rawMembers (ms ++ [m])).reverse = (some m.1, m.2) :: (rawMembers ms).reverse := by
  rw [rawMembers, List.map_append, List.reverse_append]
  rfl

/-- The first member of an object is read like any other. -/
theorem run_nameOrClose (m : String × Json) (stack : List Frame) (ts : List Token) :
    Reader.run ⟨.object [] :: stack, .nameOrClose⟩ (oneMemberTokens m ++ ts)
      = Reader.run ⟨.object [] :: stack, .name⟩ (oneMemberTokens m ++ ts) := by
  obtain ⟨name, j⟩ := m
  rfl

/-- A member is open until its value has been read. -/
theorem run_oneMember (h : ReadsBack m.2) (stack : List Frame) (read : List RawMember)
    (ts : List Token) :
    Reader.run ⟨.object read :: stack, .name⟩ (oneMemberTokens m ++ ts)
      = Reader.run ⟨.member read (some m.1) :: stack, .afterValue m.2⟩ ts := by
  obtain ⟨name, j⟩ := m
  exact h _ ts

/-- The members behind the first, each behind its comma. -/
theorem run_memberTail (h : ∀ m ∈ ms, ReadsBack m.2) (m : String × Json) (stack : List Frame)
    (read : List (String × Json)) (ts : List Token) :
    Reader.run ⟨.member (rawMembers read).reverse (some m.1) :: stack, .afterValue m.2⟩
        (memberTailTokens ms ++ .closeObject :: ts)
      = Reader.run ⟨stack, .afterValue (.object (read ++ m :: ms))⟩ ts := by
  induction ms generalizing m read with
  | nil =>
    show Reader.run ⟨stack, .afterValue (ofRawMembers ((some m.1, m.2) :: (rawMembers read).reverse))⟩
      ts = _
    rw [← reverse_rawMembers_concat, ofRawMembers_reverse]
  | cons m' ms ih =>
    rw [List.forall_mem_cons] at h
    show Reader.run ⟨.object ((some m.1, m.2) :: (rawMembers read).reverse) :: stack, .name⟩
      ((oneMemberTokens m' ++ memberTailTokens ms) ++ .closeObject :: ts) = _
    rw [List.append_assoc, run_oneMember h.1, ← reverse_rawMembers_concat, ih h.2,
      List.append_assoc]
    rfl

theorem readsBack_object (h : ∀ m ∈ ms, ReadsBack m.2) : ReadsBack (.object ms) := by
  intro stack ts
  cases ms with
  | nil => rfl
  | cons m ms =>
    rw [List.forall_mem_cons] at h
    show Reader.run ⟨.object [] :: stack, .nameOrClose⟩
      (((oneMemberTokens m ++ memberTailTokens ms) ++ [.closeObject]) ++ ts) = _
    rw [List.append_assoc, List.append_assoc, run_nameOrClose, run_oneMember h.1]
    exact run_memberTail h.2 m stack [] ts

/-! ## Values -/

/-- **The tokens of a value** are read as that value. -/
theorem readsBack (h : Written j) : ReadsBack j := by
  induction h with
  | null => exact fun _ _ => rfl
  | bool b => exact fun _ _ => rfl
  | number n => exact fun _ _ => rfl
  | text s => exact fun _ _ => rfl
  | array hwritten ih => exact readsBack_array hwritten ih
  | object _ ih => exact readsBack_object ih

/-- A text that spells the tokens of a value is read as that value. -/
theorem readChars?_of_spells {cs : List Char} (h : Written j) (hspells : Spells cs j.tokens) :
    readChars? cs = some j := by
  have hrun := readsBack h [] []
  rw [List.append_nil] at hrun
  rw [readChars?, tokens?_of_spells hspells]
  exact hrun

/-- **The compact form** is read back. -/
theorem read?_compact (h : Written j) : read? j.compact = some j := by
  rw [read?, compact, String.toList_ofList]
  exact readChars?_of_spells h (spells_compact h)

/-- **The indented form** is read back. -/
theorem read?_indented (h : Written j) : read? j.indented = some j := by
  rw [read?, indented, String.toList_ofList]
  exact readChars?_of_spells h (spells_indented h 0)

end Redline.Json
