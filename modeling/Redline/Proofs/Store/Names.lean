/-
  The file names of a store in a directory.

  1. **Entry names** — the file name of an entry stands for its id (`idOfFileName?_entryName`), so
     no two entries share a file; every file system takes it, and it is no temporary name.
  2. **Paths** — a tenant is a component of its own, so the path of an entry is the path of the
     directory and one more name.
  3. **Ids** — from the names of some entries, in any order, come their ids in ascending order
     (`idsOfNames_of_perm`).
-/
import Redline.Proofs.Entry.Id
import Redline.Proofs.Files.Operations
import Redline.Store.Directory

namespace Redline.Directory

/-! ## Entry names -/

/-- The name of the file of an entry, in bytes. -/
def entryName (id : EntryId) : FileName :=
  FileName.ofText (fileName id)

/-- The digits of the id, and the ending. -/
theorem toList_fileName (id : EntryId) :
    (fileName id).toList = Text.decimal id.number ++ ['.', 'm', 'd'] := by
  rw [fileName, String.toList_append, EntryId.text, Text.decimalText, String.toList_ofList]
  rfl

/-- It starts with a digit. -/
theorem head?_fileName (id : EntryId) :
    ∃ c, (fileName id).toList.head? = some c ∧ c.isDigit = true := by
  obtain ⟨c, cs, hcs⟩ := List.exists_cons_of_ne_nil (Text.decimal_ne_nil id.number)
  refine ⟨c, ?_, Text.isDigit_of_mem_decimal (hcs ▸ List.mem_cons_self)⟩
  rw [toList_fileName, hcs]
  rfl

/-- It is longer than the names that stand for other directories. -/
theorem isPlain_fileName (id : EntryId) : FileTree.IsPlain (fileName id) := by
  refine FileTree.isPlain_of_length ?_
  rw [toList_fileName, List.length_append]
  exact Nat.lt_add_left _ (by decide)

/-- The size of the name of an entry, in bytes. -/
theorem utf8ByteSize_fileName (id : EntryId) :
    (fileName id).utf8ByteSize = (Text.decimal id.number).length + 3 := by
  rw [fileName, String.utf8ByteSize_append, EntryId.text, Text.utf8ByteSize_decimalText]
  rfl

/-- It is short enough for every id of 64 bits. -/
theorem isFileName_fileName (id : EntryId) : FileTree.IsFileName (fileName id) where
  toIsPlain := isPlain_fileName id
  no_nul := by
    rw [toList_fileName]
    intro h
    rcases List.mem_append.mp h with h | h
    · exact absurd (Text.isDigit_of_mem_decimal h) (by decide)
    · exact absurd h (by decide)
  short := by
    have hdigits := Text.length_decimal_le id.bounded
    rw [utf8ByteSize_fileName, FileTree.maxNameSize]
    omega

/-- **The file name of an entry stands for its id.** -/
theorem idOfFileName?_entryName (id : EntryId) : idOfFileName? (entryName id) = some id := by
  have hreverse : (fileName id).toList.reverse
      = 'd' :: 'm' :: '.' :: (Text.decimal id.number).reverse := by
    rw [toList_fileName, List.reverse_append]
    rfl
  simp only [idOfFileName?, entryName, FileName.text?_ofText, bind, Option.bind, hreverse]
  rw [List.reverse_reverse]
  show (EntryId.parse id.text).toOption = some id
  rw [EntryId.parse_text]
  rfl

/-- Two entries have two files. -/
theorem entryName_injective {id id' : EntryId} (h : entryName id = entryName id') : id = id' := by
  have hid := idOfFileName?_entryName id
  rw [h, idOfFileName?_entryName] at hid
  exact (Option.some.inj hid).symm

/-- No temporary name stands for an id. -/
theorem entryName_ne_temporaryName (id : EntryId) (n : Nat) :
    entryName id ≠ FileName.ofText (FilePath.temporaryName n) := by
  intro h
  have htext : fileName id = FilePath.temporaryName n := FileName.ofText_injective h
  obtain ⟨c, hhead, hc⟩ := head?_fileName id
  rw [htext, FilePath.temporaryName, String.toList_append] at hhead
  cases hhead
  exact absurd hc (by decide)

/-! ## Paths -/

/-- What the check of a tenant asks for. -/
theorem isTenantName_iff {s : String} : isTenantName s = true ↔
    s ≠ "" ∧ s ≠ "." ∧ s ≠ ".." ∧ ∀ c ∈ s.toList, c ≠ '/' ∧ c ≠ '\\' ∧ c ≠ '\x00' := by
  simp only [isTenantName, Bool.and_eq_true, decide_eq_true_eq, List.all_eq_true, and_assoc]

/-- The default tenant passes the check of a tenant. -/
theorem isTenantName_defaultTenant : isTenantName defaultTenant = true := by
  decide

/-- A tenant is a name that stands for itself. -/
theorem isPlain_of_isTenantName {tenant : String} (h : isTenantName tenant = true) :
    FileTree.IsPlain tenant := by
  obtain ⟨hempty, hdot, hdots, -⟩ := isTenantName_iff.mp h
  exact ⟨hempty, hdot, hdots⟩

theorem nul_not_mem_of_isTenantName {tenant : String} (h : isTenantName tenant = true) :
    '\x00' ∉ tenant.toList := by
  obtain ⟨-, -, -, hchars⟩ := isTenantName_iff.mp h
  exact fun hnul => (hchars _ hnul).2.2 rfl

/-- It is a file name, as long as it is not too long. -/
theorem isFileName_of_isTenantName {tenant : String} (h : isTenantName tenant = true)
    (hshort : tenant.utf8ByteSize ≤ FileTree.maxNameSize) : FileTree.IsFileName tenant where
  toIsPlain := isPlain_of_isTenantName h
  no_nul := nul_not_mem_of_isTenantName h
  short := hshort

variable (d : Directory)

theorem tenant_ne_empty : d.tenant ≠ "" := by
  intro h
  have hname := d.isName
  rw [h] at hname
  exact absurd hname (by decide)

theorem getLast?_path : d.path.getLast? = some d.tenant := by
  rw [path, FilePath.child]
  split
  · exact List.getLast?_concat
  · exact List.getLast?_concat

theorem path_getLast?_ne : d.path.getLast? ≠ some "" := by
  rw [getLast?_path]
  exact fun h => d.tenant_ne_empty (Option.some.inj h)

/-- The path of a tenant has the tenant as its last part. -/
theorem path_ne_nil : d.path ≠ [] := by
  intro h
  have hlast := d.getLast?_path
  rw [h] at hlast
  cases hlast

theorem child_path (name : String) : d.path.child name = d.path ++ [name] := by
  rw [FilePath.child, if_neg d.path_getLast?_ne]

theorem entryPath_eq (id : EntryId) : d.entryPath id = d.path ++ [fileName id] :=
  d.child_path _

/-! ## Ids -/

/-- The ids in a directory come in ascending order. -/
theorem pairwise_idsOfNames (names : List FileName) : (idsOfNames names).Pairwise (· ≤ ·) := by
  have htrans : ∀ a b c : EntryId, decide (a ≤ b) = true → decide (b ≤ c) = true →
      decide (a ≤ c) = true := fun a b c hab hbc =>
    decide_eq_true (Nat.le_trans (of_decide_eq_true hab) (of_decide_eq_true hbc))
  have htotal : ∀ a b : EntryId, (decide (a ≤ b) || decide (b ≤ a)) = true := by
    intro a b
    rw [Bool.or_eq_true, decide_eq_true_eq, decide_eq_true_eq]
    exact Nat.le_total a.number b.number
  exact (List.pairwise_mergeSort htrans htotal (names.filterMap idOfFileName?)).imp
    of_decide_eq_true

/-- An id is there when some name is read as that id, which may be another name than its own. -/
theorem mem_idsOfNames_iff {names : List FileName} {id : EntryId} :
    id ∈ idsOfNames names ↔ ∃ name ∈ names, idOfFileName? name = some id := by
  rw [idsOfNames, (List.mergeSort_perm _ _).mem_iff, List.mem_filterMap]

/-- The file of an entry is enough. -/
theorem mem_idsOfNames {names : List FileName} {id : EntryId} (h : entryName id ∈ names) :
    id ∈ idsOfNames names :=
  mem_idsOfNames_iff.mpr ⟨entryName id, h, idOfFileName?_entryName id⟩

/-- The order of the names does not matter. -/
theorem idsOfNames_congr {names names' : List FileName} (h : names.Perm names') :
    idsOfNames names = idsOfNames names' := by
  have hperm : (idsOfNames names).Perm (idsOfNames names') :=
    (List.mergeSort_perm _ _).trans
      ((h.filterMap idOfFileName?).trans (List.mergeSort_perm _ _).symm)
  exact hperm.eq_of_pairwise (fun _ _ _ _ => EntryId.eq_of_le_of_le) (pairwise_idsOfNames names)
    (pairwise_idsOfNames names')

/-- **The ids of some entries, from the names of their files in any order.** -/
theorem idsOfNames_of_perm {names : List FileName} {ids : List EntryId}
    (hnames : names.Perm (ids.map entryName)) (hids : ids.Pairwise (· < ·)) :
    idsOfNames names = ids := by
  have hmap : (ids.map entryName).filterMap idOfFileName? = ids := by
    rw [List.filterMap_map]
    exact (List.filterMap_congr fun id _ => idOfFileName?_entryName id).trans List.filterMap_some
  have hread := hnames.filterMap idOfFileName?
  rw [hmap] at hread
  have hperm : (idsOfNames names).Perm ids := (List.mergeSort_perm _ _).trans hread
  exact hperm.eq_of_pairwise (fun _ _ _ _ => EntryId.eq_of_le_of_le) (pairwise_idsOfNames names)
    (hids.imp Nat.le_of_lt)

end Redline.Directory
