/-
  Files in a tree — which bytes stand where.

  Of a tree, `file? l` shows the files alone: the bytes at the location `l`, if a file stands there.
  Two trees have the same files if they show the same everywhere (`SameFiles`); one of them may then
  have directories that the other has not.

  1. **Looking** — what `put` and `drop` do to the files, and so what a file does that is replaced
     in a directory (`file?_replaced`).
  2. **Directories** — to make one changes no file (`sameFiles_makeDirectory`).
  3. **Removed files** — to drop a file changes no other (`removed_drop`).
  4. **Temporary files** — a new file that is removed again leaves no trace (`remove_newFile`).
-/
import Redline.Proofs.Files.Operations

namespace Redline

namespace FileTree

variable {t t' t'' : FileTree} {path : FilePath} {l : Location}

/-! ## Looking -/

/-- The bytes of the file at `l`, if a file stands there. -/
def file? (t : FileTree) (l : Location) : Option ByteArray :=
  match t.find? l with
  | some (.file content) => some content
  | _ => none

theorem file?_congr (h : t'.find? l = t.find? l) : t'.file? l = t.file? l := by
  rw [file?, file?, h]

/-- After a file was replaced by way of a temporary one, only that file is another. -/
theorem file?_replaced {dir : Location} {temporary : FileName} (h : temporary ∉ t.children dir)
    (name : FileName) (content : ByteArray) (l : Location) :
    (t.replaced dir temporary name content).file? l
      = if l = dir ++ [name] then some content else t.file? l := by
  have hfind := find?_replaced h name content l
  split
  · rename_i hl
    rw [if_pos hl] at hfind
    rw [file?, hfind]
  · rename_i hl
    rw [if_neg hl] at hfind
    exact file?_congr hfind

/-- The same files stand in both trees: at the same locations, with the same bytes. -/
def SameFiles (t t' : FileTree) : Prop :=
  ∀ l, t'.file? l = t.file? l

theorem SameFiles.refl (t : FileTree) : SameFiles t t :=
  fun _ => rfl

theorem SameFiles.trans (h : SameFiles t t') (h' : SameFiles t' t'') : SameFiles t t'' :=
  fun l => (h' l).trans (h l)

/-! ## Directories -/

/-- **To make a directory** changes no file. -/
theorem sameFiles_makeDirectory (h : t.makeDirectory path = .ok t') : SameFiles t t' := by
  obtain ⟨l, -, hfree, rfl⟩ := makeDirectory_eq_ok h
  intro l'
  have hput := find?_put t (ne_nil_of_find?_ne (by rw [hfree]; simp)) .directory l'
  by_cases hl : l' = l
  · -- Where the directory is made there was no file.
    rw [if_pos hl] at hput
    rw [file?, file?, hput, hl, hfree]
  · rw [if_neg hl] at hput
    exact file?_congr hput

/-! ## Removed files -/

/-- Of all files exactly the one at `path` was removed between `t` and `t'`. -/
def Removed (t t' : FileTree) (path : FilePath) : Prop :=
  ∃ l, (∃ content, t.at? path = .ok (l, .file content)) ∧ t'.file? l = none
    ∧ ∀ l', l' ≠ l → t'.file? l' = t.file? l'

/-- To drop the node of a file removes the file. -/
theorem removed_drop {content : ByteArray} (h : t.at? path = .ok (l, .file content)) :
    t.Removed (t.drop l) path := by
  have hfile := (at?_eq_ok_iff.mp h).2
  have hdrop := find?_drop t (ne_nil_of_find?_ne (by rw [hfile]; simp))
  refine ⟨l, ⟨content, h⟩, ?_, fun l' hl' => file?_congr ?_⟩
  · rw [file?, hdrop, if_pos rfl]
  · rw [hdrop, if_neg hl']

/-! ## Temporary files -/

/-- What is put where nothing stood, and dropped again, leaves the tree as it was. -/
theorem drop_put_of_free (hl : l ≠ []) (hfree : t.find? l = none) (n : Node) :
    (t.put l n).drop l = t := by
  have hnone : ∀ m ∈ t.nodes, m.1 ≠ l := by
    rw [find?, if_neg hl, List.lookup_eq_none_iff] at hfree
    exact fun m hm => (bne_iff_ne.mp (hfree m hm)).symm
  have hself : (t.nodes.filter fun m => m.1 ≠ l) = t.nodes :=
    List.filter_eq_self.mpr fun m hm => decide_eq_true (hnone m hm)
  show (⟨((l, n) :: t.nodes.filter fun m => m.1 ≠ l).filter fun m => m.1 ≠ l⟩ : FileTree) = t
  rw [hself, List.filter_cons_of_neg (by simp), hself]

/-- **A new file that is removed again** leaves no trace. -/
theorem remove_newFile {content : ByteArray} {new : FilePath} (hlast : path.getLast? ≠ some "")
    (h : t.newFile path content = .ok (new, t')) : t'.remove new = .ok t := by
  obtain ⟨dir, name, hdir, hname, hfit, hfree, rfl, rfl⟩ := newFile_eq_ok h
  have hne : dir ++ [FileName.ofText name] ≠ [] := by simp
  have hnone := find?_eq_none_of_not_mem hfree
  have hkeep : t.KeepsDirectories (t.put (dir ++ [FileName.ofText name]) (.file content)) :=
    keeps_put_file hne (by rw [hnone]; simp)
  rw [FilePath.child, if_neg hlast] at hfit ⊢
  have hat := at?_concat (at?_of_keeps hkeep hdir) hname hfit
  rw [find?_put t hne, if_pos rfl] at hat
  rw [remove, hat]
  show Except.ok ((t.put (dir ++ [FileName.ofText name]) (.file content)).drop
    (dir ++ [FileName.ofText name])) = .ok t
  rw [drop_put_of_free hne hnone]

end FileTree

end Redline
