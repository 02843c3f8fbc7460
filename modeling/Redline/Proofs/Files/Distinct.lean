/-
  Trees in which no location is listed twice.

  A tree is a list of nodes with their locations, so a list with two nodes at one location is a tree
  too: a look-up finds the first of them, and a directory lists the name twice.  No file system has
  such a state.

  1. **Nodes** — the empty tree has none twice, and `put` and `drop`, of which all operations are
     made, leave every location with one node (`Distinct.put`, `Distinct.drop`).
  2. **Names** — then a directory lists each name once (`Distinct.nodup_children`), before and after
     a file in it is replaced.
-/
import Redline.Proofs.Files.Operations

namespace Redline

namespace FileTree

variable {t t' : FileTree} {path : FilePath} {l : Location}

/-- No two nodes of the tree are at one location. -/
def Distinct (t : FileTree) : Prop :=
  (t.nodes.map Prod.fst).Nodup

/-! ## Nodes -/

theorem distinct_empty : empty.Distinct :=
  List.nodup_nil

theorem Distinct.drop (h : t.Distinct) (l : Location) : (t.drop l).Distinct :=
  (List.filter_sublist.map Prod.fst).nodup h

/-- To put a node somewhere takes away what stood there. -/
theorem Distinct.put (h : t.Distinct) (l : Location) (n : Node) : (t.put l n).Distinct := by
  rw [Distinct, FileTree.put, List.map_cons, List.nodup_cons]
  refine ⟨fun hmem => ?_, h.drop l⟩
  obtain ⟨node, hnode, hl⟩ := List.mem_map.mp hmem
  have hne : node.1 ≠ l := of_decide_eq_true (List.mem_filter.mp hnode).2
  exact hne hl

/-! ## Names -/

/-- **A directory lists each name once.** -/
theorem Distinct.nodup_children (h : t.Distinct) (dir : Location) : (t.children dir).Nodup := by
  rw [Distinct, List.Nodup, List.pairwise_map] at h
  rw [children_eq, List.Nodup, List.pairwise_filterMap]
  refine h.imp fun {node node'} hne name hname name' hname' heq => hne ?_
  rw [nameIn?_eq_some_iff.mp hname, nameIn?_eq_some_iff.mp hname', heq]

/-- To replace a file that is there makes no difference but to the order of the names. -/
theorem Distinct.perm_children_replaced {dir : Location} {temporary name : FileName}
    {content : ByteArray} (h : t.Distinct) (hfree : temporary ∉ t.children dir)
    (hmem : name ∈ t.children dir) :
    ((t.replaced dir temporary name content).children dir).Perm (t.children dir) := by
  have hperm := List.perm_cons_erase hmem
  rw [(h.nodup_children dir).erase_eq_filter] at hperm
  have hothers : (t.children dir).filter (· != name) = (t.children dir).filter (· ≠ name) := by
    refine List.filter_congr fun x _ => ?_
    rw [Bool.eq_iff_iff, bne_iff_ne, decide_eq_true_iff]
  rw [children_replaced hfree, ← hothers]
  exact hperm.symm

end FileTree

end Redline
