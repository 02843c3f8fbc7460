/-
  The edit script — the walk back through the table, told without the table.

  `editScript xs ys` takes the old and the new lines from the last to the first and gives the lines
  of the alignment from the last to the first.  It decides by `lcs` of what is left, where
  `Table.walk` reads cells, and it numbers a line by how many lines are left, where the walk counts
  down.  `lines_align` says that the alignment is this script, read from its end; every property of
  an alignment is then an induction on the script, and the table never comes up again.

  The script is also where the rules of the walk can be read:

  * two equal lines are paired as soon as they meet;
  * of two different lines, the new one is added when leaving it out costs nothing
    (`lcs xs (y :: ys) ≤ lcs (x :: xs) ys`), and otherwise the old one is deleted;
  * where one side is used up, the other side is added or deleted as a whole.
-/
import Redline.Diff.Align
import Redline.Proofs.Diff.Table

namespace Redline.Diff

/-! ## The lines of a script -/

/-- A line that stands in both texts, at the places `i` and `j`. -/
def DiffLine.unchanged (content : String) (i j : Nat) : DiffLine :=
  ⟨.unchanged, content, some i, some j⟩

/-- A line that stands in the new text only, at the place `j`. -/
def DiffLine.added (content : String) (j : Nat) : DiffLine :=
  ⟨.added, content, none, some j⟩

/-- A line that stands in the old text only, at the place `i`. -/
def DiffLine.deleted (content : String) (i : Nat) : DiffLine :=
  ⟨.deleted, content, some i, none⟩

/-- The alignment of the old lines `xs` with the new lines `ys`, all read from the last line. -/
def editScript : List String → List String → List DiffLine
  | [], [] => []
  | [], y :: ys => .added y (ys.length + 1) :: editScript [] ys
  | x :: xs, [] => .deleted x (xs.length + 1) :: editScript xs []
  | x :: xs, y :: ys =>
    if x = y then .unchanged x (xs.length + 1) (ys.length + 1) :: editScript xs ys
    else if lcs xs (y :: ys) ≤ lcs (x :: xs) ys then
      .added y (ys.length + 1) :: editScript (x :: xs) ys
    else .deleted x (xs.length + 1) :: editScript xs (y :: ys)
termination_by xs ys => xs.length + ys.length

/-! ## The walk follows the script -/

/-- `t` answers for all that can be left of `xs` and `ys` on the way back. -/
def Table.Answers (t : Table) (xs ys : List String) : Prop :=
  ∀ xs' ys', xs' <:+ xs → ys' <:+ ys → t.cell xs'.length ys'.length = lcs xs' ys'

namespace Table.Answers

variable {t : Table} {xs ys : List String} {x y : String}

theorem tail_left (h : t.Answers (x :: xs) ys) : t.Answers xs ys :=
  fun xs' ys' hx hy => h xs' ys' (hx.trans (List.suffix_cons x xs)) hy

theorem tail_right (h : t.Answers xs (y :: ys)) : t.Answers xs ys :=
  fun xs' ys' hx hy => h xs' ys' hx (hy.trans (List.suffix_cons y ys))

/-- The two cells that decide between an added and a deleted line. -/
theorem cell_le_cell_iff (h : t.Answers (x :: xs) (y :: ys)) :
    t.cell xs.length (ys.length + 1) ≤ t.cell (xs.length + 1) ys.length
      ↔ lcs xs (y :: ys) ≤ lcs (x :: xs) ys := by
  have hup := h xs (y :: ys) (List.suffix_cons x xs) (List.suffix_refl _)
  have hleft := h (x :: xs) ys (List.suffix_refl _) (List.suffix_cons y ys)
  rw [List.length_cons] at hup hleft
  rw [hup, hleft]

end Table.Answers

/-- A table of two lists answers for both, read from the end. -/
theorem answers_build (old new : List String) :
    (Table.build old new).Answers old.reverse new.reverse := by
  intro xs ys hx hy
  have hxo : xs.reverse <+: old := List.reverse_suffix.mp (by rwa [List.reverse_reverse])
  have hyn : ys.reverse <+: new := List.reverse_suffix.mp (by rwa [List.reverse_reverse])
  have hi := hxo.length_le
  have hj := hyn.length_le
  have htx := List.prefix_iff_eq_take.mp hxo
  have hty := List.prefix_iff_eq_take.mp hyn
  rw [List.length_reverse] at hi hj htx hty
  rw [Table.cell_build hi hj, ← htx, ← hty, List.reverse_reverse, List.reverse_reverse]

/-- **The walk.**  It puts the script of what is left, in reading order, in front of what is
    done; the cases are those of the script, and the table is only asked in the last two. -/
theorem walk_eq {t : Table} {xs ys : List String} (ht : t.Answers xs ys) (done : List DiffLine) :
    t.walk xs.length xs ys.length ys done = (editScript xs ys).reverse ++ done := by
  fun_induction editScript xs ys generalizing done with
  | case1 =>
    rw [Table.walk]
    rfl
  | case2 y ys ih =>
    rw [Table.walk, List.reverse_cons, List.append_assoc]
    exact ih ht.tail_right _
  | case3 x xs ih =>
    rw [Table.walk, List.reverse_cons, List.append_assoc]
    exact ih ht.tail_left _
  | case4 xs y ys ih =>
    rw [Table.walk, if_pos rfl, List.reverse_cons, List.append_assoc]
    exact ih ht.tail_left.tail_right _
  | case5 x xs y ys hne hle ih =>
    -- The walk compares two cells, the script the numbers that stand in them.
    rw [Table.walk, if_neg hne, List.reverse_cons, List.append_assoc]
    simp only [List.length_cons, Nat.add_sub_cancel]
    rw [if_pos (ht.cell_le_cell_iff.mpr hle)]
    exact ih ht.tail_right _
  | case6 x xs y ys hne hle ih =>
    rw [Table.walk, if_neg hne, List.reverse_cons, List.append_assoc]
    simp only [List.length_cons, Nat.add_sub_cancel]
    rw [if_neg (mt ht.cell_le_cell_iff.mp hle)]
    exact ih ht.tail_left _

/-- **The alignment is the script**, read from its end. -/
theorem lines_align (old new : List String) :
    (align old new).lines = (editScript old.reverse new.reverse).reverse := by
  have hwalk := walk_eq (answers_build old new) []
  rw [List.length_reverse, List.length_reverse, List.append_nil] at hwalk
  exact hwalk

end Redline.Diff
