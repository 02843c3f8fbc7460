/-
  The cells of the table, and the access to them.

  1. **Neighbours** — a common subsequence of two lists without its first element is one of what is
     left of them, so one element more on both sides adds one at most (`lcs_le_succ`).  Cells that
     touch differ by one at most, whatever the direction (`cell_build_le_succ`).
  2. **The walk back** — `walk?` walks as `walk` does, but fails as soon as it reads outside of the
     table.  Rows and columns only go down on the way, so from a cell inside of the table every
     later one is inside too (`walk?_eq`).
  3. **The result** — filling and walking back never fail, the cells are what they are said to be,
     and the last one leaves exactly the room that the alignment takes (`build_exact`).
-/
import Redline.Proofs.Diff.Alignment

namespace Redline.Diff

/-! ## Neighbours -/

/-- One element more on both sides adds one at most. -/
theorem lcs_le_succ {α : Type} [DecidableEq α] {xs ys xs' ys' : List α}
    (hx : xs'.tail.Sublist xs) (hy : ys'.tail.Sublist ys) : lcs xs' ys' ≤ lcs xs ys + 1 := by
  obtain ⟨zs, hzx, hzy, hlen⟩ := exists_sublist_lcs xs' ys'
  have htail : zs.tail.length ≤ lcs xs ys :=
    length_le_lcs (hzx.tail.trans hx) (hzy.tail.trans hy)
  rw [List.length_tail] at htail
  omega

/-- A prefix that is longer by one element at most, without its last element. -/
theorem tail_reverse_take_sublist {β : Type} (l : List β) {i i' : Nat} (h : i' ≤ i + 1) :
    (l.take i').reverse.tail.Sublist (l.take i).reverse := by
  have hlen : (l.take i').length - 1 ≤ i := by
    rw [List.length_take]
    omega
  rw [List.tail_reverse, List.dropLast_eq_take, List.take_take]
  refine (List.Sublist.reverse ?_)
  exact (List.take_prefix_take_left (by omega)).sublist

namespace Table

/-- **Neighbours.**  A cell is larger by one at most than every cell from the row above it and the
    column to its left on. -/
theorem cell_build_le_succ {α : Type} [DecidableEq α] {xs ys : List α} {i j i' j' : Nat}
    (hi : i ≤ xs.length) (hj : j ≤ ys.length) (hi' : i' ≤ xs.length) (hj' : j' ≤ ys.length)
    (hrow : i' ≤ i + 1) (hcolumn : j' ≤ j + 1) :
    (build xs ys).cell i' j' ≤ (build xs ys).cell i j + 1 := by
  rw [cell_build hi hj, cell_build hi' hj']
  exact lcs_le_succ (tail_reverse_take_sublist xs hrow) (tail_reverse_take_sublist ys hcolumn)

/-! ## The walk back -/

/-- `Table.walk` with every access checked. -/
def walk? (t : Table) (i : Nat) (xs : List String) (j : Nat) (ys : List String)
    (done : List DiffLine) : Option (List DiffLine) :=
  match xs, ys with
  | [], [] => some done
  | [], y :: ys => t.walk? i [] (j - 1) ys (⟨.added, y, none, some j⟩ :: done)
  | x :: xs, [] => t.walk? (i - 1) xs j [] (⟨.deleted, x, some i, none⟩ :: done)
  | x :: xs, y :: ys =>
    if x = y then
      t.walk? (i - 1) xs (j - 1) ys (⟨.unchanged, x, some i, some j⟩ :: done)
    else do
      let left ← t.read? t.cell i (j - 1)
      let above ← t.read? t.cell (i - 1) j
      if above ≤ left then
        t.walk? i (x :: xs) (j - 1) ys (⟨.added, y, none, some j⟩ :: done)
      else
        t.walk? (i - 1) xs j (y :: ys) (⟨.deleted, x, some i, none⟩ :: done)
termination_by xs.length + ys.length

/-- A cell that lies inside of the table may be read. -/
theorem read?_cell {t : Table} {i j : Nat} (h : t.Inside i j) :
    t.read? t.cell i j = some (t.cell i j) := by
  unfold read?
  rw [if_pos ⟨h, rfl⟩]

/-- **The walk stays inside of the table**, wherever in it it begins. -/
theorem walk?_eq {t : Table} {i j : Nat} {xs ys : List String} {done : List DiffLine}
    (ht : ∀ i' ≤ i, ∀ j' ≤ j, t.Inside i' j') :
    t.walk? i xs j ys done = some (t.walk i xs j ys done) := by
  fun_induction walk t i xs j ys done with
  | case1 => rw [walk?]
  | case2 i j done y ys ih =>
    rw [walk?]
    exact ih fun i' hi j' hj => ht i' hi j' (by omega)
  | case3 i j done x xs ih =>
    rw [walk?]
    exact ih fun i' hi j' hj => ht i' (by omega) j' hj
  | case4 i j done xs y ys ih =>
    rw [walk?, if_pos rfl]
    exact ih fun i' hi j' hj => ht i' (by omega) j' (by omega)
  | case5 i j done x xs y ys hne hle ih =>
    -- The two cells that are compared lie above and to the left of where the walk is.
    have hleft := read?_cell (ht i (Nat.le_refl i) (j - 1) (by omega))
    have habove := read?_cell (ht (i - 1) (by omega) j (Nat.le_refl j))
    rw [walk?, if_neg hne, hleft, habove]
    show (if t.cell (i - 1) j ≤ t.cell i (j - 1) then _ else _) = _
    rw [if_pos hle]
    exact ih fun i' hi j' hj => ht i' hi j' (by omega)
  | case6 i j done x xs y ys hne hle ih =>
    have hleft := read?_cell (ht i (Nat.le_refl i) (j - 1) (by omega))
    have habove := read?_cell (ht (i - 1) (by omega) j (Nat.le_refl j))
    rw [walk?, if_neg hne, hleft, habove]
    show (if t.cell (i - 1) j ≤ t.cell i (j - 1) then _ else _) = _
    rw [if_neg hle]
    exact ih fun i' hi j' hj => ht i' (by omega) j' hj

/-! ## The table of two texts -/

/-- The last cell is the number of lines that both texts share in their alignment. -/
theorem length_build (old new : List String) :
    (build old new).length = (align old new).unchanged := by
  have hfilled := filled_build old new
  unfold length
  rw [hfilled.height_eq, hfilled.width_eq, Nat.add_sub_cancel, Nat.add_sub_cancel,
    cell_build (Nat.le_refl _) (Nat.le_refl _), List.take_length, List.take_length, lcs_reverse,
    unchanged_align]

/-- **The table is exact.**  Its cells are the greatest lengths of common subsequences of the
    prefixes; it is filled and walked back through without an access outside of it, and without a
    read of a cell that is not yet final; cells that touch differ by one at most; and its last cell
    leaves, of the lines of both texts, the room that their alignment takes. -/
theorem build_exact (old new : List String) :
    (∀ i ≤ old.length, ∀ j ≤ new.length,
      IsGreatest (Set.range (Pairing.length : Pairing (old.take i) (new.take j) → Nat))
        ((build old new).cell i j)) ∧
    build? (build old new).cell old new = some (build old new) ∧
    (build old new).walk? old.length old.reverse new.length new.reverse []
      = some (align old new).lines ∧
    (∀ i ≤ old.length, ∀ j ≤ new.length, ∀ i' ≤ old.length, ∀ j' ≤ new.length,
      i' ≤ i + 1 → j' ≤ j + 1 → (build old new).cell i' j' ≤ (build old new).cell i j + 1) ∧
    (build old new).length ≤ old.length + new.length ∧
    old.length + new.length - (build old new).length = (align old new).length := by
  have hroom := (wellFormed_align old new).length_add_unchanged
  have hlast := length_build old new
  refine ⟨fun i hi j hj => ?_, ?_, ?_, ?_, by omega, by omega⟩
  · rw [cell_build hi hj, lcs_reverse]
    exact isGreatest_lcs _ _
  · exact (checked_build _ fun i hi j hj => cell_build hi hj).1
  · exact walk?_eq fun i hi j hj => (filled_build old new).inside hi hj
  · exact fun i hi j hj i' hi' j' hj' hrow hcolumn =>
      cell_build_le_succ hi hj hi' hj' hrow hcolumn

example : (build ["a", "b"] ["b", "a"]).cells = #[0, 0, 0, 0, 0, 1, 0, 1, 1] := by decide

end Table

end Redline.Diff
