/-
  Common subsequences of two lists, and the greatest length that one can have.

  1. **Pairings** — a common subsequence as it is usually drawn: positions in the one list and
     positions in the other, each strictly increasing, with equal elements at positions that belong
     together.  A pairing of length `k` is the same as a list of length `k` that is a sublist of
     both (`Pairing.exists_sublist`, `exists_pairing`).

  2. **`lcs`** — the recurrence on the two FIRST elements, without any table.  It is a pair of
     facts: some common sublist has the length `lcs xs ys` (`exists_sublist_lcs`), and none is
     longer (`length_le_lcs`).  Together they say that `lcs xs ys` is the greatest length of a
     pairing (`isGreatest_lcs`).

  3. **Reading backwards** — the greatest length does not depend on the end from which both lists
     are read (`lcs_reverse`), so the table, which grows at the end of its prefixes, and the walk
     back through it speak of the same number.
-/
import Mathlib.Data.List.Basic
import Mathlib.Order.Bounds.Basic

namespace Redline.Diff

variable {α : Type}

/-! ## Pairings -/

/-- A common subsequence of `xs` and `ys`, by the positions of its elements. -/
structure Pairing (xs ys : List α) where
  left : List (Fin xs.length)
  right : List (Fin ys.length)
  left_strict : left.Pairwise (· < ·)
  right_strict : right.Pairwise (· < ·)
  agree : left.map (fun i => xs[i]) = right.map (fun j => ys[j])

namespace Pairing

/-- How many elements a pairing has. -/
def length {xs ys : List α} (p : Pairing xs ys) : Nat :=
  p.left.length

/-- The elements of a pairing stand in both lists, in order. -/
theorem exists_sublist {xs ys : List α} (p : Pairing xs ys) :
    ∃ zs : List α, zs.Sublist xs ∧ zs.Sublist ys ∧ zs.length = p.length := by
  refine ⟨p.left.map (fun i => xs[i]), List.map_getElem_sublist p.left_strict, ?_,
    List.length_map _⟩
  rw [p.agree]
  exact List.map_getElem_sublist p.right_strict

end Pairing

/-- A list that is a sublist of both lists is the list of the elements of a pairing. -/
theorem exists_pairing {xs ys zs : List α} (hx : zs.Sublist xs) (hy : zs.Sublist ys) :
    ∃ p : Pairing xs ys, p.length = zs.length := by
  obtain ⟨left, hleft, hls⟩ := List.sublist_eq_map_getElem hx
  obtain ⟨right, hright, hrs⟩ := List.sublist_eq_map_getElem hy
  refine ⟨⟨left, right, hls, hrs, hleft.symm.trans hright⟩, ?_⟩
  show left.length = zs.length
  rw [hleft, List.length_map]

/-! ## The recurrence -/

variable [DecidableEq α]

/-- The greatest length of a common subsequence of `xs` and `ys`. -/
def lcs : List α → List α → Nat
  | [], _ => 0
  | _ :: _, [] => 0
  | x :: xs, y :: ys => if x = y then lcs xs ys + 1 else max (lcs xs (y :: ys)) (lcs (x :: xs) ys)
termination_by xs ys => xs.length + ys.length

@[simp] theorem lcs_nil_left (ys : List α) : lcs [] ys = 0 := by rw [lcs]

@[simp] theorem lcs_nil_right (xs : List α) : lcs xs [] = 0 := by
  cases xs with
  | nil => rw [lcs]
  | cons x xs => rw [lcs]

theorem lcs_cons_self (x : α) (xs ys : List α) : lcs (x :: xs) (x :: ys) = lcs xs ys + 1 := by
  rw [lcs, if_pos rfl]

theorem lcs_cons_of_ne {x y : α} (h : x ≠ y) (xs ys : List α) :
    lcs (x :: xs) (y :: ys) = max (lcs xs (y :: ys)) (lcs (x :: xs) ys) := by
  rw [lcs, if_neg h]

/-- **Achievability.**  Some list of the length `lcs xs ys` is a sublist of both lists. -/
theorem exists_sublist_lcs (xs ys : List α) :
    ∃ zs : List α, zs.Sublist xs ∧ zs.Sublist ys ∧ zs.length = lcs xs ys := by
  fun_induction lcs xs ys with
  | case1 ys => exact ⟨[], List.nil_sublist _, List.nil_sublist _, rfl⟩
  | case2 x xs => exact ⟨[], List.nil_sublist _, List.nil_sublist _, rfl⟩
  | case3 xs y ys ih =>
    obtain ⟨zs, hx, hy, hlen⟩ := ih
    exact ⟨y :: zs, hx.cons_cons y, hy.cons_cons y, by rw [List.length_cons, hlen]⟩
  | case4 x xs y ys hne ihx ihy =>
    rcases Nat.le_total (lcs xs (y :: ys)) (lcs (x :: xs) ys) with hle | hle
    · obtain ⟨zs, hx, hy, hlen⟩ := ihy
      exact ⟨zs, hx, hy.cons y, by rw [hlen, Nat.max_eq_right hle]⟩
    · obtain ⟨zs, hx, hy, hlen⟩ := ihx
      exact ⟨zs, hx.cons x, hy, by rw [hlen, Nat.max_eq_left hle]⟩

/-- **Domination.**  No list that is a sublist of both lists is longer than `lcs xs ys`. -/
theorem length_le_lcs {xs ys zs : List α} (hx : zs.Sublist xs) (hy : zs.Sublist ys) :
    zs.length ≤ lcs xs ys := by
  fun_induction lcs xs ys generalizing zs with
  | case1 ys => rw [List.sublist_nil.mp hx, List.length_nil]
  | case2 x xs => rw [List.sublist_nil.mp hy, List.length_nil]
  | case3 xs y ys ih =>
    -- Whatever the first element of `zs` is, what follows it is common to the two rests.
    have htail := ih hx.tail hy.tail
    rw [List.length_tail] at htail
    omega
  | case4 x xs y ys hne ihx ihy =>
    cases zs with
    | nil => exact Nat.zero_le _
    | cons z zs =>
      by_cases hz : z = x
      · have hzy : z ≠ y := hz ▸ hne
        have hle := ihy hx (List.Sublist.of_cons_of_ne hzy hy)
        omega
      · have hle := ihx (List.Sublist.of_cons_of_ne hz hx) hy
        omega

/-- More elements make no common subsequence shorter. -/
theorem lcs_le_lcs {xs xs' ys ys' : List α} (hx : xs'.Sublist xs) (hy : ys'.Sublist ys) :
    lcs xs' ys' ≤ lcs xs ys := by
  obtain ⟨zs, hzx, hzy, hlen⟩ := exists_sublist_lcs xs' ys'
  rw [← hlen]
  exact length_le_lcs (hzx.trans hx) (hzy.trans hy)

/-- One element more on the left side makes no common subsequence shorter. -/
theorem lcs_le_lcs_cons (x : α) (xs ys : List α) : lcs xs ys ≤ lcs (x :: xs) ys :=
  lcs_le_lcs (List.sublist_cons_self x xs) (List.Sublist.refl ys)

/-- Lists that share no element have no common subsequence but the empty one. -/
theorem lcs_eq_zero {xs ys : List α} (h : ∀ x ∈ xs, x ∉ ys) : lcs xs ys = 0 := by
  obtain ⟨zs, hx, hy, hlen⟩ := exists_sublist_lcs xs ys
  cases zs with
  | nil => exact hlen.symm
  | cons z zs => exact absurd (hy.subset List.mem_cons_self) (h z (hx.subset List.mem_cons_self))

/-- `lcs xs ys` is the greatest length of a common subsequence. -/
theorem isGreatest_lcs (xs ys : List α) :
    IsGreatest (Set.range (Pairing.length : Pairing xs ys → Nat)) (lcs xs ys) := by
  constructor
  · obtain ⟨zs, hx, hy, hlen⟩ := exists_sublist_lcs xs ys
    obtain ⟨p, hp⟩ := exists_pairing hx hy
    exact ⟨p, hp.trans hlen⟩
  · rintro k ⟨p, rfl⟩
    obtain ⟨zs, hx, hy, hlen⟩ := p.exists_sublist
    rw [← hlen]
    exact length_le_lcs hx hy

/-! ## Reading backwards -/

theorem lcs_le_lcs_reverse (xs ys : List α) : lcs xs ys ≤ lcs xs.reverse ys.reverse := by
  obtain ⟨zs, hx, hy, hlen⟩ := exists_sublist_lcs xs ys
  rw [← hlen, ← List.length_reverse]
  exact length_le_lcs hx.reverse hy.reverse

/-- Both lists may be read from the other end. -/
theorem lcs_reverse (xs ys : List α) : lcs xs.reverse ys.reverse = lcs xs ys := by
  apply Nat.le_antisymm
  · have hle := lcs_le_lcs_reverse xs.reverse ys.reverse
    rwa [List.reverse_reverse, List.reverse_reverse] at hle
  · exact lcs_le_lcs_reverse xs ys

end Redline.Diff
