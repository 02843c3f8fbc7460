/-
  Blocks of changes — all deletions come before all additions.

  The walk back through the table chooses between an added and a deleted line at each step, from two
  cells, so the shape of a whole block cannot be seen in any one step.

  1. **The crux (`head_editScript_ne_added`)** — the script deletes `x` only where leaving `x` out
     gives a strictly longer common subsequence than leaving the new line `y` out.  Then `y` is
     needed, and it stays needed: until a line is met that is paired with it, the script goes on
     deleting.  So, read from the end, no added line comes right after a deleted one.

  2. **From neighbours to blocks** — kinds without `unchanged`, in which `added` is never followed
     by `deleted`, are some `deleted` and then some `added` (`eq_replicate_of_isChain`).  The same
     fact serves for the lines of a block and for its runs, where neighbours also differ.
-/
import Redline.Proofs.Diff.Alignment
import Redline.Proofs.Diff.Run

namespace Redline.Diff

/-- Not an addition with a deletion right behind it. -/
def ChangeKind.InOrder (k k' : ChangeKind) : Prop :=
  ¬ (k = .added ∧ k' = .deleted)

/-! ## The script -/

/-- **The crux.**  Where the new line `y` is needed for a longest common subsequence, the script
    does not begin with adding it. -/
theorem head_editScript_ne_added {x y : String} {xs ys : List String}
    (h : lcs (x :: xs) ys < lcs xs (y :: ys)) :
    ∀ k ∈ ((editScript xs (y :: ys)).map DiffLine.kind).head?, k ≠ .added := by
  cases xs with
  | nil =>
    rw [lcs_nil_left] at h
    exact absurd h (Nat.not_lt_zero _)
  | cons x' xs =>
    rw [editScript]
    by_cases hxy : x' = y
    · rw [if_pos hxy]
      rintro k ⟨⟩ hbad
      cases hbad
    · -- A longest common subsequence with `y` does not use `x'`, so `x'` is deleted as well.
      have hcost : lcs (x' :: xs) ys < lcs xs (y :: ys) := by
        have hmono := lcs_le_lcs_cons x (x' :: xs) ys
        rw [lcs_cons_of_ne hxy] at h
        omega
      rw [if_neg hxy, if_neg (Nat.not_le_of_lt hcost)]
      rintro k ⟨⟩ hbad
      cases hbad

/-- Where the new side is used up, nothing is added any more. -/
theorem head_editScript_nil_ne_added (xs : List String) :
    ∀ k ∈ ((editScript xs []).map DiffLine.kind).head?, k ≠ .added := by
  cases xs with
  | nil =>
    rw [editScript]
    intro k hk
    cases hk
  | cons x xs =>
    rw [editScript]
    rintro k ⟨⟩ hbad
    cases hbad

/-- Whatever stands in front of a line that is not deleted, the two are in order. -/
theorem inOrder_of_ne_deleted {k : ChangeKind} (h : k ≠ .deleted) (k' : ChangeKind) :
    ChangeKind.InOrder k' k :=
  fun hk => h hk.2

/-- In a script, which is read from the end, no added line comes right after a deleted one. -/
theorem isChain_editScript (xs ys : List String) :
    ((editScript xs ys).map DiffLine.kind).IsChain fun k k' => ChangeKind.InOrder k' k := by
  fun_induction editScript xs ys with
  | case1 => exact .nil
  | case2 y ys ih =>
    exact List.isChain_cons.mpr ⟨fun k _ => inOrder_of_ne_deleted ChangeKind.noConfusion k, ih⟩
  | case3 x xs ih =>
    exact List.isChain_cons.mpr
      ⟨fun k hk hbad => head_editScript_nil_ne_added xs k hk hbad.1, ih⟩
  | case4 xs y ys ih =>
    exact List.isChain_cons.mpr ⟨fun k _ => inOrder_of_ne_deleted ChangeKind.noConfusion k, ih⟩
  | case5 x xs y ys _ _ ih =>
    exact List.isChain_cons.mpr ⟨fun k _ => inOrder_of_ne_deleted ChangeKind.noConfusion k, ih⟩
  | case6 x xs y ys _ hle ih =>
    have hcost : lcs (x :: xs) ys < lcs xs (y :: ys) := by omega
    exact List.isChain_cons.mpr
      ⟨fun k hk hbad => head_editScript_ne_added hcost k hk hbad.1, ih⟩

/-- In an alignment, no added line is followed at once by a deleted one. -/
theorem isChain_kinds_align (old new : List String) :
    (align old new).kinds.IsChain ChangeKind.InOrder := by
  rw [Alignment.kinds, lines_align, List.map_reverse, List.isChain_reverse]
  exact isChain_editScript old.reverse new.reverse

/-! ## Blocks -/

/-- **From neighbours to blocks.**  Changes in order are some deletions and then some additions. -/
theorem eq_replicate_of_isChain {ks : List ChangeKind} (h : ks.IsChain ChangeKind.InOrder)
    (hne : ∀ k ∈ ks, k ≠ .unchanged) :
    ks = List.replicate (ks.count .deleted) .deleted ++ List.replicate (ks.count .added) .added := by
  induction ks with
  | nil => rfl
  | cons k ks ih =>
    rw [List.isChain_cons] at h
    rw [List.forall_mem_cons] at hne
    have hks := ih h.2 hne.2
    cases k with
    | unchanged => exact absurd rfl hne.1
    | deleted =>
      rw [List.count_cons_self, List.count_cons_of_ne (by decide), List.replicate_succ,
        List.cons_append, ← hks]
    | added =>
      -- Nothing can be deleted behind an addition.
      have hzero : ks.count .deleted = 0 := by
        cases ks with
        | nil => rfl
        | cons k ks =>
          have hk := h.1 k rfl
          cases hcount : (k :: ks).count .deleted with
          | zero => rfl
          | succ n =>
            rw [hcount, List.replicate_succ, List.cons_append] at hks
            exact absurd ⟨rfl, (List.cons.inj hks).1⟩ hk
      rw [hzero, List.replicate_zero, List.nil_append] at hks
      rw [List.count_cons_self, List.count_cons_of_ne (by decide), hzero, List.replicate_zero,
        List.nil_append, List.replicate_succ, ← hks]

/-- One kind, repeated, is next to itself from the second time on. -/
theorem le_one_of_isChain_replicate {R : ChangeKind → ChangeKind → Prop} {k : ChangeKind}
    (hR : ¬ R k k) {n : Nat} (h : (List.replicate n k).IsChain R) : n ≤ 1 := by
  match n with
  | 0 => exact Nat.zero_le 1
  | 1 => exact Nat.le_refl 1
  | n + 2 =>
    rw [List.replicate_succ, List.replicate_succ, List.isChain_cons_cons] at h
    exact absurd h.1 hR

/-- Changes in order that differ from their neighbours: one deletion at most, and behind it one
    addition at most. -/
theorem sublist_of_isChain {ks : List ChangeKind}
    (h : ks.IsChain fun k k' => k ≠ k' ∧ ChangeKind.InOrder k k') (hne : ∀ k ∈ ks, k ≠ .unchanged) :
    ks.Sublist [.deleted, .added] := by
  have hks := eq_replicate_of_isChain (h.imp fun _ _ hk => hk.2) hne
  rw [hks, List.isChain_append] at h
  have hdel := le_one_of_isChain_replicate (fun hk => hk.1 rfl) h.1
  have hadd := le_one_of_isChain_replicate (fun hk => hk.1 rfl) h.2.1
  rw [hks]
  exact ((List.replicate_sublist_replicate _).mpr hdel).append
    ((List.replicate_sublist_replicate _).mpr hadd)

/-- **Deletions come first.**  In an alignment no added line is followed at once by a deleted one; so
    neighbouring lines that are all changed are deletions and then additions, texts without a common
    line are deleted as a whole and then added as a whole, and between two unchanged runs there is
    one deleted run at most, and behind it one added run at most. -/
theorem align_deletions_first (old new : List String) :
    ((align old new).kinds.IsChain fun k k' => ¬ (k = .added ∧ k' = .deleted)) ∧
    (∀ block, block <:+: (align old new).lines → (∀ l ∈ block, l.kind ≠ .unchanged) →
      ∃ deletions additions, block = deletions ++ additions ∧
        (∀ l ∈ deletions, l.kind = .deleted) ∧ ∀ l ∈ additions, l.kind = .added) ∧
    ((∀ x ∈ old, x ∉ new) →
      (align old new).kinds
        = List.replicate old.length .deleted ++ List.replicate new.length .added) ∧
    ∀ block, block <:+: (align old new).runs → (∀ r ∈ block, r.kind ≠ .unchanged) →
      (block.map Run.kind).Sublist [.deleted, .added] := by
  have hchain := isChain_kinds_align old new
  refine ⟨hchain, ?_, ?_, ?_⟩
  · intro block hblock hne
    have hblockChain := List.IsChain.infix hchain (hblock.map DiffLine.kind)
    have hkinds := eq_replicate_of_isChain hblockChain (List.forall_mem_map.mpr hne)
    obtain ⟨deletions, additions, hsplit, hdel, hadd⟩ := List.map_eq_append_iff.mp hkinds
    refine ⟨deletions, additions, hsplit, ?_, ?_⟩
    · exact fun l hl => List.eq_of_mem_replicate (hdel ▸ List.mem_map_of_mem hl)
    · exact fun l hl => List.eq_of_mem_replicate (hadd ▸ List.mem_map_of_mem hl)
  · intro hdisjoint
    have hzero : (align old new).unchanged = 0 := by
      rw [unchanged_align, lcs_eq_zero hdisjoint]
    have hwf := wellFormed_align old new
    have hdel := (align old new).length_oldLines
    have hadd := (align old new).length_newLines
    rw [hwf.oldLines_eq, hzero, Nat.zero_add] at hdel
    rw [hwf.newLines_eq, hzero, Nat.zero_add] at hadd
    rw [hdel, hadd]
    exact eq_replicate_of_isChain hchain fun k hk hbad =>
      List.count_eq_zero.mp hzero (hbad ▸ hk)
  · intro block hblock hne
    have hblockChain := List.IsChain.infix (isChain_kind_runs hchain) (hblock.map Run.kind)
    exact sublist_of_isChain hblockChain (List.forall_mem_map.mpr hne)

/-- Two lines are replaced by one, in front of a line that stays. -/
theorem align_deletions_first_replacement :
    (∃ deletions additions : List DiffLine,
      [.deleted "a" 1, .deleted "b" 2, .added "x" 1] = deletions ++ additions ∧
        (∀ l ∈ deletions, l.kind = .deleted) ∧ ∀ l ∈ additions, l.kind = .added) ∧
    (align ["a", "b"] ["x"]).kinds = [.deleted, .deleted, .added] ∧
    ([⟨.deleted, 0, 0, 2⟩, ⟨.added, 2, 0, 1⟩].map Run.kind).Sublist [.deleted, .added] := by
  have hlines : (align ["a", "b", "c"] ["x", "c"]).lines
      = [.deleted "a" 1, .deleted "b" 2, .added "x" 1] ++ [.unchanged "c" 3 2] := by cbv
  have hruns : (align ["a", "b", "c"] ["x", "c"]).runs
      = [⟨.deleted, 0, 0, 2⟩, ⟨.added, 2, 0, 1⟩] ++ [⟨.unchanged, 2, 1, 1⟩] := by cbv
  refine ⟨?_, ?_, ?_⟩
  · exact (align_deletions_first ["a", "b", "c"] ["x", "c"]).2.1 _
      (hlines ▸ (List.prefix_append _ _).isInfix) (by decide)
  · exact (align_deletions_first ["a", "b"] ["x"]).2.2.1 (by decide)
  · exact (align_deletions_first ["a", "b", "c"] ["x", "c"]).2.2.2 _
      (hruns ▸ (List.prefix_append _ _).isInfix) (by decide)

end Redline.Diff
