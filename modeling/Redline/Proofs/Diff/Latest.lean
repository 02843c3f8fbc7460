/-
  The lines that are kept — which of the longest common subsequences an alignment shows.

  Two texts may have many longest common subsequences.  The walk back pairs two equal lines as soon
  as they meet and leaves out a new line wherever that costs nothing, so the old lines that it keeps
  are the last ones that can be kept:

  1. `Chosen xs ys is js` — a common subsequence by the places of its elements, read from the end as
     the script reads.  It is a pairing, told backwards (`Pairing.chosen`, `Chosen.exists_pairing`),
     and the lines that an alignment keeps are one (`Aligns.chosen`).
  2. **Staying ahead** (`Rival.forall₂_keptOld`) — a longest choice has each of its old lines no later
     than the script has it.  The induction on the script carries more, for once the two have
     parted they have different lines left: a rival may have fewer old lines left than the script
     and more new lines, as long as these let it choose no more than the script can.
  3. `align_keeps_latest` — the same for pairings and alignments.
-/
import Redline.Proofs.Diff.Alignment
import Mathlib.Data.List.Forall2
import Mathlib.Data.List.Induction

namespace Redline.Diff

/-! ## Places of common elements -/

/-- `xs` and `ys` have equal elements at the places `is` and `js`.  All four are read from the end,
    and the place of an element is the number of those that are left with it. -/
inductive Chosen {α : Type} : List α → List α → List Nat → List Nat → Prop where
  | none {xs ys : List α} : Chosen xs ys [] []
  | pair {xs ys xs' ys' : List α} {is js : List Nat} {z : α} : z :: xs' <:+ xs → z :: ys' <:+ ys →
      Chosen xs' ys' is js → Chosen xs ys ((xs'.length + 1) :: is) ((ys'.length + 1) :: js)

section Chosen

variable {α : Type} {xs ys xs' ys' : List α} {is js : List Nat}

/-- What is chosen can be chosen among more elements. -/
theorem Chosen.mono (h : Chosen xs' ys' is js) (hx : xs' <:+ xs) (hy : ys' <:+ ys) :
    Chosen xs ys is js := by
  cases h with
  | none => exact .none
  | pair hx' hy' hrest => exact .pair (hx'.trans hx) (hy'.trans hy) hrest

theorem suffix_of_cons_suffix_cons {x z : α} (h : z :: xs' <:+ x :: xs) : xs' <:+ xs := by
  rcases List.suffix_cons_iff.mp h with heq | hsuffix
  · obtain ⟨-, rfl⟩ := List.cons.inj heq
    exact List.suffix_refl _
  · exact (List.suffix_cons z xs').trans hsuffix

variable [DecidableEq α]

/-- Less can be chosen behind a pair than with it. -/
theorem lcs_lt_of_suffix {z : α} (hx : z :: xs' <:+ xs) (hy : z :: ys' <:+ ys) :
    lcs xs' ys' < lcs xs ys := by
  have hle := lcs_le_lcs hx.sublist hy.sublist
  rw [lcs_cons_self] at hle
  omega

/-- No more can be chosen than a longest common subsequence has. -/
theorem Chosen.length_le_lcs (h : Chosen xs ys is js) : is.length ≤ lcs xs ys := by
  induction h with
  | none => exact Nat.zero_le _
  | pair hx hy _ ih =>
    have hlt := lcs_lt_of_suffix hx hy
    rw [List.length_cons]
    omega

end Chosen

/-! ## Pairings, read from the end -/

section Pairings

variable {α : Type} {xs ys : List α}

namespace Pairing

/-- The numbers of the elements of a pairing on the left side. -/
def oldNumbers (p : Pairing xs ys) : List Nat :=
  p.left.map (·.val + 1)

/-- The numbers of the elements of a pairing on the right side. -/
def newNumbers (p : Pairing xs ys) : List Nat :=
  p.right.map (·.val + 1)

end Pairing

theorem cons_suffix_reverse_take {i a : Nat} (hi : i < xs.length) (ha : i < a) :
    xs[i] :: (xs.take i).reverse <:+ (xs.take a).reverse := by
  have hsplit : xs[i] :: (xs.take i).reverse = (xs.take (i + 1)).reverse := by
    rw [List.take_succ_eq_append_getElem hi, List.reverse_append]
    rfl
  rw [hsplit, List.reverse_suffix]
  exact List.take_prefix_take_left ha

/-- A pairing of two prefixes is a choice in them, by induction on its last pair. -/
theorem chosen_of_pairwise (left : List (Fin xs.length)) : ∀ (right : List (Fin ys.length))
    (a b : Nat), left.Pairwise (· < ·) → right.Pairwise (· < ·) →
    left.map xs.get = right.map ys.get →
    (∀ i ∈ left, i.val < a) → (∀ j ∈ right, j.val < b) →
    Chosen (xs.take a).reverse (ys.take b).reverse (left.map (·.val + 1)).reverse
      (right.map (·.val + 1)).reverse := by
  induction left using List.reverseRecOn with
  | nil =>
    intro right a b _ _ hagree _ _
    rw [List.map_eq_nil_iff.mp hagree.symm]
    exact .none
  | append_singleton left i ih =>
    intro right a b hleft hright hagree ha hb
    rcases List.eq_nil_or_concat' right with rfl | ⟨right, j, rfl⟩
    · simp at hagree
    · rw [List.map_append, List.map_append] at hagree
      obtain ⟨hfront, hlast⟩ := List.append_inj' hagree rfl
      rw [List.pairwise_append] at hleft hright
      have hrest := ih right i.val j.val hleft.1 hright.1 hfront
        (fun k hk => hleft.2.2 k hk i (List.mem_singleton_self i))
        (fun k hk => hright.2.2 k hk j (List.mem_singleton_self j))
      have hx := cons_suffix_reverse_take i.isLt (ha i (by simp))
      have hy := cons_suffix_reverse_take j.isLt (hb j (by simp))
      have hij : xs[i.val] = ys[j.val] := (List.cons.inj hlast).1
      rw [hij] at hx
      have hpair := Chosen.pair hx hy hrest
      simpa only [List.length_reverse, List.length_take, Nat.min_eq_left i.isLt.le,
        Nat.min_eq_left j.isLt.le, List.map_append, List.map_singleton, List.reverse_append,
        List.reverse_singleton, List.singleton_append] using hpair

/-- **A pairing is a choice**, read from the end. -/
theorem Pairing.chosen (p : Pairing xs ys) :
    Chosen xs.reverse ys.reverse p.oldNumbers.reverse p.newNumbers.reverse := by
  have h := chosen_of_pairwise p.left p.right xs.length ys.length p.left_strict p.right_strict
    p.agree (fun i _ => i.isLt) (fun j _ => j.isLt)
  rwa [List.take_length, List.take_length] at h

/-- The places of a prefix, and the place behind it. -/
def placesBehind {xs' : List α} (h : xs'.length < xs.length) (left : List (Fin xs'.length)) :
    List (Fin xs.length) :=
  left.map (Fin.castLE h.le) ++ [⟨xs'.length, h⟩]

section PlacesBehind

variable {xs' : List α} {z : α}

theorem pairwise_placesBehind (h : xs'.length < xs.length) {left : List (Fin xs'.length)}
    (hleft : left.Pairwise (· < ·)) : (placesBehind h left).Pairwise (· < ·) := by
  rw [placesBehind, List.pairwise_append, List.pairwise_map]
  refine ⟨hleft, List.pairwise_singleton _ _, ?_⟩
  intro i hi j hj
  obtain ⟨k, -, rfl⟩ := List.mem_map.mp hi
  rw [List.mem_singleton.mp hj]
  exact k.isLt

theorem numbers_placesBehind (h : xs'.length < xs.length) (left : List (Fin xs'.length)) :
    (placesBehind h left).map (·.val + 1) = left.map (·.val + 1) ++ [xs'.length + 1] := by
  rw [placesBehind, List.map_append, List.map_map]
  rfl

theorem getElem_placesBehind (hx : xs' ++ [z] <+: xs) (h : xs'.length < xs.length)
    (left : List (Fin xs'.length)) :
    (placesBehind h left).map (fun i => xs[i]) = left.map (fun i => xs'[i]) ++ [z] := by
  obtain ⟨xs'', rfl⟩ := hx
  rw [placesBehind, List.map_append, List.map_map]
  congr 1
  · refine List.map_congr_left fun i _ => ?_
    simp
  · simp

end PlacesBehind

/-- A pairing of two prefixes, and one pair behind them. -/
theorem Pairing.exists_concat {xs' ys' : List α} {z : α} (p : Pairing xs' ys')
    (hx : xs' ++ [z] <+: xs) (hy : ys' ++ [z] <+: ys) : ∃ q : Pairing xs ys,
    q.oldNumbers = p.oldNumbers ++ [xs'.length + 1]
      ∧ q.newNumbers = p.newNumbers ++ [ys'.length + 1] := by
  have hlx : xs'.length < xs.length := by simpa [Nat.succ_le_iff] using hx.length_le
  have hly : ys'.length < ys.length := by simpa [Nat.succ_le_iff] using hy.length_le
  have hagree : (placesBehind hlx p.left).map (fun i => xs[i])
      = (placesBehind hly p.right).map (fun j => ys[j]) := by
    rw [getElem_placesBehind hx hlx, getElem_placesBehind hy hly, p.agree]
  exact ⟨⟨placesBehind hlx p.left, placesBehind hly p.right, pairwise_placesBehind hlx p.left_strict,
    pairwise_placesBehind hly p.right_strict, hagree⟩, numbers_placesBehind hlx p.left,
    numbers_placesBehind hly p.right⟩

/-- **A choice is a pairing**, read from the end. -/
theorem Chosen.exists_pairing {is js : List Nat} (h : Chosen xs ys is js) :
    ∃ p : Pairing xs.reverse ys.reverse,
      p.oldNumbers = is.reverse ∧ p.newNumbers = js.reverse := by
  induction h with
  | none => exact ⟨⟨[], [], .nil, .nil, rfl⟩, rfl, rfl⟩
  | pair hx hy _ ih =>
    obtain ⟨p, hold, hnew⟩ := ih
    rw [← List.reverse_prefix, List.reverse_cons] at hx hy
    obtain ⟨q, hqold, hqnew⟩ := p.exists_concat hx hy
    refine ⟨q, ?_, ?_⟩
    · rw [hqold, hold, List.reverse_cons, List.length_reverse]
    · rw [hqnew, hnew, List.reverse_cons, List.length_reverse]

end Pairings

/-! ## The lines that a script keeps -/

/-- The numbers in the old text of the unchanged lines among `ls`. -/
def keptOld (ls : List DiffLine) : List Nat :=
  (ls.filter fun l => l.kind = .unchanged).filterMap DiffLine.oldLine

/-- The numbers in the new text of the unchanged lines among `ls`. -/
def keptNew (ls : List DiffLine) : List Nat :=
  (ls.filter fun l => l.kind = .unchanged).filterMap DiffLine.newLine

@[simp] theorem keptOld_unchanged (x : String) (i j : Nat) (ls : List DiffLine) :
    keptOld (.unchanged x i j :: ls) = i :: keptOld ls := rfl

@[simp] theorem keptOld_added (y : String) (j : Nat) (ls : List DiffLine) :
    keptOld (.added y j :: ls) = keptOld ls := rfl

@[simp] theorem keptOld_deleted (x : String) (i : Nat) (ls : List DiffLine) :
    keptOld (.deleted x i :: ls) = keptOld ls := rfl

theorem keptOld_reverse (ls : List DiffLine) : keptOld ls.reverse = (keptOld ls).reverse := by
  rw [keptOld, List.filter_reverse, List.filterMap_reverse, keptOld]

theorem keptNew_reverse (ls : List DiffLine) : keptNew ls.reverse = (keptNew ls).reverse := by
  rw [keptNew, List.filter_reverse, List.filterMap_reverse, keptNew]

/-- The unchanged lines of an alignment are a choice. -/
theorem Aligns.chosen {xs ys : List String} {ls : List DiffLine} (h : Aligns xs ys ls) :
    Chosen xs ys (keptOld ls) (keptNew ls) := by
  induction h with
  | done => exact .none
  | unchanged x _ ih => exact .pair (List.suffix_refl _) (List.suffix_refl _) ih
  | added y _ ih => exact ih.mono (List.suffix_refl _) (List.suffix_cons y _)
  | deleted x _ ih => exact ih.mono (List.suffix_cons x _) (List.suffix_refl _)

/-! ## Staying ahead -/

/-- The longest choice `is`, `js` among `xs'` and `ys'` is one that the script of `xs` and `ys` stays
    ahead of: it has no old lines but those of the script, it has all the new lines of the script
    and maybe more, and for all that it is no longer than what the script keeps. -/
structure Rival {α : Type} [DecidableEq α] (xs ys xs' ys' : List α) (is js : List Nat) : Prop where
  old_suffix : xs' <:+ xs
  new_suffix : ys <:+ ys'
  lcs_eq : lcs xs' ys' = lcs xs ys
  chosen : Chosen xs' ys' is js
  length_eq : is.length = lcs xs ys

namespace Rival

variable {α : Type} [DecidableEq α] {xs ys xs' ys' : List α} {is js : List Nat} {x y : α}

/-- The script leaves out a new line at no cost: the rival may still have it. -/
theorem without_new (h : Rival xs (y :: ys) xs' ys' is js) (hlcs : lcs xs (y :: ys) = lcs xs ys) :
    Rival xs ys xs' ys' is js where
  old_suffix := h.old_suffix
  new_suffix := (List.suffix_cons y ys).trans h.new_suffix
  lcs_eq := by rw [h.lcs_eq, hlcs]
  chosen := h.chosen
  length_eq := by rw [h.length_eq, hlcs]

/-- The script leaves out an old line, since without it more can be chosen than without the new line:
    then the rival does not have it either. -/
theorem exists_without_old (h : Rival (x :: xs) (y :: ys) xs' ys' is js) (hne : x ≠ y)
    (hlt : lcs (x :: xs) ys < lcs xs (y :: ys)) : ∃ xs'', Rival xs (y :: ys) xs'' ys' is js := by
  obtain ⟨hold, hnew, hlcs, hchosen, hlen⟩ := h
  rw [lcs_cons_of_ne hne, Nat.max_eq_left hlt.le] at hlcs hlen
  rcases List.suffix_cons_iff.mp hold with rfl | hold
  · cases hchosen with
    | none => exact absurd hlen (by rw [List.length_nil]; omega)
    | pair hx hy hrest =>
      rename_i xs'' ys'' is' js' z
      rcases List.suffix_cons_iff.mp hx with heq | hx
      · exfalso
        obtain ⟨rfl, rfl⟩ := List.cons.inj heq
        -- In the text the partner of `z` stands in front of the new line `y`, or behind it.
        rcases List.suffix_or_suffix_of_suffix hy hnew with hle | hle
        · rcases List.suffix_cons_iff.mp hle with heq | hfront
          · exact hne (List.cons.inj heq).1
          · have hbound := (Chosen.pair (List.suffix_refl _) hfront hrest).length_le_lcs
            omega
        · rcases List.suffix_cons_iff.mp hle with heq | hbehind
          · exact hne (List.cons.inj heq).1.symm
          · have hmono := lcs_le_lcs (List.Sublist.refl xs'') hbehind.sublist
            have hlonger := lcs_lt_of_suffix (List.suffix_refl (z :: xs'')) hy
            omega
      · have hmore := lcs_le_lcs (List.Sublist.refl xs) hnew.sublist
        have hless := lcs_le_lcs_cons x xs ys'
        exact ⟨xs, List.suffix_refl xs, hnew, by omega, .pair hx hy hrest, hlen⟩
  · exact ⟨xs', hold, hnew, hlcs, hchosen, hlen⟩

/-- The script pairs two lines: the rival has its first old line no later, and what else it has is a
    rival of the rest. -/
theorem exists_tail (h : Rival (x :: xs) (x :: ys) xs' ys' is js) : ∃ i is' xs'' ys'' js',
    is = i :: is' ∧ i ≤ xs.length + 1 ∧ Rival xs ys xs'' ys'' is' js' := by
  obtain ⟨hold, hnew, hlcs, hchosen, hlen⟩ := h
  rw [lcs_cons_self] at hlcs hlen
  cases hchosen with
  | none => exact absurd hlen.symm (Nat.succ_ne_zero _)
  | pair hx hy hrest =>
    rename_i xs'' ys'' is' js' z
    have hxs := suffix_of_cons_suffix_cons (hx.trans hold)
    have hfirst : xs''.length + 1 ≤ xs.length + 1 := Nat.succ_le_succ hxs.length_le
    have hlt := lcs_lt_of_suffix hx hy
    have hlen' : is'.length = lcs xs ys := Nat.succ.inj hlen
    -- The rival has more new lines left than the script, or it has fewer and may have those too.
    rcases List.suffix_or_suffix_of_suffix ((List.suffix_cons x ys).trans hnew)
      ((List.suffix_cons z ys'').trans hy) with hle | hle
    · have hbound := hrest.length_le_lcs
      exact ⟨_, is', xs'', ys'', js', rfl, hfirst, hxs, hle, by omega, hrest, hlen'⟩
    · have hmore := hrest.mono (List.suffix_refl xs'') hle
      have hbound := hmore.length_le_lcs
      have hmono := lcs_le_lcs hxs.sublist (List.Sublist.refl ys)
      exact ⟨_, is', xs'', ys, js', rfl, hfirst, hxs, List.suffix_refl ys, by omega, hmore, hlen'⟩

end Rival

/-- **Staying ahead.**  Each old line of a rival stands no later than the one in its place that the
    script keeps; the cases are those of the script. -/
theorem Rival.forall₂_keptOld {xs ys xs' ys' : List String} {is js : List Nat}
    (h : Rival xs ys xs' ys' is js) :
    List.Forall₂ (· ≤ ·) is (keptOld (editScript xs ys)) := by
  fun_induction editScript xs ys generalizing xs' ys' is js with
  | case1 =>
    have hlen := h.length_eq
    rw [lcs_nil_left, List.length_eq_zero_iff] at hlen
    rw [hlen]
    exact .nil
  | case2 y ys ih => exact ih (h.without_new (by rw [lcs_nil_left, lcs_nil_left]))
  | case3 x xs ih =>
    -- Nothing can be chosen, so the rival may be the empty choice among the rest.
    have hlen := h.length_eq
    rw [lcs_nil_right, List.length_eq_zero_iff] at hlen
    rw [hlen]
    exact ih ⟨List.suffix_refl xs, List.suffix_refl [], rfl, .none, (lcs_nil_right xs).symm⟩
  | case4 xs y ys ih =>
    obtain ⟨i, is', xs'', ys'', js', rfl, hi, htail⟩ := h.exists_tail
    exact .cons hi (ih htail)
  | case5 x xs y ys hne hle ih =>
    exact ih (h.without_new (by rw [lcs_cons_of_ne hne, Nat.max_eq_right hle]))
  | case6 x xs y ys hne hle ih =>
    obtain ⟨xs'', hwithout⟩ := h.exists_without_old hne (by omega)
    exact ih hwithout

/-! ## The lines that an alignment keeps -/

theorem Pairing.length_oldNumbers {α : Type} {xs ys : List α} (p : Pairing xs ys) :
    p.oldNumbers.length = p.length :=
  List.length_map _

/-- Each old line of a longest pairing stands no later than the one that the alignment keeps. -/
theorem forall₂_keptOld_align {old new : List String} (p : Pairing old new)
    (h : p.length = (align old new).unchanged) :
    List.Forall₂ (· ≤ ·) p.oldNumbers (keptOld (align old new).lines) := by
  have hlen : p.oldNumbers.reverse.length = lcs old.reverse new.reverse := by
    rw [List.length_reverse, p.length_oldNumbers, h, unchanged_align, lcs_reverse]
  have hrival : Rival old.reverse new.reverse old.reverse new.reverse p.oldNumbers.reverse
      p.newNumbers.reverse :=
    ⟨List.suffix_refl _, List.suffix_refl _, rfl, p.chosen, hlen⟩
  rw [lines_align, keptOld_reverse, ← List.forall₂_reverse_iff, List.reverse_reverse]
  exact hrival.forall₂_keptOld

/-- The lines that an alignment keeps are a pairing. -/
theorem exists_kept_align (old new : List String) : ∃ kept : Pairing old new,
    kept.oldNumbers = keptOld (align old new).lines
      ∧ kept.newNumbers = keptNew (align old new).lines := by
  have h := (aligns_editScript old.reverse new.reverse).chosen.exists_pairing
  rw [List.reverse_reverse, List.reverse_reverse] at h
  rw [lines_align, keptOld_reverse, keptNew_reverse]
  exact h

/-- **The last lines that can be kept.**  No pairing of the two texts is longer than the unchanged
    lines of `align old new`; these are such a longest pairing, and in every other one each of the
    old lines stands no later than the one in its place here. -/
theorem align_keeps_latest (old new : List String) :
    IsGreatest (Set.range (Pairing.length : Pairing old new → Nat)) (align old new).unchanged
    ∧ (∃ kept : Pairing old new, kept.length = (align old new).unchanged
      ∧ kept.oldNumbers = keptOld (align old new).lines
      ∧ kept.newNumbers = keptNew (align old new).lines)
    ∧ ∀ p : Pairing old new, p.length = (align old new).unchanged →
      List.Forall₂ (· ≤ ·) p.oldNumbers (keptOld (align old new).lines) := by
  have hgreatest := isGreatest_lcs old new
  rw [← unchanged_align] at hgreatest
  refine ⟨hgreatest, ?_, fun p hp => forall₂_keptOld_align p hp⟩
  obtain ⟨kept, hold, hnew⟩ := exists_kept_align old new
  -- A longest pairing has as many numbers as the alignment keeps.
  obtain ⟨longest, hlongest⟩ := hgreatest.1
  have hlength := (forall₂_keptOld_align longest hlongest).length_eq
  rw [← hold, longest.length_oldNumbers, kept.length_oldNumbers, hlongest] at hlength
  exact ⟨kept, hlength.symm, hold, hnew⟩

/-- Of two lines that change places the second is kept, though the first could be. -/
theorem align_keeps_latest_swap : ∃ p : Pairing ["a", "b"] ["b", "a"],
    p.oldNumbers = [1] ∧ p.length = (align ["a", "b"] ["b", "a"]).unchanged
      ∧ keptOld (align ["a", "b"] ["b", "a"]).lines = [2]
      ∧ List.Forall₂ (· ≤ ·) p.oldNumbers (keptOld (align ["a", "b"] ["b", "a"]).lines) := by
  let p : Pairing ["a", "b"] ["b", "a"] :=
    ⟨[0], [1], List.pairwise_singleton _ _, List.pairwise_singleton _ _, rfl⟩
  have hlength : p.length = (align ["a", "b"] ["b", "a"]).unchanged := by cbv
  have hkept : keptOld (align ["a", "b"] ["b", "a"]).lines = [2] := by cbv
  exact ⟨p, rfl, hlength, hkept, (align_keeps_latest ["a", "b"] ["b", "a"]).2.2 p hlength⟩

end Redline.Diff
