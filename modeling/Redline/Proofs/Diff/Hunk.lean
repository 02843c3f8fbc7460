/-
  Hunks show the stretches around changes — no more, no less, and each under the right numbers.

  1. **A group and its hunk** — a group that tiles an interval becomes the hunk of its positions
     (`ofGroup?_of_tiles`): its runs lead back to these positions, and what they count on a side is
     what the lines there count.

  2. **What every hunk shows** — a stretch cannot end before the change that its first position is
     shown for, so it holds that change; and a shown position belongs to one stretch only.

  3. **The result** — `hunks_eq_stretches`.
-/
import Redline.Proofs.Diff.Group
import Mathlib.Data.List.Nodup

namespace Redline.Diff

variable {a : Alignment} {c : Nat}

/-! ## A group and its hunk -/

/-- The lines where a run stands are of its kind. -/
theorem kinds_of_standsAt {p : Nat} {r : Run} (h : r.StandsAt a.kinds p) :
    ((List.range' p r.length).filterMap (a.lines[·]?)).map DiffLine.kind
      = List.replicate r.length r.kind := by
  have hkind : ∀ q ∈ List.range' p r.length, (a.lines[q]?).map DiffLine.kind = some r.kind := by
    intro q hq
    rw [List.mem_range'_1] at hq
    rw [← List.getElem?_map]
    exact h.kind_eq q hq.1 hq.2
  rw [List.map_filterMap, List.filterMap_congr hkind, List.filterMap_eq_map', List.map_const',
    List.length_range']

/-- What runs count on a side, the lines where they stand count too. -/
theorem countP_of_tiles {p q : Nat} {rs : List Run} (keep : ChangeKind → Bool)
    (h : Tiles a.kinds p rs q) :
    (rs.map fun r => if keep r.kind then r.length else 0).foldr Nat.add 0
      = ((Stretches.positions (p, q)).filterMap (a.lines[·]?)).countP fun l => keep l.kind := by
  induction h with
  | nil p =>
    rw [Stretches.positions, Nat.sub_self]
    rfl
  | @cons p q r rs hr hrs ih =>
    have hfirst : ((Stretches.positions (p, p + r.length)).filterMap (a.lines[·]?)).countP
        (fun l => keep l.kind) = if keep r.kind then r.length else 0 := by
      rw [Stretches.positions, Nat.add_sub_cancel_left, ← List.countP_replicate (p := keep),
        ← kinds_of_standsAt hr, List.countP_map]
      rfl
    rw [Stretches.positions, Stretches.range'_split (Nat.le_add_right p r.length) hrs.le,
      List.filterMap_append, List.countP_append, hfirst, List.map_cons, List.foldr_cons, ih]
    rfl

/-- **A group and its hunk.**  The hunk of a group is that of the positions that it tiles. -/
theorem ofGroup?_of_tiles {p q : Nat} {group : List Run} (h : Tiles a.kinds p group q)
    (hlt : p < q) :
    Hunk.ofGroup? a a.sideIndex group = some (a.hunkAt (Stretches.positions (p, q))) := by
  have hhead : (Stretches.positions (p, q)).headD 0 = p := by
    rw [Stretches.positions, show q - p = (q - p - 1) + 1 by omega, List.range'_succ]
    rfl
  have hlines : (group.flatMap (·.positions a.sideIndex)).filterMap (a.lines.toArray[·]?)
      = (Stretches.positions (p, q)).filterMap (a.lines[·]?) := by
    rw [flatMap_positions h]
    simp only [List.getElem?_toArray]
    rfl
  have hold := countP_of_tiles ChangeKind.inOld h
  have hnew := countP_of_tiles ChangeKind.inNew h
  cases group with
  | nil => exact absurd h.eq_of_nil (Nat.ne_of_lt hlt)
  | cons first rest =>
    obtain _ | ⟨hfirst, -⟩ := h
    rw [Hunk.ofGroup?, Alignment.hunkAt, hhead, hlines, hfirst.oldStart_eq, hfirst.newStart_eq,
      ← hold, ← hnew]
    rfl

/-- The hunks of groups that tile intervals are those of the intervals. -/
theorem filterMap_ofGroup? {gs : List (List Run)} {I : List (Nat × Nat)} (h : TilesAll a gs I)
    (hlt : ∀ i ∈ I, i.1 < i.2) :
    gs.filterMap (Hunk.ofGroup? a a.sideIndex) = I.map fun i => a.hunkAt (Stretches.positions i) := by
  induction h with
  | nil => rfl
  | cons hg _ ih =>
    rw [List.forall_mem_cons] at hlt
    rw [List.filterMap_cons_some (ofGroup?_of_tiles hg hlt.1), ih hlt.2, List.map_cons]

/-- The hunks of an alignment are those of the intervals of its stretches. -/
theorem exists_stretches (a : Alignment) (c : Nat) :
    ∃ I, Stretches (a.Shows c) a.length 0 I ∧ a.stretches c = I.map Stretches.positions ∧
      a.hunks c = I.map fun i => a.hunkAt (Stretches.positions i) := by
  have htiles := tiles_runs a
  rw [a.length_kinds] at htiles
  obtain ⟨I, hall, hstr⟩ := stretches_groupRuns htiles isChain_kind_ne_runs
    length_pos_of_mem_runs c
  refine ⟨I, hstr, ?_, ?_⟩
  · rw [← hstr.splitBy_filter, Alignment.stretches, Alignment.shownPositions,
      List.range_eq_range', Nat.sub_zero]
  · exact filterMap_ofGroup? hall fun i hi => (hstr.isStretch_of_mem hi).lt

/-! ## What every hunk shows -/

/-- A stretch has a change that it is shown for. -/
theorem exists_isChange_of_mem_stretches {ps : List Nat} (h : ps ∈ a.stretches c) :
    ∃ q ∈ ps, a.IsChange q := by
  obtain ⟨I, hstr, hI, -⟩ := exists_stretches a c
  rw [hI, List.mem_map] at h
  obtain ⟨i, hi, rfl⟩ := h
  obtain ⟨-, hlt, hle, hall, hbefore, hbehind⟩ := hstr.isStretch_of_mem hi
  -- The change near the first position cannot be beyond either end: the end would be shown too.
  obtain ⟨q, hq, hnear, hnear'⟩ := hall i.1 (Nat.le_refl _) hlt
  have hqn := hq.lt
  refine ⟨q, (Stretches.mem_positions hlt q).mpr ⟨?_, ?_⟩, hq⟩
  · refine Nat.le_of_not_lt fun hlow => ?_
    exact hbefore (i.1 - 1) (Nat.zero_le _) (by omega) ⟨q, hq, by omega, by omega⟩
  · refine Nat.lt_of_not_le fun hhigh => ?_
    exact hbehind (by omega) ⟨q, hq, by omega, by omega⟩

/-- A shown position belongs to one stretch, and to no other. -/
theorem existsUnique_mem_stretches {p : Nat} (hp : p < a.length) (h : a.Shows c p) :
    ∃! i : Nat, ∃ ps ∈ (a.stretches c)[i]?, p ∈ ps := by
  have hflat : (a.stretches c).flatten = a.shownPositions c := List.flatten_splitBy _ _
  have hmem : p ∈ (a.stretches c).flatten := by
    rw [hflat, Alignment.shownPositions, List.mem_filter, List.mem_range, decide_eq_true_eq]
    exact ⟨hp, h⟩
  have hnodup : (a.stretches c).flatten.Nodup := hflat ▸ List.nodup_range.filter _
  obtain ⟨ps, hps, hpp⟩ := List.mem_flatten.mp hmem
  obtain ⟨i, hi⟩ := List.mem_iff_getElem?.mp hps
  refine ⟨i, ⟨ps, hi, hpp⟩, ?_⟩
  rintro j ⟨qs, hj, hpq⟩
  -- Two stretches with a position in common stand at one place of the list.
  by_contra hne
  have hdisjoint := (List.nodup_flatten.mp hnodup).2
  obtain ⟨hilt, rfl⟩ := List.getElem?_eq_some_iff.mp hi
  obtain ⟨hjlt, rfl⟩ := List.getElem?_eq_some_iff.mp hj
  rw [List.pairwise_iff_getElem] at hdisjoint
  rcases Nat.lt_or_gt_of_ne hne with hlt | hgt
  · exact hdisjoint j i hjlt hilt hlt hpq hpp
  · exact hdisjoint i j hilt hjlt hgt hpp hpq

/-- Without a change there is no stretch. -/
theorem stretches_of_isIdentical (h : a.isIdentical = true) (c : Nat) : a.stretches c = [] := by
  have hnone : ∀ p, ¬ a.Shows c p := by
    rintro p ⟨q, ⟨k, hk, hne⟩, -⟩
    have hall := List.all_eq_true.mp h k (List.mem_of_getElem? hk)
    exact hne (of_decide_eq_true hall)
  rw [Alignment.stretches, Alignment.shownPositions, List.filter_eq_nil_iff.mpr, List.splitBy_nil]
  intro p _ hp
  exact hnone p (of_decide_eq_true hp)

/-- **Hunks show the stretches around changes.**  With any context the hunks of any alignment are the
    hunks of its stretches of shown positions, from the first to the last; each of them shows a
    change, each change is in one of them and in no other, and where nothing is changed there is
    none. -/
theorem hunks_eq_stretches (a : Alignment) (c : Nat) :
    a.hunks c = (a.stretches c).map a.hunkAt ∧
    (∀ h ∈ a.hunks c, ∃ l ∈ h.lines, l.kind ≠ .unchanged) ∧
    (∀ q, a.IsChange q → ∃! i : Nat, ∃ ps ∈ (a.stretches c)[i]?, q ∈ ps) ∧
    (a.isIdentical = true → a.hunks c = []) := by
  have heq : a.hunks c = (a.stretches c).map a.hunkAt := by
    obtain ⟨I, -, hI, hhunks⟩ := exists_stretches a c
    rw [hhunks, hI, List.map_map]
    rfl
  refine ⟨heq, ?_, ?_, ?_⟩
  · intro h hh
    rw [heq, List.mem_map] at hh
    obtain ⟨ps, hps, rfl⟩ := hh
    obtain ⟨q, hq, k, hk, hne⟩ := exists_isChange_of_mem_stretches hps
    rw [Alignment.kinds, List.getElem?_map, Option.mem_def, Option.map_eq_some_iff] at hk
    obtain ⟨l, hl, rfl⟩ := hk
    exact ⟨l, List.mem_filterMap.mpr ⟨q, hq, hl⟩, hne⟩
  · exact fun q hq => existsUnique_mem_stretches hq.lt (hq.shows c)
  · intro hid
    rw [heq, stretches_of_isIdentical hid, List.map_nil]

/-- An added line and a deleted line, with one unchanged line between them and numbers that fit
    neither side: without context each has a hunk of its own. -/
theorem hunks_eq_stretches_two :
    (∃ l ∈ [(⟨.deleted, "y", none, none⟩ : DiffLine)], l.kind ≠ .unchanged) ∧
    (∃! i : Nat, ∃ ps ∈ ((⟨[⟨.added, "x", none, some 9⟩, ⟨.unchanged, "k", some 7, none⟩,
      ⟨.deleted, "y", none, none⟩]⟩ : Alignment).stretches 0)[i]?, 2 ∈ ps) ∧
    (⟨[⟨.unchanged, "k", some 7, none⟩]⟩ : Alignment).hunks 3 = [] := by
  have hhunks : (⟨[⟨.added, "x", none, some 9⟩, ⟨.unchanged, "k", some 7, none⟩,
      ⟨.deleted, "y", none, none⟩]⟩ : Alignment).hunks 0
      = [⟨1, 0, 1, 1, [⟨.added, "x", none, some 9⟩]⟩,
        ⟨2, 1, 3, 0, [⟨.deleted, "y", none, none⟩]⟩] := by rfl
  refine ⟨?_, ?_, ?_⟩
  · refine (hunks_eq_stretches ⟨[⟨.added, "x", none, some 9⟩, ⟨.unchanged, "k", some 7, none⟩,
      ⟨.deleted, "y", none, none⟩]⟩ 0).2.1 ⟨2, 1, 3, 0, [⟨.deleted, "y", none, none⟩]⟩ ?_
    rw [hhunks]
    exact List.mem_cons_of_mem _ List.mem_cons_self
  · exact (hunks_eq_stretches _ 0).2.2.1 2 ⟨.deleted, rfl, by decide⟩
  · exact (hunks_eq_stretches _ 3).2.2.2 rfl

end Redline.Diff
