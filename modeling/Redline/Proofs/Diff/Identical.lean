/-
  Identical texts — when an alignment has no change.

  Without a change every line stands on both sides, so the two sides are the same lines.  The other
  way round, texts that are the same are aligned without a change: the lines themselves are a common
  subsequence, and the alignment keeps a longest one.
-/
import Redline.Proofs.Diff.Alignment

namespace Redline.Diff

theorem Alignment.isIdentical_iff (a : Alignment) :
    a.isIdentical = true ↔ ∀ l ∈ a.lines, l.kind = .unchanged := by
  rw [isIdentical, kinds, List.all_map, List.all_eq_true]
  exact forall₂_congr fun _ _ => decide_eq_true_iff

/-- Without a change, the two sides are the same. -/
theorem Alignment.oldLines_eq_newLines {a : Alignment} (h : a.isIdentical = true) :
    a.oldLines = a.newLines := by
  rw [isIdentical_iff] at h
  have hfilter : (a.lines.filter fun l => l.kind.inOld) = a.lines.filter fun l => l.kind.inNew := by
    refine List.filter_congr fun l hl => ?_
    rw [h l hl]
    rfl
  rw [oldLines, newLines, hfilter]

/-- Lines that are aligned with themselves are all unchanged. -/
theorem isIdentical_align_self (ls : List String) : (align ls ls).isIdentical = true := by
  have hlcs := length_le_lcs (List.Sublist.refl ls) (List.Sublist.refl ls)
  have hlength := (wellFormed_align ls ls).length_add_unchanged
  have hunchanged := unchanged_align ls ls
  have hcount : (align ls ls).kinds.count .unchanged = (align ls ls).kinds.length := by
    have hle : (align ls ls).kinds.count .unchanged ≤ (align ls ls).kinds.length :=
      List.count_le_length
    have hkinds : (align ls ls).kinds.length = (align ls ls).length := List.length_map _
    rw [Alignment.unchanged] at hlength hunchanged
    omega
  rw [Alignment.isIdentical, List.all_eq_true]
  intro k hk
  exact decide_eq_true (List.count_eq_length.mp hcount k hk).symm

/-- **Two texts are identical** exactly when their alignment has no change. -/
theorem isIdentical_compareTexts_iff (old new : String) :
    (compareTexts old new).isIdentical = true ↔ old = new := by
  constructor
  · intro h
    have hsides := Alignment.oldLines_eq_newLines h
    have hwf := wellFormed_align (Text.lines old) (Text.lines new)
    rw [compareTexts, hwf.oldLines_eq, hwf.newLines_eq] at hsides
    rw [← Text.unlines_lines old, hsides, Text.unlines_lines]
  · rintro rfl
    exact isIdentical_align_self (Text.lines old)

end Redline.Diff
