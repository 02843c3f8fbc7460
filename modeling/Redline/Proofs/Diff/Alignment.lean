/-
  Alignments of two texts — what holds of every one, and what holds of `align`.

  1. **Any alignment** — lines are unchanged, deleted or added, so the old text holds the unchanged
     and the deleted lines, the new text the unchanged and the added ones (`perm_oldLines`,
     `perm_newLines`), and the unchanged lines are a common subsequence of the two
     (`unchanged_le_lcs`).

  2. **`Aligns xs ys ls`** — the lines `ls` lay the old lines `xs` beside the new lines `ys`, all
     three from the last line to the first, with the right numbers.  It forgets WHY a line is
     added or deleted, so what a reader of the alignment relies on is a short induction on it.

  3. **The results** — `align` makes a well-formed alignment of its two texts
     (`align_wellFormed`), and one with as few edits as there can be (`align_fewest_edits`).
-/
import Redline.Proofs.Diff.Script

namespace Redline.Diff

/-! ## Any alignment -/

namespace Alignment

/-- The lines of one kind, in order. -/
def contents (a : Alignment) (k : ChangeKind) : List String :=
  (a.lines.filter fun l => l.kind = k).map DiffLine.content

theorem length_contents (a : Alignment) (k : ChangeKind) :
    (a.contents k).length = a.kinds.count k := by
  rw [contents, List.length_map, kinds, List.count_eq_countP, List.countP_map,
    List.countP_eq_length_filter]
  rfl

/-- The lines that stand in both texts. -/
def commonLines (a : Alignment) : List String :=
  (a.lines.filter fun l => l.kind = .unchanged).map DiffLine.content

theorem length_commonLines (a : Alignment) : a.commonLines.length = a.unchanged :=
  a.length_contents .unchanged

/-- A side holds the unchanged lines and the lines of one other kind, `edit`. -/
theorem perm_side (a : Alignment) {side : ChangeKind → Bool} {edit : ChangeKind}
    (hne : edit ≠ .unchanged) (hside : ∀ k, side k = true ↔ k = .unchanged ∨ k = edit) :
    ((a.lines.filter fun l => side l.kind).map DiffLine.content).Perm
      (a.commonLines ++ a.contents edit) := by
  have hunchanged : (a.lines.filter fun l => side l.kind).filter (fun l => l.kind = .unchanged)
      = a.lines.filter fun l => l.kind = .unchanged := by
    rw [List.filter_filter]
    refine List.filter_congr fun l _ => ?_
    have hl := hside l.kind
    grind
  have hedit : (a.lines.filter fun l => side l.kind).filter (fun l => !decide (l.kind = .unchanged))
      = a.lines.filter fun l => l.kind = edit := by
    rw [List.filter_filter]
    refine List.filter_congr fun l _ => ?_
    have hl := hside l.kind
    grind
  have hsplit := List.filter_append_perm (fun l : DiffLine => decide (l.kind = .unchanged))
    (a.lines.filter fun l => side l.kind)
  rw [hunchanged, hedit] at hsplit
  have hcontents := (hsplit.map DiffLine.content).symm
  rwa [List.map_append] at hcontents

/-- The old side in its two parts; the order is lost here, as only lengths are read off. -/
theorem perm_oldLines (a : Alignment) :
    a.oldLines.Perm (a.commonLines ++ a.contents .deleted) :=
  a.perm_side (by decide) fun k => by cases k <;> decide

/-- The new side in its two parts. -/
theorem perm_newLines (a : Alignment) :
    a.newLines.Perm (a.commonLines ++ a.contents .added) :=
  a.perm_side (by decide) fun k => by cases k <;> decide

theorem length_oldLines (a : Alignment) : a.oldLines.length = a.unchanged + a.deletions := by
  rw [a.perm_oldLines.length_eq, List.length_append, length_commonLines, length_contents]
  rfl

theorem length_newLines (a : Alignment) : a.newLines.length = a.unchanged + a.additions := by
  rw [a.perm_newLines.length_eq, List.length_append, length_commonLines, length_contents]
  rfl

/-- Every side that holds the unchanged lines holds them in order. -/
theorem commonLines_sublist (a : Alignment) {side : ChangeKind → Bool}
    (hside : side .unchanged = true) :
    a.commonLines.Sublist ((a.lines.filter fun l => side l.kind).map DiffLine.content) := by
  refine (List.monotone_filter_right a.lines ?_).map DiffLine.content
  intro l hl
  rw [decide_eq_true_eq] at hl
  rw [hl]
  exact hside

/-- The unchanged lines are a common subsequence of the two sides, so `lcs` bounds them. -/
theorem unchanged_le_lcs (a : Alignment) : a.unchanged ≤ lcs a.oldLines a.newLines := by
  rw [← length_commonLines]
  have hold : a.commonLines.Sublist a.oldLines := a.commonLines_sublist rfl
  have hnew : a.commonLines.Sublist a.newLines := a.commonLines_sublist rfl
  exact length_le_lcs hold hnew

end Alignment

/-! ## Alignments with the right numbers -/

/-- `ls` lays `xs` beside `ys`, all from the last line to the first: each line has its place,
    counted from one, on each side on which it stands. -/
inductive Aligns : List String → List String → List DiffLine → Prop where
  | done : Aligns [] [] []
  | unchanged {xs ys ls} (x : String) : Aligns xs ys ls →
      Aligns (x :: xs) (x :: ys) (.unchanged x (xs.length + 1) (ys.length + 1) :: ls)
  | added {xs ys ls} (y : String) : Aligns xs ys ls →
      Aligns xs (y :: ys) (.added y (ys.length + 1) :: ls)
  | deleted {xs ys ls} (x : String) : Aligns xs ys ls →
      Aligns (x :: xs) ys (.deleted x (xs.length + 1) :: ls)

/-- Every script is such an alignment. -/
theorem aligns_editScript (xs ys : List String) : Aligns xs ys (editScript xs ys) := by
  fun_induction editScript xs ys with
  | case1 => exact .done
  | case2 y ys ih => exact .added y ih
  | case3 x xs ih => exact .deleted x ih
  | case4 xs y ys ih => exact .unchanged y ih
  | case5 x xs y ys _ _ ih => exact .added y ih
  | case6 x xs y ys _ _ ih => exact .deleted x ih

/-- The numbers from one to `n + 1`, from the last to the first. -/
theorem reverse_range'_succ (n : Nat) :
    (List.range' 1 (n + 1)).reverse = (n + 1) :: (List.range' 1 n).reverse := by
  rw [List.range'_1_concat, List.reverse_append, Nat.add_comm 1 n]
  rfl

namespace Aligns

variable {xs ys : List String} {ls : List DiffLine}

/-- Read from its lines, an alignment gives back the old side, from the last line to the first. -/
theorem old_contents (h : Aligns xs ys ls) :
    (ls.filter fun l => l.kind.inOld).map DiffLine.content = xs := by
  induction h with
  | done => rfl
  | unchanged x _ ih => exact congrArg (x :: ·) ih
  | added y _ ih => exact ih
  | deleted x _ ih => exact congrArg (x :: ·) ih

/-- It gives back the new side alike. -/
theorem new_contents (h : Aligns xs ys ls) :
    (ls.filter fun l => l.kind.inNew).map DiffLine.content = ys := by
  induction h with
  | done => rfl
  | unchanged x _ ih => exact congrArg (x :: ·) ih
  | added y _ ih => exact congrArg (y :: ·) ih
  | deleted x _ ih => exact ih

/-- What holds of every line that an alignment can be made of holds of its lines. -/
theorem forall_lines {P : DiffLine → Prop} (hu : ∀ x i j, P (.unchanged x i j))
    (ha : ∀ y j, P (.added y j)) (hd : ∀ x i, P (.deleted x i)) (h : Aligns xs ys ls) :
    ∀ l ∈ ls, P l := by
  induction h with
  | done => exact fun l hl => absurd hl List.not_mem_nil
  | unchanged x _ ih => exact List.forall_mem_cons.mpr ⟨hu x _ _, ih⟩
  | added y _ ih => exact List.forall_mem_cons.mpr ⟨ha y _, ih⟩
  | deleted x _ ih => exact List.forall_mem_cons.mpr ⟨hd x _, ih⟩

/-- A line has a number on the old side exactly when it stands there. -/
theorem isSome_oldLine (h : Aligns xs ys ls) : ∀ l ∈ ls, l.oldLine.isSome = l.kind.inOld :=
  h.forall_lines (fun _ _ _ => rfl) (fun _ _ => rfl) (fun _ _ => rfl)

theorem isSome_newLine (h : Aligns xs ys ls) : ∀ l ∈ ls, l.newLine.isSome = l.kind.inNew :=
  h.forall_lines (fun _ _ _ => rfl) (fun _ _ => rfl) (fun _ _ => rfl)

/-- The lines of the old side are numbered without a gap. -/
theorem old_numbers (h : Aligns xs ys ls) :
    ls.filterMap DiffLine.oldLine = (List.range' 1 xs.length).reverse := by
  induction h with
  | done => rfl
  | unchanged x _ ih =>
    rw [List.length_cons, reverse_range'_succ, ← ih]
    rfl
  | added y _ ih => exact ih
  | deleted x _ ih =>
    rw [List.length_cons, reverse_range'_succ, ← ih]
    rfl

/-- So are those of the new side. -/
theorem new_numbers (h : Aligns xs ys ls) :
    ls.filterMap DiffLine.newLine = (List.range' 1 ys.length).reverse := by
  induction h with
  | done => rfl
  | unchanged x _ ih =>
    rw [List.length_cons, reverse_range'_succ, ← ih]
    rfl
  | added y _ ih =>
    rw [List.length_cons, reverse_range'_succ, ← ih]
    rfl
  | deleted x _ ih => exact ih

/-- Each unchanged line stands for two, one of each text. -/
theorem length_add_count (h : Aligns xs ys ls) :
    ls.length + (ls.map DiffLine.kind).count .unchanged = xs.length + ys.length := by
  induction h with
  | done => rfl
  | unchanged x _ ih =>
    rw [List.map_cons, show (DiffLine.unchanged x _ _).kind = .unchanged from rfl,
      List.count_cons_self]
    simp only [List.length_cons]
    omega
  | added y _ ih =>
    rw [List.map_cons, show (DiffLine.added y _).kind = .added from rfl,
      List.count_cons_of_ne (by decide)]
    simp only [List.length_cons]
    omega
  | deleted x _ ih =>
    rw [List.map_cons, show (DiffLine.deleted x _).kind = .deleted from rfl,
      List.count_cons_of_ne (by decide)]
    simp only [List.length_cons]
    omega

end Aligns

/-- The number of unchanged lines of a script is the greatest that there can be. -/
theorem count_unchanged_editScript (xs ys : List String) :
    ((editScript xs ys).map DiffLine.kind).count .unchanged = lcs xs ys := by
  fun_induction editScript xs ys with
  | case1 => rw [lcs_nil_left]; rfl
  | case2 y ys ih =>
    rw [lcs_nil_left] at ih ⊢
    exact ih
  | case3 x xs ih =>
    rw [lcs_nil_right] at ih ⊢
    exact ih
  | case4 xs y ys ih =>
    rw [lcs_cons_self, ← ih]
    exact List.count_cons_self
  | case5 x xs y ys hne hle ih =>
    -- Leaving out the new line loses nothing.
    rw [lcs_cons_of_ne hne, Nat.max_eq_right hle, ← ih]
    rfl
  | case6 x xs y ys hne hle ih =>
    rw [lcs_cons_of_ne hne, Nat.max_eq_left (by omega), ← ih]
    rfl

/-! ## The alignment of two texts -/

/-- What a reader of an alignment of `old` with `new` relies on. -/
structure Alignment.WellFormed (a : Alignment) (old new : List String) : Prop where
  oldLines_eq : a.oldLines = old
  newLines_eq : a.newLines = new
  isSome_oldLine : ∀ l ∈ a.lines, l.oldLine.isSome = l.kind.inOld
  isSome_newLine : ∀ l ∈ a.lines, l.newLine.isSome = l.kind.inNew
  old_numbers : a.lines.filterMap DiffLine.oldLine = List.range' 1 old.length
  new_numbers : a.lines.filterMap DiffLine.newLine = List.range' 1 new.length
  length_add_unchanged : a.length + a.unchanged = old.length + new.length

/-- The two texts of a comparison, reversed once more, are the two sides. -/
theorem wellFormed_align (old new : List String) : (align old new).WellFormed old new := by
  have h := aligns_editScript old.reverse new.reverse
  have hlines := lines_align old new
  constructor
  · rw [Alignment.oldLines, hlines, List.filter_reverse, List.map_reverse, h.old_contents,
      List.reverse_reverse]
  · rw [Alignment.newLines, hlines, List.filter_reverse, List.map_reverse, h.new_contents,
      List.reverse_reverse]
  · intro l hl
    rw [hlines, List.mem_reverse] at hl
    exact h.isSome_oldLine l hl
  · intro l hl
    rw [hlines, List.mem_reverse] at hl
    exact h.isSome_newLine l hl
  · rw [hlines, List.filterMap_reverse, h.old_numbers, List.reverse_reverse, List.length_reverse]
  · rw [hlines, List.filterMap_reverse, h.new_numbers, List.reverse_reverse, List.length_reverse]
  · have hcount := h.length_add_count
    rw [List.length_reverse, List.length_reverse] at hcount
    rw [Alignment.length, Alignment.unchanged, Alignment.kinds, hlines, List.map_reverse,
      List.count_reverse, List.length_reverse]
    exact hcount

theorem unchanged_align (old new : List String) : (align old new).unchanged = lcs old new := by
  rw [Alignment.unchanged, Alignment.kinds, lines_align, List.map_reverse, List.count_reverse,
    count_unchanged_editScript, lcs_reverse]

/-- **The alignment is well-formed.**  Either side of `align old new` reads back as the lines that
    it was made of, with their numbers in order; hence a comparison of two texts keeps both, the
    empty text and trailing line feeds included. -/
theorem align_wellFormed :
    (∀ old new : List String, (align old new).WellFormed old new) ∧
    ∀ old new : String,
      (compareTexts old new).oldText = old ∧ (compareTexts old new).newText = new := by
  refine ⟨wellFormed_align, ?_⟩
  intro old new
  have h := wellFormed_align (Text.lines old) (Text.lines new)
  constructor
  · rw [Alignment.oldText, compareTexts, h.oldLines_eq, Text.unlines_lines]
  · rw [Alignment.newText, compareTexts, h.newLines_eq, Text.unlines_lines]

example : align ["a", "b"] ["a", "x"]
    = ⟨[.unchanged "a" 1 1, .deleted "b" 2, .added "x" 2]⟩ := by cbv

/-- **The fewest edits.**  The unchanged lines of `align old new` are a longest common subsequence
    of its two texts; so whatever else lays `old` beside `new` adds and deletes as many lines at
    least. -/
theorem align_fewest_edits (old new : List String) :
    IsGreatest (Set.range (Pairing.length : Pairing old new → Nat)) (align old new).unchanged ∧
    ∀ a : Alignment, a.oldLines = old → a.newLines = new →
      (align old new).additions + (align old new).deletions ≤ a.additions + a.deletions := by
  constructor
  · rw [unchanged_align]
    exact isGreatest_lcs old new
  · intro a hold hnew
    have hbound := a.unchanged_le_lcs
    have hao := a.length_oldLines
    have han := a.length_newLines
    have hwf := wellFormed_align old new
    have ho := (align old new).length_oldLines
    have hn := (align old new).length_newLines
    rw [hold, hnew] at hbound
    rw [hold] at hao
    rw [hnew] at han
    rw [hwf.oldLines_eq] at ho
    rw [hwf.newLines_eq] at hn
    rw [unchanged_align] at ho hn
    -- Two alignments of the same texts differ in edits by twice what they differ in common lines.
    omega

/-- Two lines change places at the cost of one line added and one deleted. -/
theorem align_fewest_edits_swap :
    (⟨[.added "b" 1, .unchanged "a" 1 2, .deleted "b" 2]⟩ : Alignment).oldLines = ["a", "b"] ∧
    (⟨[.added "b" 1, .unchanged "a" 1 2, .deleted "b" 2]⟩ : Alignment).newLines = ["b", "a"] ∧
    (align ["a", "b"] ["b", "a"]).additions + (align ["a", "b"] ["b", "a"]).deletions ≤ 2 :=
  ⟨rfl, rfl, (align_fewest_edits ["a", "b"] ["b", "a"]).2
    ⟨[.added "b" 1, .unchanged "a" 1 2, .deleted "b" 2]⟩ rfl rfl⟩

end Redline.Diff
