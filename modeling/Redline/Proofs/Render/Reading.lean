/-
  Plain rows can be read back — two comparisons that look the same are the same.

  1. **A row** — the spaces in front of the number and the one behind it show where its digits
     begin and end (`eq_of_padLeft_append`).  Then stands the marker, and behind one more space the
     content, whatever it is made of.  A content is shown as it is, and an empty one as the
     placeholder; so as long as no other content looks like the placeholder, what is shown tells
     what is there (`eq_of_shown`), and a row tells its line (`eq_of_row`).
  2. **The rows** — nothing in a row is a line feed, so the first line feed ends the first row; by
     induction the rows tell the kinds and the contents of all lines (`shapes_eq_of_rowsChars`).
  3. **Two texts** — kinds and contents are what the two sides of an alignment are made of, and the
     alignment of two texts keeps both (`rows_eq_iff`).
-/
import Redline.Proofs.Diff.Alignment
import Redline.Proofs.Text.Pieces
import Redline.Proofs.Text.Numeral
import Redline.Render.Painter

namespace Redline.Render

open Diff (ChangeKind DiffLine)

/-! ## A row -/

/-- A number is told apart from the spaces around it. -/
theorem eq_of_padLeft_append {width m n : Nat} {cs cs' : List Char}
    (h : Text.padLeft width (Text.decimal m) ++ ' ' :: cs
      = Text.padLeft width (Text.decimal n) ++ ' ' :: cs') : m = n ∧ cs = cs' := by
  have hcut := congrArg (List.dropWhile (· = ' ')) h
  rw [Text.dropWhile_padLeft_decimal, Text.dropWhile_padLeft_decimal] at hcut
  obtain ⟨hdigits, hrest⟩ := Text.append_cons_inj (Text.not_mem_decimal (by decide) m)
    (Text.not_mem_decimal (by decide) n) hcut
  exact ⟨Text.decimal_injective hdigits, hrest⟩

theorem marker_injective {k k' : ChangeKind} (h : k.marker = k'.marker) : k = k' := by
  cases k <;> cases k' <;> first | rfl | exact absurd h (by decide)

/-- What is shown of a content without colour. -/
def shown (placeholder content : String) : List Char :=
  if content = "" then placeholder.toList else content.toList

/-- A content stands in one line and is not taken for an empty one. -/
structure IsReadable (placeholder content : String) : Prop where
  newline_not_mem : '\n' ∉ content.toList
  ne_placeholder : content ≠ "" → content ≠ placeholder

theorem eq_of_shown {placeholder content content' : String} (hc : IsReadable placeholder content)
    (hc' : IsReadable placeholder content')
    (h : shown placeholder content = shown placeholder content') : content = content' := by
  unfold shown at h
  split at h
  · rename_i hempty
    split at h
    · rename_i hempty'
      rw [hempty, hempty']
    · rename_i hne
      exact absurd (String.toList_injective h).symm (hc'.ne_placeholder hne)
  · rename_i hne
    split at h
    · exact absurd (String.toList_injective h) (hc.ne_placeholder hne)
    · exact String.toList_injective h

/-- The row of a line without colour and without its line feed. -/
def row (placeholder : String) (l : DiffLine) : List Char :=
  Text.padLeft 4 (Text.decimal l.gutter)
    ++ ' ' :: l.kind.marker :: ' ' :: shown placeholder l.content

theorem rowChars_eq (placeholder : String) (l : DiffLine) :
    (Painter.mk false placeholder).rowChars l = row placeholder l ++ ['\n'] := by
  have hkind : ∀ cs, (Painter.mk false placeholder).paintKind l.kind cs = cs := by
    intro cs
    unfold Painter.paintKind
    split
    all_goals rfl
  unfold Painter.rowChars row
  rw [hkind]
  show Text.padLeft 4 (Text.decimal l.gutter) ++ [' ']
    ++ (l.kind.marker :: ' ' :: shown placeholder l.content) ++ ['\n'] = _
  rw [List.append_assoc _ [' ']]
  rfl

theorem newline_not_mem_row {placeholder : String} {l : DiffLine}
    (hp : '\n' ∉ placeholder.toList) (hl : '\n' ∉ l.content.toList) :
    '\n' ∉ row placeholder l := by
  have hmarker : '\n' ≠ l.kind.marker := by
    cases l.kind
    all_goals decide
  have hshown : '\n' ∉ shown placeholder l.content := by
    unfold shown
    split
    · exact hp
    · exact hl
  unfold row
  intro hmem
  rcases List.mem_append.mp hmem with hmem | hmem
  · exact Text.not_mem_padLeft_decimal (by decide) (by decide) 4 l.gutter hmem
  · simp only [List.mem_cons] at hmem
    rcases hmem with hmem | hmem | hmem | hmem
    · exact absurd hmem (by decide)
    · exact hmarker hmem
    · exact absurd hmem (by decide)
    · exact hshown hmem

/-- What a row tells of its line. -/
def shape (l : DiffLine) : ChangeKind × String :=
  (l.kind, l.content)

/-- **A row tells its line.** -/
theorem eq_of_row {placeholder : String} {l l' : DiffLine} (hl : IsReadable placeholder l.content)
    (hl' : IsReadable placeholder l'.content) (h : row placeholder l = row placeholder l') :
    shape l = shape l' := by
  obtain ⟨-, hrest⟩ := eq_of_padLeft_append h
  obtain ⟨hmarker, hrest⟩ := List.cons.inj hrest
  obtain ⟨-, hshown⟩ := List.cons.inj hrest
  unfold shape
  rw [marker_injective hmarker, eq_of_shown hl hl' hshown]

/-! ## The rows -/

/-- **The rows tell the kinds and the contents.** -/
theorem shapes_eq_of_rowsChars {placeholder : String} (hp : '\n' ∉ placeholder.toList) :
    ∀ ls ls' : List DiffLine, (∀ l ∈ ls, IsReadable placeholder l.content) →
      (∀ l ∈ ls', IsReadable placeholder l.content) →
      (Painter.mk false placeholder).rowsChars ls = (Painter.mk false placeholder).rowsChars ls' →
      ls.map shape = ls'.map shape := by
  have hcons : ∀ (l : DiffLine) (ls : List DiffLine),
      (Painter.mk false placeholder).rowsChars (l :: ls)
        = row placeholder l ++ '\n' :: (Painter.mk false placeholder).rowsChars ls := by
    intro l ls
    unfold Painter.rowsChars
    rw [List.flatMap_cons, rowChars_eq, List.append_assoc]
    rfl
  intro ls
  induction ls with
  | nil =>
    intro ls' _ _ h
    cases ls' with
    | nil => rfl
    | cons l' ls' =>
      rw [hcons] at h
      exact absurd h.symm (List.append_ne_nil_of_right_ne_nil _ (List.cons_ne_nil _ _))
  | cons l ls ih =>
    intro ls' hls hls' h
    cases ls' with
    | nil =>
      rw [hcons] at h
      exact absurd h (List.append_ne_nil_of_right_ne_nil _ (List.cons_ne_nil _ _))
    | cons l' ls' =>
      rw [List.forall_mem_cons] at hls hls'
      rw [hcons, hcons] at h
      -- The first line feed of either text ends its first row.
      obtain ⟨hrow, hrows⟩ := Text.append_cons_inj
        (newline_not_mem_row hp hls.1.newline_not_mem)
        (newline_not_mem_row hp hls'.1.newline_not_mem) h
      rw [List.map_cons, List.map_cons, eq_of_row hls.1 hls'.1 hrow, ih ls' hls.2 hls'.2 hrows]

/-! ## Two texts -/

/-- A side of an alignment is made of kinds and contents. -/
theorem side_eq (ls : List DiffLine) (side : ChangeKind → Bool) :
    (ls.filter fun l => side l.kind).map DiffLine.content
      = ((ls.map shape).filter fun s => side s.1).map Prod.snd := by
  rw [List.filter_map, List.map_map]
  rfl

/-- The lines of an alignment stand in one of its two texts. -/
theorem content_mem_lines {old new : String} {l : DiffLine}
    (hl : l ∈ (Diff.compareTexts old new).lines) :
    l.content ∈ Text.lines old ∨ l.content ∈ Text.lines new := by
  have hwf := Diff.wellFormed_align (Text.lines old) (Text.lines new)
  by_cases hkind : l.kind.inOld = true
  · left
    rw [← hwf.oldLines_eq]
    exact List.mem_map_of_mem (List.mem_filter.mpr ⟨hl, hkind⟩)
  · right
    have hnew : l.kind.inNew = true := by
      cases hk : l.kind with
      | unchanged => rfl
      | added => rfl
      | deleted => exact absurd (hk ▸ rfl) hkind
    rw [← hwf.newLines_eq]
    exact List.mem_map_of_mem (List.mem_filter.mpr ⟨hl, hnew⟩)

/-- No line of `s`, but an empty one, looks like the placeholder. -/
def KeepsApart (placeholder s : String) : Prop :=
  ∀ l ∈ Text.lines s, l ≠ "" → l ≠ placeholder

theorem isReadable_of_keepsApart {placeholder old new : String} (hold : KeepsApart placeholder old)
    (hnew : KeepsApart placeholder new) :
    ∀ l ∈ (Diff.compareTexts old new).lines, IsReadable placeholder l.content := by
  intro l hl
  rcases content_mem_lines hl with h | h
  · exact ⟨Text.newline_not_mem_of_mem_lines h, hold _ h⟩
  · exact ⟨Text.newline_not_mem_of_mem_lines h, hnew _ h⟩

/-- The kinds and the contents of an alignment of two texts tell both. -/
theorem texts_eq_of_shapes {old new old' new' : String}
    (h : (Diff.compareTexts old new).lines.map shape
      = (Diff.compareTexts old' new').lines.map shape) : old = old' ∧ new = new' := by
  have hwf := Diff.wellFormed_align (Text.lines old) (Text.lines new)
  have hwf' := Diff.wellFormed_align (Text.lines old') (Text.lines new')
  have hside : ∀ side : ChangeKind → Bool,
      ((Diff.compareTexts old new).lines.filter fun l => side l.kind).map DiffLine.content
        = ((Diff.compareTexts old' new').lines.filter fun l => side l.kind).map DiffLine.content :=
    fun side => by rw [side_eq, side_eq, h]
  have hold : Text.lines old = Text.lines old' :=
    hwf.oldLines_eq.symm.trans ((hside ChangeKind.inOld).trans hwf'.oldLines_eq)
  have hnew : Text.lines new = Text.lines new' :=
    hwf.newLines_eq.symm.trans ((hside ChangeKind.inNew).trans hwf'.newLines_eq)
  constructor
  · rw [← Text.unlines_lines old, hold, Text.unlines_lines]
  · rw [← Text.unlines_lines new, hnew, Text.unlines_lines]

/-- **The plain rows show everything.**  With a placeholder in one line, and texts in which no line
    but an empty one looks like it, two comparisons have the same rows exactly when they compare the
    same texts. -/
theorem rows_eq_iff {placeholder old₁ new₁ old₂ new₂ : String}
    (hplaceholder : '\n' ∉ placeholder.toList)
    (hold₁ : KeepsApart placeholder old₁) (hnew₁ : KeepsApart placeholder new₁)
    (hold₂ : KeepsApart placeholder old₂) (hnew₂ : KeepsApart placeholder new₂) :
    (Painter.mk false placeholder).rows (Diff.compareTexts old₁ new₁)
      = (Painter.mk false placeholder).rows (Diff.compareTexts old₂ new₂) ↔
    old₁ = old₂ ∧ new₁ = new₂ := by
  constructor
  · intro h
    have hchars := String.ofList_injective h
    exact texts_eq_of_shapes (shapes_eq_of_rowsChars hplaceholder _ _
      (isReadable_of_keepsApart hold₁ hnew₁) (isReadable_of_keepsApart hold₂ hnew₂) hchars)
  · rintro ⟨rfl, rfl⟩
    rfl

/-- A line that is deleted, and a line that looks like a deleted one. -/
theorem rows_eq_iff_marked :
    '\n' ∉ "(empty)".toList ∧ KeepsApart "(empty)" "- a" ∧ KeepsApart "(empty)" "" ∧
    KeepsApart "(empty)" "a" ∧
    (Painter.mk false "(empty)").rows (Diff.compareTexts "- a" "- a")
      ≠ (Painter.mk false "(empty)").rows (Diff.compareTexts "a" "") := by
  have hplaceholder : '\n' ∉ "(empty)".toList := by decide
  have hmarked : KeepsApart "(empty)" "- a" := by unfold KeepsApart; decide
  have hempty : KeepsApart "(empty)" "" := by unfold KeepsApart; decide
  have hbare : KeepsApart "(empty)" "a" := by unfold KeepsApart; decide
  refine ⟨hplaceholder, hmarked, hempty, hbare, fun h => ?_⟩
  have htexts := (rows_eq_iff hplaceholder hmarked hmarked hbare hempty).mp h
  exact absurd htexts.1 (by decide)

end Redline.Render
