/-
  The alignment of two texts with the fewest edits.

  The table of longest common subsequences is walked back from its last cell.  Two equal lines are
  paired as soon as they meet; otherwise the walk moves towards the larger neighbour, and to the
  left, which adds a line, when both are as large.  Lines come out from the last to the first, so
  within one block of changes all deletions end up in front of all additions.
-/
import Redline.Diff.Line
import Redline.Diff.Table

namespace Redline.Diff

/-- The lines of the alignment in front of `done`, where `xs` are the first `i` lines of the
    old text and `ys` the first `j` lines of the new text, both from the last to the first. -/
def Table.walk (t : Table) (i : Nat) (xs : List String) (j : Nat) (ys : List String)
    (done : List DiffLine) : List DiffLine :=
  match xs, ys with
  | [], [] => done
  | [], y :: ys => t.walk i [] (j - 1) ys (⟨.added, y, none, some j⟩ :: done)
  | x :: xs, [] => t.walk (i - 1) xs j [] (⟨.deleted, x, some i, none⟩ :: done)
  | x :: xs, y :: ys =>
    if x = y then
      t.walk (i - 1) xs (j - 1) ys (⟨.unchanged, x, some i, some j⟩ :: done)
    else if t.cell (i - 1) j ≤ t.cell i (j - 1) then
      t.walk i (x :: xs) (j - 1) ys (⟨.added, y, none, some j⟩ :: done)
    else
      t.walk (i - 1) xs j (y :: ys) (⟨.deleted, x, some i, none⟩ :: done)
termination_by xs.length + ys.length

/-- The alignment of the lines `old` with the lines `new`. -/
def align (old new : List String) : Alignment where
  lines := (Table.build old new).walk old.length old.reverse
    new.length new.reverse []

/-- The alignment of two texts, line by line. -/
def compareTexts (old new : String) : Alignment :=
  align (Text.lines old) (Text.lines new)

end Redline.Diff
