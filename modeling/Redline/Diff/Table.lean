/-
  The table of longest common subsequences.

  The cell in row `i` and column `j` of the table of `xs` and `ys` is the greatest length of a
  common subsequence of the first `i` elements of `xs` and the first `j` of `ys`.  The table keeps
  its rows one behind the other in one array.  All cells are zero at first, and those of row 0 and
  column 0 stay so; the others are filled row by row, each row from the left.  A cell is one more
  than its diagonal neighbour where the two elements are equal, and otherwise the larger of the
  cells above it and to its left.
-/

namespace Redline.Diff

/-- A table of numbers, the first row first. -/
structure Table where
  cells : Array Nat
  width : Nat
  height : Nat

namespace Table

variable {α : Type} [DecidableEq α]

/-- A table of zeros. -/
def zeros (height width : Nat) : Table where
  cells := Array.replicate (height * width) 0
  width := width
  height := height

/-- Where the cell in row `i` and column `j` stands. -/
def place (t : Table) (i j : Nat) : Nat :=
  i * t.width + j

/-- The cell in row `i` and column `j`; zero outside of the table. -/
def cell (t : Table) (i j : Nat) : Nat :=
  t.cells.getD (t.place i j) 0

/-- `t` with `value` in row `i` and column `j`. -/
def write (t : Table) (i j value : Nat) : Table :=
  { t with cells := t.cells.setIfInBounds (t.place i j) value }

/-- `t` with the cell in row `i` and column `j` filled, where `same` says whether the elements of
    the row and of the column are equal. -/
def fill (t : Table) (i j : Nat) (same : Bool) : Table :=
  t.write i j <|
    if same then t.cell (i - 1) (j - 1) + 1 else max (t.cell (i - 1) j) (t.cell i (j - 1))

/-- `t` with row `i`, the row of the element `x`, filled. -/
def fillRow (ys : List α) (t : Table) (x : α) (i : Nat) : Table :=
  (ys.zipIdx 1).foldl (fun t (y, j) => t.fill i j (x = y)) t

/-- The table of `xs` and `ys`. -/
def build (xs ys : List α) : Table :=
  (xs.zipIdx 1).foldl (fun t (x, i) => t.fillRow ys x i) (zeros (xs.length + 1) (ys.length + 1))

/-- The last cell. -/
def length (t : Table) : Nat :=
  t.cell (t.height - 1) (t.width - 1)

end Table

end Redline.Diff
