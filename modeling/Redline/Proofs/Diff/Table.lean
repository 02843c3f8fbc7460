/-
  The table is correct — its cells are the greatest lengths of common subsequences.

  The program overwrites one array by computed places; the proofs speak about rows and columns:

  1. **Places** — cells of a table stand in its array, and no two of them in the same place
     (`place_lt`, `place_inj`), so a write changes one cell and no other (`cell_write_self`,
     `cell_write_of_ne`).
  2. **`Filled xs ys a b t`** — the invariant: `t` has the size of the table of `xs` and `ys`, and
     its cells in front of row `a`, column `b` hold what the finished table will hold there, as do
     those of column 0.  `goal` says what that is: `lcs` of the two prefixes, read from their ends.
  3. **Checked access** — `build?` fills as `build` does, but fails as soon as a cell is read or
     written outside of the table, or read before it is final.
  4. **The loops** — one loop over a numbered list keeps an invariant that each of its rounds keeps,
     and never fails if no round does (`foldlM_zipIdx`).  For the cells of a row that is
     `checked_fillRow`, for the rows of the table `checked_build`.

  `cell_build` is what later proofs use; they never look at the array again.
-/
import Redline.Diff.Table
import Redline.Proofs.Diff.Subsequence

namespace Redline.Diff.Table

/-! ## Places -/

variable {t : Table} {i j i' j' : Nat}

/-- The cells of a table stand in an array of its size. -/
theorem place_lt (hi : i < t.height) (hj : j < t.width) : t.place i j < t.height * t.width := by
  have hrow : (i + 1) * t.width ≤ t.height * t.width := Nat.mul_le_mul_right _ hi
  rw [Nat.succ_mul] at hrow
  unfold place
  omega

/-- No two cells of a table stand in the same place. -/
theorem place_inj (hj : j < t.width) (hj' : j' < t.width) (h : t.place i j = t.place i' j') :
    i = i' ∧ j = j' := by
  unfold place at h
  rcases Nat.lt_trichotomy i i' with hlt | rfl | hlt
  · have hrow : (i + 1) * t.width ≤ i' * t.width := Nat.mul_le_mul_right _ hlt
    rw [Nat.succ_mul] at hrow
    omega
  · exact ⟨rfl, by omega⟩
  · have hrow : (i' + 1) * t.width ≤ i * t.width := Nat.mul_le_mul_right _ hlt
    rw [Nat.succ_mul] at hrow
    omega

theorem cell_write_self (v : Nat) (h : t.place i j < t.cells.size) :
    (t.write i j v).cell i j = v := by
  show (t.cells.setIfInBounds (t.place i j) v).getD (t.place i j) 0 = v
  rw [Array.getD_eq_getD_getElem?, Array.getElem?_setIfInBounds_self_of_lt h, Option.getD_some]

/-- A write leaves all other cells as they are. -/
theorem cell_write_of_ne (v : Nat) (hj : j < t.width) (hj' : j' < t.width)
    (h : ¬ (i = i' ∧ j = j')) : (t.write i j v).cell i' j' = t.cell i' j' := by
  have hne : t.place i j ≠ t.place i' j' := fun heq => h (place_inj hj hj' heq)
  show (t.cells.setIfInBounds (t.place i j) v).getD (t.place i' j') 0
    = t.cells.getD (t.place i' j') 0
  rw [Array.getD_eq_getD_getElem?, Array.getElem?_setIfInBounds_ne hne,
    ← Array.getD_eq_getD_getElem?]

/-! ## Checked access -/

/-- A cell lies inside of `t`: in one of its rows, in one of its columns, and in its array. -/
def Inside (t : Table) (i j : Nat) : Prop :=
  i < t.height ∧ j < t.width ∧ t.place i j < t.cells.size

instance (t : Table) (i j : Nat) : Decidable (t.Inside i j) :=
  inferInstanceAs (Decidable (i < t.height ∧ j < t.width ∧ t.place i j < t.cells.size))

/-- The cell, if it lies inside of `t` and holds its final value already. -/
def read? (final : Nat → Nat → Nat) (t : Table) (i j : Nat) : Option Nat :=
  if t.Inside i j ∧ t.cell i j = final i j then some (t.cell i j) else none

/-- `t` with `value` in a cell, if the cell lies inside of `t`. -/
def write? (t : Table) (i j value : Nat) : Option Table :=
  if t.Inside i j then some (t.write i j value) else none

/-- `Table.fill` with every access checked. -/
def fill? (final : Nat → Nat → Nat) (t : Table) (i j : Nat) (same : Bool) : Option Table := do
  let value ← if same then do
      let diagonal ← t.read? final (i - 1) (j - 1)
      some (diagonal + 1)
    else do
      let above ← t.read? final (i - 1) j
      let left ← t.read? final i (j - 1)
      some (max above left)
  t.write? i j value

variable {α : Type} [DecidableEq α]

/-- `Table.fillRow` with every access checked. -/
def fillRow? (final : Nat → Nat → Nat) (ys : List α) (t : Table) (x : α) (i : Nat) :
    Option Table :=
  (ys.zipIdx 1).foldlM (fun t (y, j) => t.fill? final i j (x = y)) t

/-- `Table.build` with every access checked. -/
def build? (final : Nat → Nat → Nat) (xs ys : List α) : Option Table :=
  (xs.zipIdx 1).foldlM (fun t (x, i) => t.fillRow? final ys x i)
    (zeros (xs.length + 1) (ys.length + 1))

/-! ## The cells of a finished table -/

/-- A prefix with one element more, read from its end. -/
theorem reverse_take_succ {β : Type} {l : List β} {y : β} (h : l[i]? = some y) :
    (l.take (i + 1)).reverse = y :: (l.take i).reverse := by
  rw [List.take_add_one, h, List.reverse_append]
  rfl

/-- What the cell in row `i` and column `j` is to hold.  Both prefixes grow at their ends, so they
    are read from there. -/
def goal (xs ys : List α) (i j : Nat) : Nat :=
  lcs (xs.take i).reverse (ys.take j).reverse

variable {x y : α} {xs ys : List α}

theorem goal_zero_left (j : Nat) : goal xs ys 0 j = 0 := by
  rw [goal, List.take_zero, List.reverse_nil, lcs_nil_left]

theorem goal_zero_right (i : Nat) : goal xs ys i 0 = 0 := by
  rw [goal, List.take_zero, List.reverse_nil, lcs_nil_right]

/-- **The recurrence.**  A cell follows from its three neighbours. -/
theorem goal_succ_succ (hx : xs[i]? = some x) (hy : ys[j]? = some y) :
    goal xs ys (i + 1) (j + 1) =
      if x = y then goal xs ys i j + 1
      else max (goal xs ys i (j + 1)) (goal xs ys (i + 1) j) := by
  unfold goal
  rw [reverse_take_succ hx, reverse_take_succ hy]
  split
  · rename_i hxy
    rw [hxy, lcs_cons_self]
  · rename_i hxy
    rw [lcs_cons_of_ne hxy]

/-! ## The invariant -/

/-- `t` is the table of `xs` and `ys`, filled up to row `a`, column `b`. -/
structure Filled (xs ys : List α) (a b : Nat) (t : Table) : Prop where
  height_eq : t.height = xs.length + 1
  width_eq : t.width = ys.length + 1
  size_eq : t.cells.size = t.height * t.width
  cell_eq : ∀ i ≤ xs.length, ∀ j ≤ ys.length, (i < a ∨ (i = a ∧ j < b) ∨ j = 0) →
    t.cell i j = goal xs ys i j

/-- A table of zeros is filled up to row 1, column 1. -/
theorem filled_zeros (xs ys : List α) :
    Filled xs ys 1 1 (zeros (xs.length + 1) (ys.length + 1)) := by
  refine ⟨rfl, rfl, Array.size_replicate, fun i hi j hj h => ?_⟩
  have hzero : (zeros (xs.length + 1) (ys.length + 1)).cell i j = 0 := by
    unfold cell zeros
    rw [Array.getD_eq_getD_getElem?, Array.getElem?_replicate]
    split
    · rfl
    · rfl
  have hedge : i = 0 ∨ j = 0 := by omega
  rw [hzero]
  rcases hedge with rfl | rfl
  · rw [goal_zero_left]
  · rw [goal_zero_right]

namespace Filled

variable {a b : Nat}

theorem inside (h : Filled xs ys a b t) (hi : i ≤ xs.length) (hj : j ≤ ys.length) :
    t.Inside i j := by
  have hi' : i < t.height := by rw [h.height_eq]; omega
  have hj' : j < t.width := by rw [h.width_eq]; omega
  exact ⟨hi', hj', h.size_eq ▸ place_lt hi' hj'⟩

/-- Behind its last column, a row is done. -/
theorem next_row (h : Filled xs ys a (ys.length + 1) t) : Filled xs ys (a + 1) 1 t where
  height_eq := h.height_eq
  width_eq := h.width_eq
  size_eq := h.size_eq
  cell_eq i hi j hj hij := h.cell_eq i hi j hj (by omega)

/-- What is filled already may be read. -/
theorem read?_eq (h : Filled xs ys a b t) {final : Nat → Nat → Nat}
    (hfinal : ∀ i ≤ xs.length, ∀ j ≤ ys.length, final i j = goal xs ys i j)
    (hi : i ≤ xs.length) (hj : j ≤ ys.length) (hij : i < a ∨ (i = a ∧ j < b) ∨ j = 0) :
    t.read? final i j = some (t.cell i j) := by
  unfold read?
  rw [if_pos ⟨h.inside hi hj, (h.cell_eq i hi j hj hij).trans (hfinal i hi j hj).symm⟩]

/-- **One cell.**  To fill the next cell reads final cells only, and that cell is final then. -/
theorem fill (h : Filled xs ys (i + 1) (j + 1) t) (hx : xs[i]? = some x) (hy : ys[j]? = some y)
    {final : Nat → Nat → Nat}
    (hfinal : ∀ i ≤ xs.length, ∀ j ≤ ys.length, final i j = goal xs ys i j) :
    t.fill? final (i + 1) (j + 1) (x = y) = some (t.fill (i + 1) (j + 1) (x = y)) ∧
    Filled xs ys (i + 1) (j + 2) (t.fill (i + 1) (j + 1) (x = y)) := by
  have hi : i < xs.length := (List.getElem?_eq_some_iff.mp hx).1
  have hj : j < ys.length := (List.getElem?_eq_some_iff.mp hy).1
  have hinside : t.Inside (i + 1) (j + 1) := h.inside (by omega) (by omega)
  have hdiagonal := h.read?_eq hfinal (i := i) (j := j) (by omega) (by omega) (by omega)
  have habove := h.read?_eq hfinal (i := i) (j := j + 1) (by omega) (by omega) (by omega)
  have hleft := h.read?_eq hfinal (i := i + 1) (j := j) (by omega) (by omega) (by omega)
  have hvalue : (if x = y then t.cell i j + 1 else max (t.cell i (j + 1)) (t.cell (i + 1) j))
      = goal xs ys (i + 1) (j + 1) := by
    rw [goal_succ_succ hx hy, h.cell_eq i (by omega) j (by omega) (by omega),
      h.cell_eq i (by omega) (j + 1) (by omega) (by omega),
      h.cell_eq (i + 1) (by omega) j (by omega) (by omega)]
  constructor
  · unfold fill? Table.fill write?
    rw [Nat.add_sub_cancel, Nat.add_sub_cancel, hdiagonal, habove, hleft]
    by_cases hxy : x = y
    · simp [hxy, hinside]
    · simp [hxy, hinside]
  · unfold Table.fill
    rw [Nat.add_sub_cancel, Nat.add_sub_cancel]
    refine ⟨h.height_eq, h.width_eq, ?_, fun i' hi' j' hj' hij => ?_⟩
    · exact (Array.size_setIfInBounds).trans h.size_eq
    · by_cases hnew : i + 1 = i' ∧ j + 1 = j'
      · rw [← hnew.1, ← hnew.2, cell_write_self _ hinside.2.2, ← hvalue]
        simp only [decide_eq_true_eq]
      · have hwidth := h.width_eq
        rw [cell_write_of_ne _ (by omega) (by omega) hnew]
        exact h.cell_eq i' hi' j' hj' (by omega)

end Filled

/-! ## The loops -/

/-- **A loop over a numbered list.**  If every round of it succeeds and keeps `P`, then the loop
    succeeds, and `P` holds behind it. -/
theorem foldlM_zipIdx {β σ : Type} {l : List β} {f : σ → β × Nat → σ}
    {g : σ → β × Nat → Option σ} {P : Nat → σ → Prop}
    (round : ∀ k s y, l[k]? = some y → P k s →
      g s (y, k + 1) = some (f s (y, k + 1)) ∧ P (k + 1) (f s (y, k + 1)))
    {s : σ} (start : P 0 s) :
    (l.zipIdx 1).foldlM g s = some ((l.zipIdx 1).foldl f s) ∧
    P l.length ((l.zipIdx 1).foldl f s) := by
  -- The induction is on what is still to come; `done` counts the rounds behind.
  have hrest : ∀ (rest done : List β) (s : σ), l = done ++ rest → P done.length s →
      (rest.zipIdx (done.length + 1)).foldlM g s
        = some ((rest.zipIdx (done.length + 1)).foldl f s) ∧
      P l.length ((rest.zipIdx (done.length + 1)).foldl f s) := by
    intro rest
    induction rest with
    | nil =>
      intro done s hl hP
      rw [List.append_nil] at hl
      rw [hl]
      exact ⟨rfl, hP⟩
    | cons y rest ih =>
      intro done s hl hP
      have hy : l[done.length]? = some y := by
        rw [hl, List.getElem?_append_right (Nat.le_refl _), Nat.sub_self]
        rfl
      obtain ⟨hok, hnext⟩ := round done.length s y hy hP
      have hlen : (done ++ [y]).length = done.length + 1 := List.length_append
      have hrest := ih (done ++ [y]) (f s (y, done.length + 1))
        (by rw [hl, List.append_assoc, List.singleton_append]) (hlen ▸ hnext)
      rw [hlen] at hrest
      rw [List.zipIdx_cons, List.foldlM_cons, hok]
      exact hrest
  exact hrest l [] s rfl start

/-- **One row.** -/
theorem checked_fillRow {final : Nat → Nat → Nat}
    (hfinal : ∀ i ≤ xs.length, ∀ j ≤ ys.length, final i j = goal xs ys i j)
    (hx : xs[i]? = some x) (h : Filled xs ys (i + 1) 1 t) :
    t.fillRow? final ys x (i + 1) = some (t.fillRow ys x (i + 1)) ∧
    Filled xs ys (i + 2) 1 (t.fillRow ys x (i + 1)) := by
  have hrow := foldlM_zipIdx (P := fun k t => Filled xs ys (i + 1) (k + 1) t)
    (f := fun t (y, j) => t.fill (i + 1) j (x = y))
    (g := fun t (y, j) => t.fill? final (i + 1) j (x = y))
    (fun k t y hy ht => ht.fill hx hy hfinal) h
  exact ⟨hrow.1, hrow.2.next_row⟩

/-- **The table.** -/
theorem checked_build (final : Nat → Nat → Nat)
    (hfinal : ∀ i ≤ xs.length, ∀ j ≤ ys.length, final i j = goal xs ys i j) :
    build? final xs ys = some (build xs ys) ∧ Filled xs ys (xs.length + 1) 1 (build xs ys) := by
  have htable := foldlM_zipIdx (P := fun k t => Filled xs ys (k + 1) 1 t)
    (f := fun t (x, i) => t.fillRow ys x i) (g := fun t (x, i) => t.fillRow? final ys x i)
    (fun k t x hx ht => checked_fillRow hfinal hx ht) (filled_zeros xs ys)
  exact htable

theorem filled_build (xs ys : List α) : Filled xs ys (xs.length + 1) 1 (build xs ys) :=
  (checked_build (goal xs ys) fun _ _ _ _ => rfl).2

/-- **The cells.**  Inside of the table, the cell in row `i` and column `j` is the greatest length
    of a common subsequence of the first `i` and the first `j` elements, read from the end. -/
theorem cell_build {xs ys : List α} {i j : Nat} (hi : i ≤ xs.length) (hj : j ≤ ys.length) :
    (build xs ys).cell i j = lcs (xs.take i).reverse (ys.take j).reverse :=
  (filled_build xs ys).cell_eq i hi j hj (.inl (Nat.lt_succ_of_le hi))

end Redline.Diff.Table
