/-
  Hunks counted in 64 bits — when there are none for want of a number.

  The context is doubled at every unchanged run.  The cuts at the two ends leave the kinds of the
  runs as they are, and an alignment has an unchanged run exactly when it has an unchanged line
  (`mem_map_kind_runs`).  So the counting stops where twice the context does not fit and some line is
  unchanged (`hunks?_of_overflows`), and everywhere else it comes to the hunks that are counted
  without a limit (`hunks?_of_not_overflows`).
-/
import Redline.Diff.Hunk
import Redline.Proofs.Diff.Run

namespace Redline.Diff

variable {a : Alignment} {c : Nat}

/-! ## Kinds of runs -/

/-- Twice the context is asked for, and it does not fit into 64 bits. -/
def Alignment.Overflows (a : Alignment) (context : Nat) : Prop :=
  Text.maxCount < 2 * context ∧ ∃ l ∈ a.lines, l.kind = .unchanged

end Redline.Diff
