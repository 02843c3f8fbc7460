/-
  Common tails — lines that both texts end with.

  The walk back pairs equal lines at once, so what two texts end with is paired before anything else
  is looked at.  It is reported unchanged, line by line, and what stands in front of it is aligned
  as if it stood alone, however often the lines of the tail occur there too.
-/
import Redline.Proofs.Diff.Script

namespace Redline.Diff

/-- The lines `ls`, all unchanged, behind `i` old and `j` new lines. -/
def unchangedLines (i j : Nat) (ls : List String) : List DiffLine :=
  ls.mapIdx fun n l => .unchanged l (i + 1 + n) (j + 1 + n)

theorem unchangedLines_cons (i j : Nat) (l : String) (ls : List String) :
    unchangedLines i j (l :: ls)
      = .unchanged l (i + 1) (j + 1) :: unchangedLines (i + 1) (j + 1) ls := by
  rw [unchangedLines, List.mapIdx_cons, unchangedLines]
  refine congrArg₂ _ rfl (congrArg (ls.mapIdx ·) ?_)
  funext n x
  rw [Nat.add_right_comm (i + 1) 1 n, Nat.add_right_comm (j + 1) 1 n]
  rfl

/-- One line that both texts end with. -/
theorem lines_align_concat (old new : List String) (l : String) :
    (align (old ++ [l]) (new ++ [l])).lines
      = (align old new).lines ++ [.unchanged l (old.length + 1) (new.length + 1)] := by
  have hscript : editScript (l :: old.reverse) (l :: new.reverse)
      = .unchanged l (old.length + 1) (new.length + 1) :: editScript old.reverse new.reverse := by
    rw [editScript, if_pos rfl, List.length_reverse, List.length_reverse]
  rw [lines_align, List.reverse_append, List.reverse_append, List.reverse_singleton,
    List.singleton_append, List.singleton_append, hscript, List.reverse_cons, ← lines_align]

/-- **A common tail** takes no part: it is unchanged, and the rest is aligned without it. -/
theorem lines_align_append (old new tail : List String) :
    (align (old ++ tail) (new ++ tail)).lines
      = (align old new).lines ++ unchangedLines old.length new.length tail := by
  induction tail generalizing old new with
  | nil =>
    rw [List.append_nil, List.append_nil]
    exact (List.append_nil _).symm
  | cons l tail ih =>
    rw [List.append_cons old, List.append_cons new, ih, lines_align_concat, List.length_append,
      List.length_append, List.length_singleton, unchangedLines_cons, List.append_assoc,
      List.singleton_append]

end Redline.Diff
