/-
  Lines that are taken out — a text beside what is left of it.

  1. **Nothing added** — what is left of a text is a common subsequence of both, and an alignment
     keeps a longest one; so it adds no line (`additions_align_of_sublist`), and the deleted lines
     make up for what the new text lacks (`perm_append_deleted`).

  2. **One line** — if one line is taken out, one line is deleted.  It need not be the one that was
     taken out, for equal lines may stand beside it, but it is equal to it (`deleted_align_of_cut`).
-/
import Redline.Proofs.Diff.Alignment

namespace Redline.Diff

/-! ## Nothing added -/

variable {old new : List String}

/-- **What is left of a text** is shown without an added line. -/
theorem additions_align_of_sublist (h : new.Sublist old) : (align old new).additions = 0 := by
  have hlcs := length_le_lcs h (List.Sublist.refl new)
  have hunchanged := unchanged_align old new
  have hnew := (align old new).length_newLines
  rw [(wellFormed_align old new).newLines_eq] at hnew
  omega

/-- The deleted lines are what the new text lacks. -/
theorem perm_append_deleted (h : new.Sublist old) :
    old.Perm (new ++ (align old new).contents .deleted) := by
  have hwf := wellFormed_align old new
  have hadded : (align old new).contents .added = [] := by
    rw [← List.length_eq_zero_iff, Alignment.length_contents]
    exact additions_align_of_sublist h
  have hold := (align old new).perm_oldLines
  have hnew := (align old new).perm_newLines
  rw [hwf.oldLines_eq] at hold
  rw [hwf.newLines_eq, hadded, List.append_nil] at hnew
  exact hold.trans (hnew.symm.append_right _)

/-! ## One line -/

/-- **One line taken out** of a text is one line deleted, of the same content. -/
theorem deleted_align_of_cut (before after : List String) (line : String) :
    (align (before ++ line :: after) (before ++ after)).contents .deleted = [line] := by
  have hsub : (before ++ after).Sublist (before ++ line :: after) :=
    (List.sublist_cons_self line after).append_left before
  have hperm := perm_append_deleted hsub
  -- The line can as well stand behind all others.
  have hcut : (before ++ line :: after).Perm (before ++ after ++ [line]) :=
    List.perm_middle.trans (List.perm_append_singleton line (before ++ after)).symm
  have hdeleted := (List.perm_append_left_iff _).mp (hperm.symm.trans hcut)
  exact List.perm_singleton.mp hdeleted

/-- Of two equal lines it is the first that is shown deleted, whichever was taken out. -/
example : (align ["a", "b", "b"] ["a", "b"]).lines
    = [.unchanged "a" 1 1, .deleted "b" 2, .unchanged "b" 3 2] := by cbv

end Redline.Diff
