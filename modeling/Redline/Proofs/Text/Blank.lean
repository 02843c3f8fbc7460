/-
  More about trimming — what it keeps.

  Trimming takes characters away at the two ends and nowhere else, so what is left is a part of the
  text (`trimmed_sublist`).  Nothing is taken away when neither end is blank, whatever stands
  between them (`trimmed_eq_self_iff`), and everything when all of the text is blank
  (`trimmed_eq_nil_iff`).  What is taken away is blank (`exists_surrounded`), and more blank
  characters at either end change nothing (`trimmed_surrounded`).
-/
import Redline.Text.Blank
import Mathlib.Data.List.TakeWhile

namespace Redline.Text

theorem trimmedEnd_sublist (cs : List Char) : (trimmedEnd cs).Sublist cs := by
  have h := (List.dropWhile_sublist isBlank (l := cs.reverse)).reverse
  rwa [List.reverse_reverse] at h

theorem trimmed_sublist (cs : List Char) : (trimmed cs).Sublist cs :=
  (trimmedEnd_sublist _).trans (List.dropWhile_sublist isBlank)

/-- A blank character in front makes no difference. -/
theorem trimmed_cons_of_isBlank {c : Char} (h : isBlank c) (cs : List Char) :
    trimmed (c :: cs) = trimmed cs := by
  rw [trimmed, List.dropWhile_cons_of_pos h, trimmed]

/-! ## Nothing to trim -/

theorem dropWhile_isBlank_eq_self_iff {cs : List Char} :
    cs.dropWhile isBlank = cs ↔ ∀ c ∈ cs.head?, isBlank c = false := by
  rw [List.dropWhile_eq_self_iff]
  cases cs with
  | nil => simp
  | cons c cs => simp

theorem trimmedEnd_eq_self_iff {cs : List Char} :
    trimmedEnd cs = cs ↔ ∀ c ∈ cs.getLast?, isBlank c = false := by
  rw [trimmedEnd, List.reverse_eq_iff, dropWhile_isBlank_eq_self_iff, List.head?_reverse]

/-- **A text is kept whole** exactly when neither its first nor its last character is blank. -/
theorem trimmed_eq_self_iff {cs : List Char} : trimmed cs = cs ↔
    (∀ c ∈ cs.head?, isBlank c = false) ∧ ∀ c ∈ cs.getLast?, isBlank c = false := by
  rw [← dropWhile_isBlank_eq_self_iff, ← trimmedEnd_eq_self_iff]
  constructor
  · intro h
    have hle := (trimmedEnd_sublist (cs.dropWhile isBlank)).length_le
    rw [← trimmed, h] at hle
    have hstart := (List.dropWhile_sublist isBlank).eq_of_length_le hle
    rw [trimmed, hstart] at h
    exact ⟨hstart, h⟩
  · rintro ⟨hstart, hend⟩
    rw [trimmed, hstart, hend]

theorem trim_eq_self_iff {s : String} : trim s = s ↔
    (∀ c ∈ s.toList.head?, isBlank c = false) ∧ ∀ c ∈ s.toList.getLast?, isBlank c = false := by
  rw [← String.toList_inj, toList_trim, trimmed_eq_self_iff]

/-- A text without blank characters is kept whole. -/
theorem trimmed_of_forall {cs : List Char} (h : ∀ c ∈ cs, isBlank c = false) : trimmed cs = cs :=
  trimmed_eq_self_iff.mpr
    ⟨fun c hc => h c (List.mem_of_head? hc), fun c hc => h c (List.mem_of_getLast? hc)⟩

/-- A text is kept whole between two characters that are not blank. -/
theorem trimmed_of_ends {a b : Char} (ha : isBlank a = false) (hb : isBlank b = false)
    (cs : List Char) : trimmed (a :: cs ++ [b]) = a :: cs ++ [b] := by
  refine trimmed_eq_self_iff.mpr ⟨fun c hc => ?_, fun c hc => ?_⟩
  · rw [List.cons_append, List.head?_cons, Option.mem_some_iff] at hc
    rwa [← hc]
  · rw [List.getLast?_concat, Option.mem_some_iff] at hc
    rwa [← hc]

/-! ## Nothing but blank characters -/

/-- **Nothing is left** of a text exactly when all of it is blank. -/
theorem trimmed_eq_nil_iff {cs : List Char} : trimmed cs = [] ↔ ∀ c ∈ cs, isBlank c := by
  rw [trimmed, trimmedEnd, List.reverse_eq_nil_iff, List.dropWhile_eq_nil_iff]
  constructor
  · intro h c hc
    rw [← List.takeWhile_append_dropWhile (p := isBlank) (l := cs), List.mem_append] at hc
    rcases hc with hc | hc
    · exact List.mem_takeWhile_imp hc
    · exact h c (List.mem_reverse.mpr hc)
  · intro h c hc
    exact h c ((List.dropWhile_sublist isBlank).subset (List.mem_reverse.mp hc))

/-! ## Blank characters around a text -/

/-- A text is what is left of it, between blank characters. -/
theorem exists_surrounded (cs : List Char) : ∃ before after : List Char,
    cs = before ++ trimmed cs ++ after ∧
    (∀ c ∈ before, isBlank c) ∧ ∀ c ∈ after, isBlank c := by
  have hstart : cs.takeWhile isBlank ++ cs.dropWhile isBlank = cs := List.takeWhile_append_dropWhile
  have hend := List.takeWhile_append_dropWhile (p := isBlank) (l := (cs.dropWhile isBlank).reverse)
  rw [← List.reverse_inj, List.reverse_append, List.reverse_reverse] at hend
  refine ⟨cs.takeWhile isBlank, ((cs.dropWhile isBlank).reverse.takeWhile isBlank).reverse, ?_,
    fun c hc => List.mem_takeWhile_imp hc,
    fun c hc => List.mem_takeWhile_imp (List.mem_reverse.mp hc)⟩
  rw [trimmed, trimmedEnd, List.append_assoc, hend, hstart]

/-- Blank characters around a text are trimmed with its own. -/
theorem trimmed_surrounded {before after : List Char} (cs : List Char)
    (hbefore : ∀ c ∈ before, isBlank c) (hafter : ∀ c ∈ after, isBlank c) :
    trimmed (before ++ cs ++ after) = trimmed cs := by
  by_cases hcs : ∀ c ∈ cs, isBlank c
  · -- Nothing is left of either text.
    have hall : ∀ c ∈ before ++ cs ++ after, isBlank c :=
      List.forall_mem_append.mpr ⟨List.forall_mem_append.mpr ⟨hbefore, hcs⟩, hafter⟩
    rw [trimmed_eq_nil_iff.mpr hall, trimmed_eq_nil_iff.mpr hcs]
  · have hempty : (cs.dropWhile isBlank).isEmpty = false :=
      Bool.eq_false_iff.mpr fun h => hcs (List.dropWhile_eq_nil_iff.mp (List.isEmpty_iff.mp h))
    rw [trimmed, List.append_assoc, List.dropWhile_append_of_pos hbefore, List.dropWhile_append,
      hempty, if_neg Bool.false_ne_true, trimmedEnd, List.reverse_append,
      List.dropWhile_append_of_pos fun c hc => hafter c (List.mem_reverse.mp hc), trimmed,
      trimmedEnd]

end Redline.Text
