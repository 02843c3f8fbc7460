/-
  Pieces of a text — splitting at a separator and joining again.

  A text with `n` separators has `n + 1` pieces, so the empty text has one piece, the empty one.
  Joining the pieces with the separator gives the text back (`join_pieces`), and no piece holds
  the separator (`not_mem_of_mem_pieces`).  Lines are the pieces at the line feed; no other
  character ends a line.
-/

namespace Redline.Text

/-- The pieces of `cs` between the occurrences of `sep`. -/
def pieces (sep : Char) (cs : List Char) : List (List Char) :=
  cs.foldr
    (fun c ps =>
      if c = sep then [] :: ps
      else match ps with
        | [] => [[c]]
        | p :: rest => (c :: p) :: rest)
    [[]]

/-- The pieces `ps` with `sep` between each two neighbours. -/
def join (sep : List Char) (ps : List (List Char)) : List Char :=
  List.intercalate sep ps

/-- The lines of `s`. -/
def lines (s : String) : List String :=
  (pieces '\n' s.toList).map String.ofList

/-- The text with the lines `ls`. -/
def unlines (ls : List String) : String :=
  String.ofList (join ['\n'] (ls.map String.toList))

/-- `cs` up to the first `sep` and behind it, when there is one. -/
def splitFirst? (sep : Char) (cs : List Char) : Option (List Char × List Char) :=
  match cs.dropWhile (· ≠ sep) with
  | [] => none
  | _ :: rest => some (cs.takeWhile (· ≠ sep), rest)

/-! ## Splitting and joining are inverse -/

@[simp] theorem pieces_nil (sep : Char) : pieces sep [] = [[]] := rfl

theorem pieces_cons_self (sep : Char) (cs : List Char) :
    pieces sep (sep :: cs) = [] :: pieces sep cs := by
  simp [pieces]

theorem pieces_ne_nil (sep : Char) (cs : List Char) : pieces sep cs ≠ [] := by
  cases cs with
  | nil => simp
  | cons c cs =>
    simp only [pieces, List.foldr_cons]
    split
    · simp
    · split <;> simp

theorem pieces_cons_of_ne {sep c : Char} (h : c ≠ sep) (cs : List Char) :
    ∃ p ps, pieces sep cs = p :: ps ∧ pieces sep (c :: cs) = (c :: p) :: ps := by
  obtain ⟨p, ps, hp⟩ := List.exists_cons_of_ne_nil (pieces_ne_nil sep cs)
  refine ⟨p, ps, hp, ?_⟩
  unfold pieces at hp ⊢
  simp [h, hp]

@[simp] theorem join_singleton (sep p : List Char) : join sep [p] = p := by
  simp [join]

theorem join_cons_cons (sep p q : List Char) (ps : List (List Char)) :
    join sep (p :: q :: ps) = p ++ sep ++ join sep (q :: ps) := by
  simp [join]

/-- Joining the pieces with the separator gives the text back. -/
theorem join_pieces (sep : Char) (cs : List Char) : join [sep] (pieces sep cs) = cs := by
  induction cs with
  | nil => simp
  | cons c cs ih =>
    by_cases h : c = sep
    · subst h
      obtain ⟨p, ps, hp⟩ := List.exists_cons_of_ne_nil (pieces_ne_nil c cs)
      rw [pieces_cons_self, hp, join_cons_cons, ← hp, ih]
      simp
    · obtain ⟨p, ps, hp, hc⟩ := pieces_cons_of_ne h cs
      rw [hc]
      rw [hp] at ih
      cases ps with
      | nil => simpa using ih
      | cons q qs =>
        rw [join_cons_cons] at ih ⊢
        simp [← ih]

/-- No piece holds the separator. -/
theorem not_mem_of_mem_pieces {sep : Char} {cs p : List Char} (h : p ∈ pieces sep cs) :
    sep ∉ p := by
  induction cs generalizing p with
  | nil => simp_all
  | cons c cs ih =>
    by_cases hc : c = sep
    · subst hc
      rw [pieces_cons_self] at h
      rcases List.mem_cons.1 h with rfl | h
      · simp
      · exact ih h
    · obtain ⟨q, qs, hq, hcq⟩ := pieces_cons_of_ne hc cs
      rw [hcq] at h
      rcases List.mem_cons.1 h with rfl | h
      · have := ih (p := q) (by simp [hq])
        simp [this, Ne.symm hc]
      · exact ih (by simp [hq, h])

/-- The lines of a text are its pieces. -/
theorem map_toList_lines (s : String) : (lines s).map String.toList = pieces '\n' s.toList := by
  rw [lines, List.map_map]
  exact List.map_id'' (fun _ => String.toList_ofList) _

/-- A text is the text with its own lines. -/
theorem unlines_lines (s : String) : unlines (lines s) = s := by
  rw [unlines, map_toList_lines, join_pieces, String.ofList_toList]

end Redline.Text
