/-
  More about pieces — concatenations, and pieces as stretches between two separators.

  `join_pieces` and `not_mem_of_mem_pieces` say that splitting loses nothing.  What a writer needs
  is the other direction: a text that was put together from pieces falls apart into these pieces.

  1. `pieces_append_cons` — a separator between two texts cuts exactly there, so the pieces of a
     written form are the pieces of its parts.
  2. `pieces_join` — pieces without the separator, once joined, split into themselves.
  3. `mem_pieces_iff` — a piece is what stands between two separators, if one more separator is
     put at either end.  With `infix_append_cons_iff` this finds out in WHICH part of a text a
     piece can come about.
-/
import Redline.Text.Pieces
import Mathlib.Data.List.Infix

namespace Redline.Text

variable {sep : Char}

/-! ## Joining -/

@[simp] theorem join_nil (sep : List Char) : join sep [] = [] := rfl

theorem join_cons_of_ne_nil (sep p : List Char) {ps : List (List Char)} (h : ps ≠ []) :
    join sep (p :: ps) = p ++ sep ++ join sep ps := by
  obtain ⟨q, qs, rfl⟩ := List.exists_cons_of_ne_nil h
  exact join_cons_cons sep p q qs

/-- A character in front of the first piece stands in front of all. -/
theorem join_cons_cons_head (sep : List Char) (c : Char) (p : List Char) (ps : List (List Char)) :
    join sep ((c :: p) :: ps) = c :: join sep (p :: ps) := by
  cases ps with
  | nil => rw [join_singleton, join_singleton]
  | cons q qs => rw [join_cons_cons, join_cons_cons, List.cons_append, List.cons_append]

theorem join_append {ps qs : List (List Char)} (hp : ps ≠ []) (hq : qs ≠ []) :
    join [sep] (ps ++ qs) = join [sep] ps ++ sep :: join [sep] qs := by
  induction ps with
  | nil => exact absurd rfl hp
  | cons p ps ih =>
    cases ps with
    | nil =>
      rw [List.singleton_append, join_cons_of_ne_nil _ _ hq, join_singleton, List.append_assoc]
      rfl
    | cons p' ps =>
      rw [List.cons_append, join_cons_of_ne_nil _ _ (by simp), ih (by simp), join_cons_cons]
      simp only [List.append_assoc]

/-- What is joined behind other pieces is not longer than the whole. -/
theorem length_join_le (sep : Char) (ps qs : List (List Char)) :
    (join [sep] qs).length ≤ (join [sep] (ps ++ qs)).length := by
  by_cases hp : ps = []
  · rw [hp, List.nil_append]
  · by_cases hq : qs = []
    · rw [hq, join_nil, List.length_nil]
      exact Nat.zero_le _
    · rw [join_append hp hq, List.length_append, List.length_cons]
      omega

/-- What stands in one of several texts stands in what they are joined to. -/
theorem mem_join {c : Char} {p : List Char} {ps : List (List Char)} (hc : c ∈ p) (hp : p ∈ ps) :
    c ∈ join [sep] ps := by
  induction ps with
  | nil => exact absurd hp List.not_mem_nil
  | cons q ps ih =>
    by_cases hps : ps = []
    · rw [hps] at hp ⊢
      rw [join_singleton]
      rwa [List.mem_singleton.mp hp] at hc
    · rw [join_cons_of_ne_nil _ _ hps]
      rcases List.mem_cons.mp hp with rfl | hp
      · exact List.mem_append_left _ (List.mem_append_left _ hc)
      · exact List.mem_append_right _ (ih hp)

/-- What stands in a joined text stands in one of its parts, or in the separator. -/
theorem mem_or_mem_of_mem_join {c : Char} {sep : List Char} {ps : List (List Char)}
    (h : c ∈ join sep ps) : c ∈ sep ∨ ∃ p ∈ ps, c ∈ p := by
  induction ps with
  | nil => exact absurd h List.not_mem_nil
  | cons p ps ih =>
    by_cases hps : ps = []
    · rw [hps, join_singleton] at h
      exact Or.inr ⟨p, List.mem_cons_self, h⟩
    · rw [join_cons_of_ne_nil _ _ hps, List.mem_append, List.mem_append] at h
      rcases h with (h | h) | h
      · exact Or.inr ⟨p, List.mem_cons_self, h⟩
      · exact Or.inl h
      · exact (ih h).imp_right fun ⟨q, hq, hc⟩ => ⟨q, List.mem_cons_of_mem p hq, hc⟩

/-! ## Splitting what was put together -/

/-- A separator between two texts cuts exactly there. -/
theorem pieces_append_cons (cs ds : List Char) :
    pieces sep (cs ++ sep :: ds) = pieces sep cs ++ pieces sep ds := by
  induction cs with
  | nil => rw [List.nil_append, pieces_cons_self, pieces_nil, List.singleton_append]
  | cons c cs ih =>
    by_cases hc : c = sep
    · subst hc
      rw [List.cons_append, pieces_cons_self, pieces_cons_self, ih, List.cons_append]
    · obtain ⟨p, ps, hp, hcp⟩ := pieces_cons_of_ne hc cs
      obtain ⟨q, qs, hq, hcq⟩ := pieces_cons_of_ne hc (cs ++ sep :: ds)
      rw [ih, hp, List.cons_append] at hq
      obtain ⟨rfl, rfl⟩ := List.cons.inj hq
      rw [List.cons_append, hcq, hcp, List.cons_append]

/-- A text without the separator is one piece. -/
theorem pieces_of_not_mem {cs : List Char} (h : sep ∉ cs) : pieces sep cs = [cs] := by
  induction cs with
  | nil => rfl
  | cons c cs ih =>
    rw [List.mem_cons, not_or] at h
    obtain ⟨p, ps, hp, hcp⟩ := pieces_cons_of_ne (Ne.symm h.1) cs
    rw [ih h.2] at hp
    obtain ⟨rfl, rfl⟩ := List.cons.inj hp
    exact hcp

/-- A piece holds nothing that the text does not hold. -/
theorem mem_of_mem_pieces {c : Char} {cs p : List Char} (hc : c ∈ p) (hp : p ∈ pieces sep cs) :
    c ∈ cs := by
  rw [← join_pieces sep cs]
  exact mem_join hc hp

theorem flatMap_pieces_of_not_mem {ls : List (List Char)} (h : ∀ l ∈ ls, sep ∉ l) :
    ls.flatMap (pieces sep) = ls := by
  induction ls with
  | nil => rfl
  | cons l ls ih =>
    rw [List.forall_mem_cons] at h
    rw [List.flatMap_cons, pieces_of_not_mem h.1, ih h.2, List.singleton_append]

/-- Pieces without the separator, once joined, split into themselves. -/
theorem pieces_join {ps : List (List Char)} (hne : ps ≠ []) (h : ∀ p ∈ ps, sep ∉ p) :
    pieces sep (join [sep] ps) = ps := by
  induction ps with
  | nil => exact absurd rfl hne
  | cons p ps ih =>
    rw [List.forall_mem_cons] at h
    by_cases hps : ps = []
    · rw [hps, join_singleton, pieces_of_not_mem h.1]
    · rw [join_cons_of_ne_nil _ _ hps, List.append_assoc, List.singleton_append,
        pieces_append_cons, pieces_of_not_mem h.1, ih hps h.2, List.singleton_append]

/-- A text behind which each piece is followed by a separator splits at each of them. -/
theorem pieces_flatMap_append (ps : List (List Char)) (ds : List Char) :
    pieces sep (ps.flatMap (· ++ [sep]) ++ ds) = ps.flatMap (pieces sep) ++ pieces sep ds := by
  induction ps with
  | nil => rfl
  | cons p ps ih =>
    rw [List.flatMap_cons, List.flatMap_cons, List.append_assoc, List.append_assoc,
      List.singleton_append, pieces_append_cons, ih, List.append_assoc]

/-- A text with given lines has these lines. -/
theorem lines_unlines {ls : List String} (hne : ls ≠ []) (h : ∀ l ∈ ls, '\n' ∉ l.toList) :
    lines (unlines ls) = ls := by
  have hpieces : pieces '\n' (join ['\n'] (ls.map String.toList)) = ls.map String.toList :=
    pieces_join (by simpa using hne) (List.forall_mem_map.mpr h)
  rw [lines, unlines, String.toList_ofList, hpieces, List.map_map]
  exact List.map_id'' (fun _ => String.ofList_toList) ls

/-- A line holds no line feed. -/
theorem newline_not_mem_of_mem_lines {s l : String} (h : l ∈ lines s) : '\n' ∉ l.toList := by
  have hpiece := List.mem_map_of_mem h (f := String.toList)
  rw [map_toList_lines] at hpiece
  exact not_mem_of_mem_pieces hpiece

/-! ## At the first separator -/

theorem splitFirst?_append_cons {cs : List Char} (h : sep ∉ cs) (ds : List Char) :
    splitFirst? sep (cs ++ sep :: ds) = some (cs, ds) := by
  have hgo : ∀ c ∈ cs, decide (c ≠ sep) = true :=
    fun c hc => decide_eq_true fun heq => h (heq ▸ hc)
  rw [splitFirst?, List.dropWhile_append_of_pos hgo, List.dropWhile_cons_of_neg (by simp),
    List.takeWhile_append_of_pos hgo, List.takeWhile_cons_of_neg (by simp), List.append_nil]

/-- Where neither front part has the separator, equal texts have equal parts. -/
theorem append_cons_inj {cs cs' ds ds' : List Char} (hcs : sep ∉ cs) (hcs' : sep ∉ cs')
    (h : cs ++ sep :: ds = cs' ++ sep :: ds') : cs = cs' ∧ ds = ds' := by
  have hcut := congrArg (splitFirst? sep) h
  rw [splitFirst?_append_cons hcs, splitFirst?_append_cons hcs'] at hcut
  exact Prod.mk.inj (Option.some.inj hcut)

/-- **The first separator** stands between a part that has none and the rest. -/
theorem splitFirst?_eq_some_iff {cs key value : List Char} :
    splitFirst? sep cs = some (key, value) ↔ cs = key ++ sep :: value ∧ sep ∉ key := by
  constructor
  · intro h
    rw [splitFirst?] at h
    split at h
    · cases h
    · rename_i c rest hrest
      cases h
      have hc := List.head?_dropWhile_not (fun c => decide (c ≠ sep)) cs
      simp only [hrest, List.head?_cons, decide_eq_false_iff_not, not_not] at hc
      subst hc
      refine ⟨?_, ?_⟩
      · rw [← hrest, List.takeWhile_append_dropWhile]
      · intro hmem
        have hne := List.all_eq_true.mp List.all_takeWhile c hmem
        exact of_decide_eq_true hne rfl
  · rintro ⟨rfl, hkey⟩
    exact splitFirst?_append_cons hkey value

/-- What stands behind the first separator is a part of the text. -/
theorem sublist_of_splitFirst? {cs key value : List Char}
    (h : splitFirst? sep cs = some (key, value)) : value.Sublist cs := by
  rw [splitFirst?] at h
  split at h
  · cases h
  · rename_i c rest hrest
    cases h
    exact (List.sublist_cons_self c value).trans (hrest ▸ List.dropWhile_sublist _)

/-! ## Where a piece stands -/

/-- Between two separators there is a piece, and every piece stands between two separators when
    one more is put at either end. -/
theorem mem_pieces_iff {p : List Char} (hp : sep ∉ p) (cs : List Char) :
    p ∈ pieces sep cs ↔ sep :: p ++ [sep] <:+: sep :: cs ++ [sep] := by
  have hpad : pieces sep (sep :: cs ++ [sep]) = [] :: pieces sep cs ++ [[]] := by
    rw [List.cons_append, pieces_cons_self, pieces_append_cons, pieces_nil, List.cons_append]
  constructor
  · intro hmem
    obtain ⟨as, bs, hsplit⟩ := List.append_of_mem hmem
    have hjoin := join_pieces sep (sep :: cs ++ [sep])
    have hcut : [] :: pieces sep cs ++ [[]] = ([] :: as) ++ (p :: (bs ++ [[]])) := by
      rw [hsplit, List.cons_append, List.cons_append, List.append_assoc, List.cons_append]
    rw [hpad, hcut, join_append (List.cons_ne_nil _ _) (List.cons_ne_nil _ _),
      join_cons_of_ne_nil [sep] p (by simp)] at hjoin
    -- What is joined in front of `p` and behind it is the rest of the padded text.
    refine ⟨join [sep] ([] :: as), join [sep] (bs ++ [[]]), ?_⟩
    rw [← hjoin]
    simp only [List.append_assoc, List.cons_append]
  · rintro ⟨s, t, hst⟩
    have hsplit : pieces sep (s ++ (sep :: p ++ [sep]) ++ t)
        = pieces sep s ++ p :: pieces sep t := by
      rw [show s ++ (sep :: p ++ [sep]) ++ t = s ++ sep :: (p ++ sep :: t) by simp,
        pieces_append_cons, pieces_append_cons, pieces_of_not_mem hp, List.singleton_append]
    obtain ⟨q, qs, hq⟩ := List.exists_cons_of_ne_nil (pieces_ne_nil sep s)
    -- The first and the last piece are the empty ones around the text.
    have hlast := List.dropLast_append_getLast (pieces_ne_nil sep t)
    rw [hst, hpad, hq, ← hlast, List.cons_append, List.cons_append] at hsplit
    have htail := (List.cons.inj hsplit).2
    rw [← List.cons_append, ← List.append_assoc] at htail
    have hinit := List.append_inj_left' htail rfl
    rw [hinit]
    exact List.mem_append_right _ List.mem_cons_self

/-- A stretch without the character `c` stands on one side of it. -/
theorem infix_append_cons_iff {c : Char} {w : List Char} (hne : w ≠ []) (hc : c ∉ w)
    (cs ds : List Char) : w <:+: cs ++ c :: ds ↔ w <:+: cs ∨ w <:+: ds := by
  constructor
  · intro h
    rcases List.infix_append_iff_ne_nil.mp h with hl | hr | ⟨l, r, _, hrne, rfl, _, hpre⟩
    · exact Or.inl hl
    · rcases List.infix_cons_iff.mp hr with hpre | hr
      · obtain ⟨x, xs, rfl⟩ := List.exists_cons_of_ne_nil hne
        obtain ⟨rfl, _⟩ := List.cons_prefix_cons.mp hpre
        exact absurd List.mem_cons_self hc
      · exact Or.inr hr
    · obtain ⟨x, xs, rfl⟩ := List.exists_cons_of_ne_nil hrne
      obtain ⟨rfl, _⟩ := List.cons_prefix_cons.mp hpre
      exact absurd (List.mem_append_right l List.mem_cons_self) hc
  · rintro (h | h)
    · exact h.trans (List.prefix_append _ _).isInfix
    · exact h.trans ((List.suffix_cons c ds).trans (List.suffix_append _ _)).isInfix

end Redline.Text
