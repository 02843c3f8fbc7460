/-
  Groups of runs — they tile the stretches around the changes of an alignment.

  1. **Cutting keeps places** — a trimmed run stands where its first or its last lines stood
     (`takeFirst`, `takeLast`), so every group tiles an interval of positions.

  2. **What an unchanged run shows** — the first `c` lines behind a change are shown, and so are the
     last `c` lines in front of one (`shows_of_before`, `shows_of_behind`); what is farther away from
     both ends of the run is not (`not_shows_of_far`).

  3. **The crux (`stretches_cutRuns`)** — one induction on the runs that are left.  The open group
     tiles an interval that is shown as a whole; either it ends in a change, or a change follows.
     Each cut closes a stretch, and the lines between the two parts of the run that is cut are the gap
     behind it.
-/
import Redline.Proofs.Diff.Run
import Redline.Proofs.Diff.Stretch
import Mathlib.Data.List.Forall2

namespace Redline.Diff

variable {a : Alignment} {c : Nat}

/-! ## Cutting keeps places -/

theorem Run.StandsAt.takeFirst {ks : List ChangeKind} {p : Nat} {r : Run} (h : r.StandsAt ks p)
    (c : Nat) : (r.takeFirst c).StandsAt ks p := by
  have hle : (r.takeFirst c).length ≤ r.length := Nat.min_le_right c r.length
  have hend := h.end_le
  refine ⟨h.oldStart_eq, h.newStart_eq, by omega, ?_⟩
  intro q hp hq
  exact h.kind_eq q hp (by omega)

/-- The last `c` lines of an unchanged run stand behind its other lines. -/
theorem Run.StandsAt.takeLast {ks : List ChangeKind} {p : Nat} {r : Run} (h : r.StandsAt ks p)
    (hk : r.kind = .unchanged) (c : Nat) :
    (r.takeLast c).StandsAt ks (p + (r.length - c)) := by
  have hlen : (r.takeLast c).length = r.length - (r.length - c) := rfl
  have hend := h.end_le
  refine ⟨?_, ?_, by omega, ?_⟩
  · rw [h.countP_take_add (by rw [hk]; rfl) (Nat.sub_le _ _), ← h.oldStart_eq]
    rfl
  · rw [h.countP_take_add (by rw [hk]; rfl) (Nat.sub_le _ _), ← h.newStart_eq]
    rfl
  · intro q hp hq
    exact h.kind_eq q (by omega) (by omega)

/-! ## What an unchanged run shows -/

/-- Every line of a changed run is a change. -/
theorem Run.StandsAt.isChange {p q : Nat} {r : Run} (h : r.StandsAt a.kinds p)
    (hk : r.kind ≠ .unchanged) (hp : p ≤ q) (hq : q < p + r.length) : a.IsChange q :=
  ⟨r.kind, h.kind_eq q hp hq, hk⟩

/-- No line of an unchanged run is a change. -/
theorem Run.StandsAt.not_isChange {p q : Nat} {r : Run} (h : r.StandsAt a.kinds p)
    (hk : r.kind = .unchanged) (hp : p ≤ q) (hq : q < p + r.length) : ¬ a.IsChange q := by
  rintro ⟨k, hkq, hne⟩
  rw [h.kind_eq q hp hq, Option.mem_some_iff] at hkq
  exact hne (hkq ▸ hk)

/-- Behind a change, the next `c` lines are shown. -/
theorem shows_of_before {p q : Nat} (h : a.IsChange p) (hp : p ≤ q) (hq : q ≤ p + c) :
    a.Shows c q :=
  ⟨p, h, hq, by omega⟩

/-- In front of a change, the last `c` lines are shown. -/
theorem shows_of_behind {p q : Nat} (h : a.IsChange p) (hp : q ≤ p) (hq : p ≤ q + c) :
    a.Shows c q :=
  ⟨p, h, by omega, hq⟩

/-- What is more than `c` lines away from both ends of an unchanged run is not shown; an end of the
    whole alignment does not count. -/
theorem not_shows_of_far {p q : Nat} {r : Run} (h : r.StandsAt a.kinds p)
    (hk : r.kind = .unchanged) (hbefore : p = 0 ∨ p + c ≤ q)
    (hbehind : p + r.length = a.length ∨ q + c < p + r.length) : ¬ a.Shows c q := by
  rintro ⟨q', hchange, hle, hle'⟩
  have hlt := hchange.lt
  -- The change stands in front of the run or behind it, and is too far away in either case.
  rcases Nat.lt_or_ge q' p with hout | hin
  · omega
  · rcases Nat.lt_or_ge q' (p + r.length) with hin' | hout
    · exact h.not_isChange hk hin hin' hchange
    · omega

/-! ## The groups -/

theorem trimLast_cons_of_ne {r : Run} (hk : r.kind ≠ .unchanged) (c : Nat) (rs : List Run) :
    trimLast c (r :: rs) = r :: trimLast c rs := by
  cases rs with
  | nil =>
    show [if r.kind = .unchanged then r.takeFirst c else r] = [r]
    rw [if_neg hk]
  | cons r' rs => rfl

theorem trimLast_singleton {r : Run} (hk : r.kind = .unchanged) (c : Nat) :
    trimLast c [r] = [r.takeFirst c] := by
  show [if r.kind = .unchanged then r.takeFirst c else r] = [r.takeFirst c]
  rw [if_pos hk]

theorem cutRuns_cons_of_not_long {r : Run} {c : Nat}
    (h : r.kind = .unchanged → r.length ≤ 2 * c) (group rs : List Run) :
    cutRuns c group (r :: rs) = cutRuns c (r :: group) rs := by
  rw [cutRuns, if_neg]
  rintro ⟨hk, hlong⟩
  have hle := h hk
  omega

theorem isShown_cons_of_ne {r : Run} (hk : r.kind ≠ .unchanged) (rs : List Run) :
    isShown (r :: rs) = true := by
  cases rs with
  | nil => exact decide_eq_true hk
  | cons r' rs => rfl

theorem isShown_cons_of_isShown {rs : List Run} (h : isShown rs = true) (r : Run) :
    isShown (r :: rs) = true := by
  cases rs with
  | nil => cases h
  | cons r' rs => rfl

/-- The open group: its runs tile the positions from `s` to `p`, and all of these are shown. -/
structure OpenGroup (a : Alignment) (c : Nat) (group : List Run) (s p : Nat) : Prop where
  tiles : Tiles a.kinds s group.reverse p
  shown : ∀ q, s ≤ q → q < p → a.Shows c q

/-- Why the open group is shown to its end: a change is its last line. -/
structure EndsInChange (a : Alignment) (group : List Run) (s p : Nat) : Prop where
  isShown : isShown group = true
  lt : s < p
  isChange : a.IsChange (p - 1)

/-- The groups `gs` tile the intervals `I`. -/
def TilesAll (a : Alignment) (gs : List (List Run)) (I : List (Nat × Nat)) : Prop :=
  List.Forall₂ (fun g i => Tiles a.kinds i.1 g i.2) gs I

/-- A changed run keeps the group open, which then ends in a change. -/
theorem OpenGroup.push_changed {group : List Run} {s p : Nat} {r : Run}
    (hg : OpenGroup a c group s p) (hr : r.StandsAt a.kinds p) (hk : r.kind ≠ .unchanged)
    (hpos : 0 < r.length) :
    OpenGroup a c (r :: group) s (p + r.length) ∧ EndsInChange a (r :: group) s (p + r.length) := by
  have hle := hg.tiles.le
  refine ⟨⟨?_, ?_⟩, isShown_cons_of_ne hk _, by omega, ?_⟩
  · rw [List.reverse_cons]
    exact hg.tiles.concat hr
  · intro q hsq hq
    rcases Nat.lt_or_ge q p with hqp | hpq
    · exact hg.shown q hsq hqp
    · exact (hr.isChange hk hpq hq).shows c
  · exact hr.isChange hk (by omega) (by omega)

/-- The first lines of an unchanged run belong to a group that ends in a change. -/
theorem OpenGroup.push_first {group : List Run} {s p : Nat} {r : Run}
    (hg : OpenGroup a c group s p) (hend : EndsInChange a group s p) (hr : r.StandsAt a.kinds p) :
    OpenGroup a c (r.takeFirst c :: group) s (p + min c r.length) := by
  have hlt := hend.lt
  constructor
  · rw [List.reverse_cons]
    exact hg.tiles.concat (hr.takeFirst c)
  · intro q hsq hq
    rcases Nat.lt_or_ge q p with hqp | hpq
    · exact hg.shown q hsq hqp
    · exact shows_of_before hend.isChange (by omega) (by omega)

/-- A short unchanged run between two changes belongs to the group. -/
theorem OpenGroup.push_short {group : List Run} {s p : Nat} {r : Run}
    (hg : OpenGroup a c group s p) (hend : EndsInChange a group s p) (hr : r.StandsAt a.kinds p)
    (hshort : r.length ≤ 2 * c) (hnext : a.IsChange (p + r.length)) :
    OpenGroup a c (r :: group) s (p + r.length) := by
  have hlt := hend.lt
  constructor
  · rw [List.reverse_cons]
    exact hg.tiles.concat hr
  · intro q hsq hq
    rcases Nat.lt_or_ge q p with hqp | hpq
    · exact hg.shown q hsq hqp
    · rcases Nat.lt_or_ge q (p + c) with hnear | hfar
      · exact shows_of_before hend.isChange (by omega) (by omega)
      · exact shows_of_behind hnext (by omega) (by omega)

/-- The last lines of an unchanged run open a group in front of a change. -/
theorem openGroup_last {p : Nat} {r : Run} (hr : r.StandsAt a.kinds p) (hk : r.kind = .unchanged)
    (c : Nat) (hnext : a.IsChange (p + r.length)) :
    OpenGroup a c [r.takeLast c] (p + (r.length - c)) (p + r.length) := by
  constructor
  · have htiles := Tiles.cons (hr.takeLast hk c) (.nil _)
    rw [show (r.takeLast c).length = r.length - (r.length - c) from rfl,
      show p + (r.length - c) + (r.length - (r.length - c)) = p + r.length by omega] at htiles
    exact htiles
  · intro q hq hlt
    exact shows_of_behind hnext (by omega) (by omega)

/-- A changed run starts with a change. -/
theorem isChange_of_tiles {r : Run} {rest : List Run} {p stop : Nat}
    (h : Tiles a.kinds p (r :: rest) stop) (hk : r.kind ≠ .unchanged) (hpos : 0 < r.length) :
    a.IsChange p := by
  obtain _ | ⟨hr, -⟩ := h
  exact hr.isChange hk (Nat.le_refl _) (by omega)

/-- With `group` open from `s` on, the groups cut out of it and of the runs `rs` tile all stretches
    from `s` on. -/
def CutsInto (a : Alignment) (c : Nat) (group : List Run) (s : Nat) (rs : List Run) : Prop :=
  ∃ stop I, TilesAll a (cutRuns c group (trimLast c rs)) ((s, stop) :: I) ∧
    Stretches (a.Shows c) a.length s ((s, stop) :: I)

/-- A group that ends in a change at the end of the alignment. -/
theorem cutsInto_nil {group : List Run} {s : Nat} (hg : OpenGroup a c group s a.length)
    (hend : EndsInChange a group s a.length) : CutsInto a c group s [] := by
  refine ⟨a.length, [], ?_, ?_⟩
  · rw [trimLast, cutRuns, if_pos hend.isShown]
    exact .cons hg.tiles .nil
  · exact .cons (Nat.le_refl s) hend.lt (Nat.le_refl _) (by omega) hg.shown (by omega)
      (.nil (by omega))

/-- An unchanged run at the end: its first lines are shown, and nothing behind them. -/
theorem cutsInto_last {group : List Run} {s p : Nat} {r : Run} (hg : OpenGroup a c group s p)
    (hend : EndsInChange a group s p) (hr : r.StandsAt a.kinds p) (hk : r.kind = .unchanged)
    (hstop : p + r.length = a.length) : CutsInto a c group s [r] := by
  have hlt := hend.lt
  have hfirst := hg.push_first hend hr
  have hfar : ∀ q, p + min c r.length ≤ q → q < a.length → ¬ a.Shows c q := by
    intro q hq hqn
    exact not_shows_of_far hr hk (Or.inr (by omega)) (Or.inl hstop)
  refine ⟨p + min c r.length, [], ?_, ?_⟩
  · rw [trimLast_singleton hk, cutRuns_cons_of_not_long, cutRuns,
      if_pos (isShown_cons_of_isShown hend.isShown _)]
    · exact .cons hfirst.tiles .nil
    · intro _
      show min c r.length ≤ 2 * c
      omega
  · exact .cons (Nat.le_refl s) (by omega) (by omega) (by omega) hfirst.shown
      (fun hlt => hfar _ (Nat.le_refl _) hlt) (.nil hfar)

/-- A long unchanged run is cut, and the lines between its two parts are a gap. -/
theorem cutsInto_long {group : List Run} {s p : Nat} {r next : Run} {rest : List Run}
    (hg : OpenGroup a c group s p) (hend : EndsInChange a group s p)
    (hr : r.StandsAt a.kinds p) (hk : r.kind = .unchanged) (hlong : 2 * c < r.length)
    (h : CutsInto a c [r.takeLast c] (p + (r.length - c)) (next :: rest)) :
    CutsInto a c group s (r :: next :: rest) := by
  have hlt := hend.lt
  obtain ⟨stop, I, hall, hstr⟩ := h
  have hfirst := hg.push_first hend hr
  rw [Nat.min_eq_left (by omega)] at hfirst
  have htrim : trimLast c (r :: next :: rest) = r :: trimLast c (next :: rest) := rfl
  refine ⟨p + c, (p + (r.length - c), stop) :: I, ?_, ?_⟩
  · rw [htrim, cutRuns, if_pos ⟨hk, hlong⟩]
    exact .cons hfirst.tiles hall
  · have hend_le := hr.end_le
    rw [a.length_kinds] at hend_le
    refine .cons (Nat.le_refl s) (by omega) (by omega) (by omega) hfirst.shown ?_ ?_
    · intro _
      exact not_shows_of_far hr hk (Or.inr (Nat.le_refl _)) (Or.inr (by omega))
    · refine hstr.weaken (by omega) fun q hq hlt => ?_
      exact not_shows_of_far hr hk (Or.inr hq) (Or.inr (by omega))

/-- **The crux.**  By induction on the runs that are left: with a group open from `s` on, the groups
    tile all stretches from `s` on. -/
theorem stretches_cutRuns (rs : List Run) : ∀ (group : List Run) (s p : Nat),
    OpenGroup a c group s p → Tiles a.kinds p rs a.length →
    (rs.map Run.kind).IsChain (· ≠ ·) → (∀ r ∈ rs, 0 < r.length) →
    EndsInChange a group s p ∨ (∃ r ∈ rs.head?, r.kind ≠ .unchanged) → CutsInto a c group s rs := by
  induction rs with
  | nil =>
    intro group s p hg hrest _ _ hedge
    rcases hedge with hend | ⟨r, hr, -⟩
    · have heq := hrest.eq_of_nil
      subst heq
      exact cutsInto_nil hg hend
    · cases hr
  | cons r rest ih =>
    intro group s p hg hrest hchain hpos hedge
    obtain _ | ⟨hr, hrest⟩ := hrest
    rw [List.map_cons, List.isChain_cons] at hchain
    rw [List.forall_mem_cons] at hpos
    by_cases hk : r.kind = .unchanged
    · rcases hedge with hend | ⟨r', hr', hne⟩
      · cases rest with
        | nil => exact cutsInto_last hg hend hr hk hrest.eq_of_nil
        | cons next rest =>
          have hkn : next.kind ≠ .unchanged := fun heq =>
            hchain.1 next.kind rfl (hk.trans heq.symm)
          have hnext := isChange_of_tiles hrest hkn (hpos.2 next List.mem_cons_self)
          by_cases hlong : 2 * c < r.length
          · exact cutsInto_long hg hend hr hk hlong (ih _ _ _ (openGroup_last hr hk c hnext) hrest
              hchain.2 hpos.2 (Or.inr ⟨next, rfl, hkn⟩))
          · have hshort := Nat.le_of_not_lt hlong
            have htrim : trimLast c (r :: next :: rest) = r :: trimLast c (next :: rest) := rfl
            rw [CutsInto, htrim, cutRuns_cons_of_not_long fun _ => hshort]
            exact ih _ _ _ (hg.push_short hend hr hshort hnext) hrest hchain.2 hpos.2
              (Or.inr ⟨next, rfl, hkn⟩)
      · rw [List.head?_cons, Option.mem_some_iff] at hr'
        exact absurd hk (hr' ▸ hne)
    · obtain ⟨hgroup, hend⟩ := hg.push_changed hr hk hpos.1
      rw [CutsInto, trimLast_cons_of_ne hk, cutRuns_cons_of_not_long fun heq => absurd heq hk]
      exact ih _ _ _ hgroup hrest hchain.2 hpos.2 (Or.inl hend)

/-- Runs that tile an alignment, none of them empty and no two neighbours of one kind, are grouped into
    the stretches around its changes. -/
theorem stretches_groupRuns {rs : List Run} (h : Tiles a.kinds 0 rs a.length)
    (hchain : (rs.map Run.kind).IsChain (· ≠ ·)) (hpos : ∀ r ∈ rs, 0 < r.length) (c : Nat) :
    ∃ I, TilesAll a (groupRuns c rs) I ∧ Stretches (a.Shows c) a.length 0 I := by
  cases rs with
  | nil =>
    refine ⟨[], .nil, .nil fun p _ hp => ?_⟩
    rw [← h.eq_of_nil] at hp
    exact absurd hp (Nat.not_lt_zero p)
  | cons r rest =>
    obtain _ | ⟨hr, hrest⟩ := id h
    by_cases hk : r.kind = .unchanged
    · have htrim : trimFirst c (r :: rest) = r.takeLast c :: rest := by rw [trimFirst, if_pos hk]
      have hlen : (r.takeLast c).length ≤ c := by
        show r.length - (r.length - c) ≤ c
        omega
      cases rest with
      | nil =>
        -- One unchanged run: its group is dropped, and nothing is shown.
        refine ⟨[], ?_, .nil fun p _ _ => ?_⟩
        · rw [groupRuns, htrim, trimLast_singleton (r := r.takeLast c) hk, cutRuns_cons_of_not_long,
            cutRuns, if_neg]
          · exact .nil
          · exact fun hshown => of_decide_eq_true hshown hk
          · intro _
            show min c (r.takeLast c).length ≤ 2 * c
            omega
        · exact not_shows_of_far hr hk (Or.inl rfl) (Or.inl hrest.eq_of_nil)
      | cons next rest =>
        rw [List.map_cons, List.isChain_cons] at hchain
        rw [List.forall_mem_cons] at hpos
        have hkn : next.kind ≠ .unchanged := fun heq => hchain.1 next.kind rfl (hk.trans heq.symm)
        have hnext := isChange_of_tiles hrest hkn (hpos.2 next List.mem_cons_self)
        obtain ⟨stop, I, hall, hstr⟩ := stretches_cutRuns (next :: rest) [r.takeLast c] _ _
          (openGroup_last hr hk c hnext) hrest hchain.2 hpos.2 (Or.inr ⟨next, rfl, hkn⟩)
        refine ⟨_, ?_, hstr.weaken (Nat.zero_le _) fun q _ hq => ?_⟩
        · have htrimLast : trimLast c (r.takeLast c :: next :: rest)
              = r.takeLast c :: trimLast c (next :: rest) := rfl
          rw [groupRuns, htrim, htrimLast, cutRuns_cons_of_not_long fun _ => by omega]
          exact hall
        · exact not_shows_of_far hr hk (Or.inl rfl) (Or.inr (by omega))
    · have htrim : trimFirst c (r :: rest) = r :: rest := by rw [trimFirst, if_neg hk]
      obtain ⟨stop, I, hall, hstr⟩ := stretches_cutRuns (c := c) (r :: rest) [] 0 0
        ⟨.nil 0, fun q _ hq => absurd hq (Nat.not_lt_zero q)⟩ h hchain hpos (Or.inr ⟨r, rfl, hk⟩)
      exact ⟨_, by rw [groupRuns, htrim]; exact hall, hstr⟩

end Redline.Diff
