/-
  Shown positions — which lines of an alignment stand near a change, and in which stretches.

  1. **Shown** — with `c` lines of context, a position is shown when a change stands at most `c`
     lines away from it, before or behind.  The stretches are the maximal runs of neighbouring shown
     positions, from the first to the last.  Nothing here mentions runs or groups: this is what a
     reader of hunks expects to see.

  2. **`Stretches P n s I`** — the intervals `I` are all stretches of `P` from the position `s` on
     and below `n`, each with a gap in front of it and behind it.  It follows a walk over the
     positions, so it is what a walk over runs can establish, and it determines the stretches
     (`Stretches.splitBy_filter`).
-/
import Redline.Diff.Hunk
import Mathlib.Data.List.SplitBy
import Mathlib.Data.List.Range

namespace Redline.Diff

/-! ## Shown positions -/

namespace Alignment

theorem length_kinds (a : Alignment) : a.kinds.length = a.length :=
  List.length_map DiffLine.kind

/-- Whether the line at the position `q` is changed. -/
def IsChange (a : Alignment) (q : Nat) : Prop :=
  ∃ k ∈ a.kinds[q]?, k ≠ .unchanged

/-- Whether a change stands at most `c` lines away from the position `p`. -/
def Shows (a : Alignment) (c p : Nat) : Prop :=
  ∃ q, a.IsChange q ∧ p ≤ q + c ∧ q ≤ p + c

instance (a : Alignment) (q : Nat) : Decidable (a.IsChange q) :=
  inferInstanceAs (Decidable (∃ k ∈ a.kinds[q]?, k ≠ .unchanged))

theorem IsChange.lt {a : Alignment} {q : Nat} (h : a.IsChange q) : q < a.length := by
  obtain ⟨k, hk, -⟩ := h
  have hlt := (List.getElem?_eq_some_iff.mp hk).1
  rwa [length_kinds] at hlt

/-- Whether a position is shown can be found out by looking at all lines. -/
theorem shows_iff (a : Alignment) (c p : Nat) :
    a.Shows c p ↔ ∃ q < a.length, a.IsChange q ∧ p ≤ q + c ∧ q ≤ p + c :=
  ⟨fun ⟨q, hq, hp⟩ => ⟨q, hq.lt, hq, hp⟩, fun ⟨q, _, hq, hp⟩ => ⟨q, hq, hp⟩⟩

instance (a : Alignment) (c p : Nat) : Decidable (a.Shows c p) :=
  decidable_of_iff' _ (a.shows_iff c p)

/-- A change is shown with any context. -/
theorem IsChange.shows {a : Alignment} {q : Nat} (h : a.IsChange q) (c : Nat) : a.Shows c q :=
  ⟨q, h, Nat.le_add_right q c, Nat.le_add_right q c⟩

/-- The positions that are shown with `c` lines of context, in order. -/
def shownPositions (a : Alignment) (c : Nat) : List Nat :=
  (List.range a.length).filter fun p => a.Shows c p

/-- The maximal runs of neighbouring shown positions, in order. -/
def stretches (a : Alignment) (c : Nat) : List (List Nat) :=
  (a.shownPositions c).splitBy fun p q => q = p + 1

/-- The hunk that shows the positions `ps`: what it counts is read off the kinds of its lines, and
    where it starts off the kinds of the lines in front of it. -/
def hunkAt (a : Alignment) (ps : List Nat) : Hunk :=
  let before := a.kinds.take (ps.headD 0)
  let lines := ps.filterMap (a.lines[·]?)
  { oldStart := before.countP ChangeKind.inOld + 1
    oldCount := lines.countP fun l => l.kind.inOld
    newStart := before.countP ChangeKind.inNew + 1
    newCount := lines.countP fun l => l.kind.inNew
    lines := lines }

end Alignment

/-! ## Stretches as intervals -/

/-- `I` are the stretches of `P` among the positions from `s` on and below `n`, in order, each given
    by its first position and the one behind its last. -/
inductive Stretches (P : Nat → Prop) (n : Nat) : Nat → List (Nat × Nat) → Prop where
  | nil {s} : (∀ p, s ≤ p → p < n → ¬ P p) → Stretches P n s []
  | cons {s first stop I} : s ≤ first → first < stop → stop ≤ n →
      (∀ p, s ≤ p → p < first → ¬ P p) → (∀ p, first ≤ p → p < stop → P p) →
      (stop < n → ¬ P stop) → Stretches P n stop I →
      Stretches P n s ((first, stop) :: I)

namespace Stretches

variable {P : Nat → Prop} {n s : Nat} {I : List (Nat × Nat)}

/-- The search may start earlier, in a gap. -/
theorem weaken {s' : Nat} (h : Stretches P n s I) (hle : s' ≤ s)
    (hgap : ∀ p, s' ≤ p → p < s → ¬ P p) : Stretches P n s' I := by
  cases h with
  | nil hnone =>
    refine .nil fun p hp hpn => ?_
    rcases Nat.lt_or_ge p s with hlt | hge
    · exact hgap p hp hlt
    · exact hnone p hge hpn
  | cons hs hlt hn hbefore hin hstop hrest =>
    refine .cons (Nat.le_trans hle hs) hlt hn (fun p hp hpf => ?_) hin hstop hrest
    rcases Nat.lt_or_ge p s with hps | hge
    · exact hgap p hp hps
    · exact hbefore p hge hpf

/-- One of the stretches: it is shown as a whole, and its neighbours on both sides are not. -/
structure IsStretch (P : Nat → Prop) (n s : Nat) (i : Nat × Nat) : Prop where
  start_le : s ≤ i.1
  lt : i.1 < i.2
  stop_le : i.2 ≤ n
  all : ∀ p, i.1 ≤ p → p < i.2 → P p
  not_before : ∀ p, s ≤ p → p + 1 = i.1 → ¬ P p
  not_behind : i.2 < n → ¬ P i.2

theorem isStretch_of_mem (h : Stretches P n s I) {i : Nat × Nat} (hi : i ∈ I) :
    IsStretch P n s i := by
  induction h with
  | nil _ => cases hi
  | @cons s first stop I hs hlt hn hbefore hin hstop _ ih =>
    rcases List.mem_cons.mp hi with rfl | hi
    · exact ⟨hs, hlt, hn, hin, fun p hp heq => hbefore p hp (by omega), hstop⟩
    · obtain ⟨hs', hlt', hn', hin', hbefore', hstop'⟩ := ih hi
      refine ⟨by omega, hlt', hn', hin', fun p hp heq => ?_, hstop'⟩
      -- The position behind the stretch in front is a gap, so `p` does not belong to that stretch.
      have hfirst : P i.1 := hin' i.1 (Nat.le_refl _) hlt'
      have hne : i.1 ≠ stop := fun heq => hstop (by omega) (heq ▸ hfirst)
      exact hbefore' p (by omega) heq

/-- The positions of an interval. -/
def positions (i : Nat × Nat) : List Nat :=
  List.range' i.1 (i.2 - i.1)

theorem mem_positions {i : Nat × Nat} (h : i.1 < i.2) (p : Nat) :
    p ∈ positions i ↔ i.1 ≤ p ∧ p < i.2 := by
  rw [positions, List.mem_range'_1]
  omega

variable [DecidablePred P]

/-- The positions from `s` on are those up to `m` and those from `m` on. -/
theorem range'_split {s m n : Nat} (hs : s ≤ m) (hm : m ≤ n) :
    List.range' s (n - s) = positions (s, m) ++ List.range' m (n - m) := by
  have happ := @List.range'_append_1 s (m - s) (n - m)
  rw [show s + (m - s) = m by omega, show m - s + (n - m) = n - s by omega] at happ
  exact happ.symm

theorem filter_positions_of_none {s m : Nat} (h : ∀ p, s ≤ p → p < m → ¬ P p) :
    (positions (s, m)).filter P = [] := by
  rw [List.filter_eq_nil_iff]
  intro p hp
  rw [positions, List.mem_range'_1] at hp
  rw [decide_eq_true_eq]
  exact h p hp.1 (by omega)

theorem filter_positions_of_all {s m : Nat} (h : ∀ p, s ≤ p → p < m → P p) :
    (positions (s, m)).filter P = positions (s, m) := by
  rw [List.filter_eq_self]
  intro p hp
  rw [positions, List.mem_range'_1] at hp
  rw [decide_eq_true_eq]
  exact h p hp.1 (by omega)

/-- **The intervals are the stretches.** -/
theorem splitBy_filter (h : Stretches P n s I) :
    ((List.range' s (n - s)).filter P).splitBy (fun p q => q = p + 1) = I.map positions := by
  induction h with
  | @nil s hnone =>
    have hempty := filter_positions_of_none hnone
    rw [positions] at hempty
    rw [hempty]
    rfl
  | @cons s first stop I hs hlt hn hbefore hin hstop _ ih =>
    rw [range'_split hs (by omega : first ≤ n), range'_split (Nat.le_of_lt hlt) hn,
      List.filter_append, List.filter_append, filter_positions_of_none hbefore,
      filter_positions_of_all hin, List.nil_append, List.splitBy_append, ih,
      List.splitBy_of_isChain, List.map_cons, List.singleton_append]
    · rw [positions, Ne, List.range'_eq_nil_iff]
      omega
    · refine (List.isChain_range' first (stop - first) 1).imp fun p q hpq => ?_
      rw [decide_eq_true_eq]
      exact hpq
    · -- The position behind the stretch is not one of `P`.
      intro p hp q hq
      have hp := (mem_positions hlt p).mp (List.mem_of_mem_getLast? hp)
      have hq := List.mem_filter.mp (List.mem_of_mem_head? hq)
      rw [List.mem_range'_1, decide_eq_true_eq] at hq
      have hne : q ≠ stop := fun heq => hstop (by omega) (heq ▸ hq.2)
      rw [decide_eq_false_iff_not]
      omega

end Stretches

end Redline.Diff
