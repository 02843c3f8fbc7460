/-
  Run form — the runs of an alignment are its only run-length form.

  Grouping relies on three things at once: the runs say what the alignment says, their ranges lie one
  behind the other on both sides, and what they look up in the index of a side is there.

  1. `Alignment.IsRunForm rs` — what a run-length form of an alignment is, said without the way in
     which runs are made: expanded, the runs give the kinds of the lines; none is empty; neighbours
     differ in kind; and on either side the ranges start at zero, go on where the one in front has
     ended, and end with the last line of that side.
  2. The runs of an alignment are such a form, because they tile it (`isRunForm_runs`), and there is no
     other: run lengths without empty runs and without equal neighbours are the run lengths of what
     they expand to (`runLengths_expand`), and the ranges leave no choice where a run is placed
     (`placeRuns_of_follows`).
  3. `isRunForm_iff_eq_runs` — the result, with the way back through the index of the sides: no run
     reaches beyond its table, and together they lead to every position once, in order.
-/
import Redline.Proofs.Diff.Run

namespace Redline.Diff

/-! ## Run-length forms -/

/-- The ranges of `r'` begin where those of `r` end. -/
def Run.Follows (r r' : Run) : Prop :=
  r'.oldStart = r.oldEnd ∧ r'.newStart = r.newEnd

/-- The runs `rs` are a run-length form of the alignment `a`. -/
structure Alignment.IsRunForm (a : Alignment) (rs : List Run) : Prop where
  expands : rs.flatMap (fun r => List.replicate r.length r.kind) = a.kinds
  length_pos : ∀ r ∈ rs, 0 < r.length
  kind_ne : rs.IsChain fun r r' => r.kind ≠ r'.kind
  starts : ∀ r ∈ rs.head?, r.oldStart = 0 ∧ r.newStart = 0
  follows : rs.IsChain Run.Follows
  ends : ∀ r ∈ rs.getLast?, r.oldEnd = a.oldLines.length ∧ r.newEnd = a.newLines.length

/-- The range of `r` on the side on which it is looked up ends inside the table of that side. -/
def Run.InIndex (index : SideIndex) (r : Run) : Prop :=
  match r.kind with
  | .added => r.newEnd ≤ index.new.size
  | .unchanged | .deleted => r.oldEnd ≤ index.old.size

/-! ## Where the ranges of a run end -/

namespace Run.StandsAt

variable {ks : List ChangeKind} {p : Nat} {r : Run}

/-- The lines of a side up to the end of the run are those in front of it and those of the run. -/
theorem countP_take_end (h : r.StandsAt ks p) (keep : ChangeKind → Bool) :
    (ks.take (p + r.length)).countP keep
      = (ks.take p).countP keep + if keep r.kind then r.length else 0 := by
  rw [List.take_add, List.countP_append, h.take_drop_eq (Nat.le_refl _), List.countP_replicate]

theorem oldEnd_eq (h : r.StandsAt ks p) :
    r.oldEnd = (ks.take (p + r.length)).countP ChangeKind.inOld := by
  rw [h.countP_take_end, ← h.oldStart_eq]
  rfl

theorem newEnd_eq (h : r.StandsAt ks p) :
    r.newEnd = (ks.take (p + r.length)).countP ChangeKind.inNew := by
  rw [h.countP_take_end, ← h.newStart_eq]
  rfl

/-- A run that stands behind `r` follows it. -/
theorem follows {r' : Run} (h : r.StandsAt ks p) (h' : r'.StandsAt ks (p + r.length)) :
    r.Follows r' :=
  ⟨h'.oldStart_eq.trans h.oldEnd_eq.symm, h'.newStart_eq.trans h.newEnd_eq.symm⟩

/-- No range ends behind the last line of its side. -/
theorem end_le_countP (h : r.StandsAt ks p) :
    r.oldEnd ≤ ks.countP ChangeKind.inOld ∧ r.newEnd ≤ ks.countP ChangeKind.inNew := by
  rw [h.oldEnd_eq, h.newEnd_eq]
  exact ⟨(List.take_sublist _ ks).countP_le, (List.take_sublist _ ks).countP_le⟩

end Run.StandsAt

namespace Tiles

variable {ks : List ChangeKind} {p q : Nat} {rs : List Run}

theorem standsAt_of_head? (h : Tiles ks p rs q) : ∀ r ∈ rs.head?, r.StandsAt ks p := by
  intro r hr
  cases h with
  | nil => cases hr
  | cons hfirst _ =>
    cases hr
    exact hfirst

theorem exists_standsAt (h : Tiles ks p rs q) : ∀ r ∈ rs, ∃ p, r.StandsAt ks p := by
  induction h with
  | nil p => exact fun r hr => absurd hr List.not_mem_nil
  | cons hfirst _ ih => exact List.forall_mem_cons.mpr ⟨⟨_, hfirst⟩, ih⟩

/-- Runs that stand one behind the other follow one another. -/
theorem follows (h : Tiles ks p rs q) : rs.IsChain Run.Follows := by
  induction h with
  | nil p => exact .nil
  | cons hfirst hrest ih =>
    rw [List.isChain_cons]
    exact ⟨fun r hr => hfirst.follows (hrest.standsAt_of_head? r hr), ih⟩

/-- The last of them ends where the stretch ends. -/
theorem ends (h : Tiles ks p rs q) : ∀ r ∈ rs.getLast?,
    r.oldEnd = (ks.take q).countP ChangeKind.inOld
      ∧ r.newEnd = (ks.take q).countP ChangeKind.inNew := by
  induction h with
  | nil p => exact fun r hr => absurd hr (by simp)
  | @cons p q r rs hfirst hrest ih =>
    intro r' hr'
    cases rs with
    | nil =>
      cases hr'
      cases hrest
      exact ⟨hfirst.oldEnd_eq, hfirst.newEnd_eq⟩
    | cons next rest =>
      rw [List.getLast?_cons_cons] at hr'
      exact ih r' hr'

end Tiles

/-! ## The runs of an alignment -/

namespace Alignment

theorem countP_inOld_kinds (a : Alignment) :
    a.kinds.countP ChangeKind.inOld = a.oldLines.length := by
  rw [oldLines, List.length_map, ← List.countP_eq_length_filter, kinds, List.countP_map]
  rfl

theorem countP_inNew_kinds (a : Alignment) :
    a.kinds.countP ChangeKind.inNew = a.newLines.length := by
  rw [newLines, List.length_map, ← List.countP_eq_length_filter, kinds, List.countP_map]
  rfl

theorem size_sideIndex (a : Alignment) : a.sideIndex.old.size = a.kinds.countP ChangeKind.inOld
    ∧ a.sideIndex.new.size = a.kinds.countP ChangeKind.inNew :=
  ⟨length_positionsFrom ChangeKind.inOld 0 a.kinds, length_positionsFrom ChangeKind.inNew 0 a.kinds⟩

end Alignment

theorem flatMap_replicate_placeRuns (bs : List (ChangeKind × Nat)) : ∀ o n : Nat,
    (placeRuns o n bs).flatMap (fun r => List.replicate r.length r.kind) = expand bs := by
  induction bs with
  | nil => exact fun _ _ => rfl
  | cons b bs ih =>
    intro o n
    rw [placeRuns, List.flatMap_cons, ih, expand_cons]

/-- **The runs of an alignment** are a run-length form of it. -/
theorem isRunForm_runs (a : Alignment) : a.IsRunForm a.runs := by
  have htiles := tiles_runs a
  have hends := htiles.ends
  rw [List.take_length, a.countP_inOld_kinds, a.countP_inNew_kinds] at hends
  constructor
  · rw [Alignment.runs, flatMap_replicate_placeRuns, expand_runLengths]
  · exact length_pos_of_mem_runs
  · exact List.isChain_map Run.kind |>.mp isChain_kind_ne_runs
  · intro r hr
    have hstands := htiles.standsAt_of_head? r hr
    exact ⟨hstands.oldStart_eq, hstands.newStart_eq⟩
  · exact htiles.follows
  · exact hends

/-- No run of an alignment reaches beyond the table that it is looked up in. -/
theorem inIndex_of_mem_runs {a : Alignment} : ∀ r ∈ a.runs, r.InIndex a.sideIndex := by
  intro r hr
  obtain ⟨p, hstands⟩ := (tiles_runs a).exists_standsAt r hr
  obtain ⟨hold, hnew⟩ := hstands.end_le_countP
  rw [← a.size_sideIndex.1] at hold
  rw [← a.size_sideIndex.2] at hnew
  rw [Run.InIndex]
  split
  · exact hnew
  · exact hold
  · exact hold

/-! ## No other run-length form -/

/-- Equal kinds in front of another kind are a run of their own. -/
theorem runLengths_replicate_append {k : ChangeKind} {ks : List ChangeKind}
    (h : ∀ b ∈ (runLengths ks).head?, k ≠ b.1) (n : Nat) :
    runLengths (List.replicate (n + 1) k ++ ks) = (k, n + 1) :: runLengths ks := by
  induction n with
  | zero =>
    rcases runLengths_cons k ks with ⟨m, rest, hks, -⟩ | ⟨-, hcons⟩
    · rw [hks] at h
      exact absurd rfl (h _ rfl)
    · exact hcons
  | succ n ih =>
    rw [List.replicate_succ, List.cons_append]
    rcases runLengths_cons k (List.replicate (n + 1) k ++ ks) with ⟨m, rest, hks, hcons⟩ | ⟨hne, -⟩
    · rw [ih] at hks
      cases hks
      exact hcons
    · rw [ih] at hne
      exact absurd rfl (hne _ rfl)

/-- **Run lengths are unique**: where no run is empty and neighbours differ in kind, they are the run
    lengths of the kinds that they stand for. -/
theorem runLengths_expand {bs : List (ChangeKind × Nat)} (hpos : ∀ b ∈ bs, 0 < b.2)
    (hne : (bs.map Prod.fst).IsChain (· ≠ ·)) : runLengths (expand bs) = bs := by
  induction bs with
  | nil => rfl
  | cons b bs ih =>
    obtain ⟨k, n⟩ := b
    rw [List.forall_mem_cons] at hpos
    rw [List.map_cons, List.isChain_cons] at hne
    obtain ⟨m, rfl⟩ := Nat.exists_eq_succ_of_ne_zero (Nat.ne_of_gt hpos.1)
    have hrest := ih hpos.2 hne.2
    have hhead : ∀ b ∈ (runLengths (expand bs)).head?, k ≠ b.1 := by
      intro b hb
      rw [hrest] at hb
      exact hne.1 b.1 (by rw [List.head?_map, hb]; rfl)
    rw [expand_cons, runLengths_replicate_append hhead, hrest]

/-- **Places are unique**: runs that follow one another stand where they would be placed. -/
theorem placeRuns_of_follows {rs : List Run} (hfollows : rs.IsChain Run.Follows) : ∀ o n : Nat,
    (∀ r ∈ rs.head?, r.oldStart = o ∧ r.newStart = n) →
    placeRuns o n (rs.map fun r => (r.kind, r.length)) = rs := by
  induction rs with
  | nil => exact fun _ _ _ => rfl
  | cons r rs ih =>
    intro o n hstarts
    obtain ⟨hold, hnew⟩ := hstarts r rfl
    subst hold hnew
    rw [List.isChain_cons] at hfollows
    exact congrArg (r :: ·) (ih hfollows.2 r.oldEnd r.newEnd hfollows.1)

/-- A run-length form of an alignment consists of its runs. -/
theorem Alignment.IsRunForm.eq_runs {a : Alignment} {rs : List Run} (h : a.IsRunForm rs) :
    rs = a.runs := by
  have hexpand : expand (rs.map fun r => (r.kind, r.length)) = a.kinds := by
    rw [expand, List.flatMap_map]
    exact h.expands
  have hkinds : ((rs.map fun r => (r.kind, r.length)).map Prod.fst).IsChain (· ≠ ·) := by
    rw [List.map_map]
    exact (List.isChain_map Run.kind).mpr h.kind_ne
  have hlengths := runLengths_expand (List.forall_mem_map.mpr h.length_pos) hkinds
  rw [Alignment.runs, ← hexpand, hlengths, placeRuns_of_follows h.follows 0 0 h.starts]

/-- **The run-length form of an alignment.**  The runs of any alignment are its run-length form, and
    nothing else is.  Looked up in the index of the sides, each of them stays inside its table, and
    one after the other they lead to all positions of the alignment, each once and in order. -/
theorem isRunForm_iff_eq_runs (a : Alignment) :
    (∀ rs, a.IsRunForm rs ↔ rs = a.runs) ∧ (∀ r ∈ a.runs, r.InIndex a.sideIndex)
    ∧ a.runs.flatMap (·.positions a.sideIndex) = List.range a.length := by
  refine ⟨fun rs => ⟨fun h => h.eq_runs, ?_⟩, inIndex_of_mem_runs, ?_⟩
  · rintro rfl
    exact isRunForm_runs a
  · rw [flatMap_positions (tiles_runs a), Nat.sub_zero, ← List.range_eq_range', Alignment.kinds,
      List.length_map]
    rfl

/-- An alignment of two runs with numbers that fit neither side: the second run is looked up behind
    the line of the first. -/
theorem isRunForm_iff_eq_runs_two :
    (⟨.added, 1, 1, 2⟩ : Run) ∈ (⟨[⟨.unchanged, "k", some 7, none⟩, ⟨.added, "x", none, some 9⟩,
      ⟨.added, "y", none, none⟩]⟩ : Alignment).runs
    ∧ (⟨.added, 1, 1, 2⟩ : Run).InIndex (⟨[⟨.unchanged, "k", some 7, none⟩,
      ⟨.added, "x", none, some 9⟩, ⟨.added, "y", none, none⟩]⟩ : Alignment).sideIndex := by
  have hmem : (⟨.added, 1, 1, 2⟩ : Run) ∈ (⟨[⟨.unchanged, "k", some 7, none⟩,
      ⟨.added, "x", none, some 9⟩, ⟨.added, "y", none, none⟩]⟩ : Alignment).runs := by decide
  exact ⟨hmem, (isRunForm_iff_eq_runs _).2.1 _ hmem⟩

end Redline.Diff
