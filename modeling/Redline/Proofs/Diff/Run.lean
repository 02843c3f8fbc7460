/-
  Runs of an alignment — nothing is lost, and every run knows its place.

  1. **Run lengths** — expanded, the run lengths of a list of kinds are the list again
     (`expand_runLengths`); no run is empty, and neighbours differ in kind and are related as the
     neighbours in the list are (`isChain_runLengths`).

  2. **Places** — `r.StandsAt ks p` says that the run `r` stands at the position `p` of the kinds
     `ks`: from there on as many lines as it counts are of its kind, and its starts count the lines
     of either side in front of `p`.  `Tiles ks p rs q` says that the runs `rs` stand one behind
     the other from `p` to `q`.  The runs of an alignment tile it (`tiles_runs`).

  3. **The way back** — a run that stands at `p` leads back to the positions from `p` on
     (`positions_of_standsAt`), also when it is empty.
-/
import Redline.Diff.Run
import Mathlib.Data.List.Chain

namespace Redline.Diff

/-! ## Run lengths -/

/-- The kinds that run lengths stand for. -/
def expand (bs : List (ChangeKind × Nat)) : List ChangeKind :=
  bs.flatMap fun b => List.replicate b.2 b.1

theorem expand_cons (b : ChangeKind × Nat) (bs : List (ChangeKind × Nat)) :
    expand (b :: bs) = List.replicate b.2 b.1 ++ expand bs :=
  List.flatMap_cons

/-- A kind in front of a run of its own kind makes it longer, and one in front of another run, or
    of none, is a run of its own. -/
theorem runLengths_cons (k : ChangeKind) (ks : List ChangeKind) :
    (∃ n rest, runLengths ks = (k, n) :: rest ∧ runLengths (k :: ks) = (k, n + 1) :: rest) ∨
    (∀ b ∈ (runLengths ks).head?, k ≠ b.1) ∧ runLengths (k :: ks) = (k, 1) :: runLengths ks := by
  cases hks : runLengths ks with
  | nil =>
    have hcons : runLengths (k :: ks) = [(k, 1)] := by
      rw [runLengths] at hks ⊢
      rw [List.foldr_cons, hks]
    exact Or.inr ⟨fun b hb => absurd hb (by simp), hcons⟩
  | cons b rest =>
    obtain ⟨k', n⟩ := b
    have hcons : runLengths (k :: ks)
        = if k = k' then (k', n + 1) :: rest else (k, 1) :: (k', n) :: rest := by
      rw [runLengths] at hks ⊢
      rw [List.foldr_cons, hks]
    by_cases hk : k = k'
    · subst hk
      exact Or.inl ⟨n, rest, rfl, hcons.trans (if_pos rfl)⟩
    · refine Or.inr ⟨?_, hcons.trans (if_neg hk)⟩
      intro b hb
      rw [List.head?_cons, Option.mem_some_iff] at hb
      subst hb
      exact hk

/-- **Nothing is lost.** -/
theorem expand_runLengths (ks : List ChangeKind) : expand (runLengths ks) = ks := by
  induction ks with
  | nil => rfl
  | cons k ks ih =>
    rcases runLengths_cons k ks with ⟨n, rest, hks, hcons⟩ | ⟨-, hcons⟩
    · rw [hks, expand_cons] at ih
      rw [hcons, expand_cons, List.replicate_succ, List.cons_append, ih]
    · rw [hcons, expand_cons, ih]
      rfl

/-- The first run is of the kind of the first line. -/
theorem head?_runLengths (ks : List ChangeKind) :
    ((runLengths ks).map Prod.fst).head? = ks.head? := by
  cases ks with
  | nil => rfl
  | cons k ks =>
    rcases runLengths_cons k ks with ⟨n, rest, -, hcons⟩ | ⟨-, hcons⟩
    · rw [hcons]
      rfl
    · rw [hcons]
      rfl

/-- No run is empty. -/
theorem pos_of_mem_runLengths {ks : List ChangeKind} : ∀ b ∈ runLengths ks, 0 < b.2 := by
  induction ks with
  | nil => exact fun b hb => absurd hb List.not_mem_nil
  | cons k ks ih =>
    rcases runLengths_cons k ks with ⟨n, rest, hks, hcons⟩ | ⟨-, hcons⟩
    · rw [hks, List.forall_mem_cons] at ih
      rw [hcons, List.forall_mem_cons]
      exact ⟨Nat.succ_pos n, ih.2⟩
    · rw [hcons, List.forall_mem_cons]
      exact ⟨Nat.one_pos, ih⟩

/-- Neighbouring runs differ in kind, and what relates neighbouring lines relates them too. -/
theorem isChain_runLengths {R : ChangeKind → ChangeKind → Prop} {ks : List ChangeKind}
    (h : ks.IsChain R) :
    ((runLengths ks).map Prod.fst).IsChain fun k k' => k ≠ k' ∧ R k k' := by
  induction ks with
  | nil => exact List.IsChain.nil
  | cons k ks ih =>
    rw [List.isChain_cons] at h
    have hrest := ih h.2
    rcases runLengths_cons k ks with ⟨n, rest, hks, hcons⟩ | ⟨hne, hcons⟩
    · -- The first run is longer by one line, and its neighbour is as before.
      rw [hks] at hrest
      rw [hcons]
      exact hrest
    · rw [hcons, List.map_cons, List.isChain_cons]
      refine ⟨?_, hrest⟩
      intro k' hk'
      refine ⟨?_, h.1 k' (head?_runLengths ks ▸ hk')⟩
      rw [List.head?_map, Option.mem_def, Option.map_eq_some_iff] at hk'
      obtain ⟨b, hb, rfl⟩ := hk'
      exact hne b hb

theorem map_kind_placeRuns (bs : List (ChangeKind × Nat)) :
    ∀ o n : Nat, (placeRuns o n bs).map Run.kind = bs.map Prod.fst := by
  induction bs with
  | nil => exact fun _ _ => rfl
  | cons b bs ih => exact fun _ _ => congrArg (b.1 :: ·) (ih _ _)

/-- Neighbouring runs of an alignment differ in kind, and what relates the kinds of neighbouring
    lines relates theirs too. -/
theorem isChain_kind_runs {R : ChangeKind → ChangeKind → Prop} {a : Alignment}
    (h : a.kinds.IsChain R) : (a.runs.map Run.kind).IsChain fun k k' => k ≠ k' ∧ R k k' := by
  rw [Alignment.runs, map_kind_placeRuns]
  exact isChain_runLengths h

/-- Neighbouring runs of an alignment differ in kind. -/
theorem isChain_kind_ne_runs {a : Alignment} : (a.runs.map Run.kind).IsChain (· ≠ ·) := by
  have htrue : a.kinds.IsChain fun _ _ => True :=
    (List.pairwise_of_forall fun _ _ => trivial).isChain
  exact (isChain_kind_runs htrue).imp fun _ _ hk => hk.1

/-! ## Places -/

/-- `r` stands at the position `p` of the kinds `ks`. -/
structure Run.StandsAt (ks : List ChangeKind) (p : Nat) (r : Run) : Prop where
  oldStart_eq : r.oldStart = (ks.take p).countP ChangeKind.inOld
  newStart_eq : r.newStart = (ks.take p).countP ChangeKind.inNew
  end_le : p + r.length ≤ ks.length
  kind_eq : ∀ q, p ≤ q → q < p + r.length → ks[q]? = some r.kind

namespace Run.StandsAt

variable {ks : List ChangeKind} {p : Nat} {r : Run}

/-- Any few lines from `p` on are of the kind of the run. -/
theorem take_drop_eq (h : r.StandsAt ks p) {i : Nat} (hi : i ≤ r.length) :
    (ks.drop p).take i = List.replicate i r.kind := by
  have hend := h.end_le
  rw [List.eq_replicate_iff]
  constructor
  · rw [List.length_take, List.length_drop]
    omega
  · intro k hk
    obtain ⟨j, hj⟩ := List.mem_iff_getElem?.mp hk
    rw [List.getElem?_take, List.getElem?_drop] at hj
    split at hj
    · rename_i hlt
      rw [h.kind_eq (p + j) (by omega) (by omega)] at hj
      exact (Option.some.inj hj).symm
    · cases hj

/-- On a side on which its kind stands, every line of the run counts. -/
theorem countP_take_add (h : r.StandsAt ks p) {keep : ChangeKind → Bool} (hk : keep r.kind = true)
    {i : Nat} (hi : i ≤ r.length) :
    (ks.take (p + i)).countP keep = (ks.take p).countP keep + i := by
  rw [List.take_add, List.countP_append, h.take_drop_eq hi, List.countP_replicate, if_pos hk]

end Run.StandsAt

/-- The runs `rs` stand one behind the other, from the position `p` to the position `q`. -/
inductive Tiles (ks : List ChangeKind) : Nat → List Run → Nat → Prop where
  | nil (p : Nat) : Tiles ks p [] p
  | cons {p q r rs} : r.StandsAt ks p → Tiles ks (p + r.length) rs q → Tiles ks p (r :: rs) q

namespace Tiles

variable {ks : List ChangeKind} {p q : Nat} {rs : List Run}

theorem le (h : Tiles ks p rs q) : p ≤ q := by
  induction h with
  | nil p => exact Nat.le_refl p
  | cons _ _ ih => exact Nat.le_trans (Nat.le_add_right _ _) ih

/-- No run tiles no position. -/
theorem eq_of_nil (h : Tiles ks p [] q) : p = q := by
  cases h
  rfl

/-- One more run at the end. -/
theorem concat {r : Run} (h : Tiles ks p rs q) (hr : r.StandsAt ks q) :
    Tiles ks p (rs ++ [r]) (q + r.length) := by
  induction h with
  | nil p => exact .cons hr (.nil _)
  | cons hfirst _ ih => exact .cons hfirst (ih hr)

end Tiles

/-- Placed one behind the other, runs tile the kinds that they stand for. -/
theorem tiles_placeRuns (bs : List (ChangeKind × Nat)) :
    ∀ before : List ChangeKind,
      Tiles (before ++ expand bs) before.length
        (placeRuns (before.countP ChangeKind.inOld) (before.countP ChangeKind.inNew) bs)
        (before ++ expand bs).length := by
  induction bs with
  | nil =>
    intro before
    rw [show expand [] = [] from rfl, List.append_nil]
    exact .nil _
  | cons b bs ih =>
    intro before
    obtain ⟨k, n⟩ := b
    have hsplit : before ++ expand ((k, n) :: bs) = before ++ List.replicate n k ++ expand bs := by
      rw [expand_cons, List.append_assoc]
    have hrest := ih (before ++ List.replicate n k)
    rw [List.countP_append, List.countP_append, List.countP_replicate, List.countP_replicate,
      List.length_append, List.length_replicate, ← hsplit] at hrest
    refine .cons ⟨?_, ?_, ?_, ?_⟩ hrest
    · rw [List.take_left]
    · rw [List.take_left]
    · show before.length + n ≤ _
      rw [hsplit, List.length_append, List.length_append, List.length_replicate]
      exact Nat.le_add_right _ _
    · intro q hpq hq
      have hlt : q - before.length < n := Nat.sub_lt_left_of_lt_add hpq hq
      rw [hsplit, List.getElem?_append_left (by rw [List.length_append, List.length_replicate]; exact hq),
        List.getElem?_append_right hpq, List.getElem?_replicate, if_pos hlt]

/-- **The runs of an alignment tile it.** -/
theorem tiles_runs (a : Alignment) : Tiles a.kinds 0 a.runs a.kinds.length := by
  have h := tiles_placeRuns (runLengths a.kinds) []
  rwa [expand_runLengths, List.nil_append] at h

theorem length_mem_placeRuns {bs : List (ChangeKind × Nat)} (h : ∀ b ∈ bs, 0 < b.2) :
    ∀ o n : Nat, ∀ r ∈ placeRuns o n bs, 0 < r.length := by
  induction bs with
  | nil => exact fun _ _ r hr => absurd hr List.not_mem_nil
  | cons b bs ih =>
    rw [List.forall_mem_cons] at h
    exact fun o n => List.forall_mem_cons.mpr ⟨h.1, ih h.2 _ _⟩

/-- No run of an alignment is empty. -/
theorem length_pos_of_mem_runs {a : Alignment} : ∀ r ∈ a.runs, 0 < r.length :=
  length_mem_placeRuns pos_of_mem_runLengths 0 0

/-! ## The way back -/

/-- The positions at which `keep` holds of the kind, where the first kind has the position `i`. -/
def positionsFrom (keep : ChangeKind → Bool) (i : Nat) (ks : List ChangeKind) : List Nat :=
  ((ks.zipIdx i).filter fun (k, _) => keep k).map Prod.snd

theorem positionsFrom_append (keep : ChangeKind → Bool) (i : Nat) (ks ls : List ChangeKind) :
    positionsFrom keep i (ks ++ ls)
      = positionsFrom keep i ks ++ positionsFrom keep (i + ks.length) ls := by
  rw [positionsFrom, List.zipIdx_append, List.filter_append, List.map_append]
  rfl

theorem length_positionsFrom (keep : ChangeKind → Bool) (i : Nat) (ks : List ChangeKind) :
    (positionsFrom keep i ks).length = ks.countP keep := by
  induction ks generalizing i with
  | nil => rfl
  | cons k ks ih =>
    have hcons := positionsFrom_append keep i [k] ks
    rw [List.singleton_append] at hcons
    rw [hcons, List.length_append, ih, List.countP_cons]
    cases hk : keep k with
    | true => simp [positionsFrom, hk]; omega
    | false => simp [positionsFrom, hk]

theorem positionsFrom_replicate {keep : ChangeKind → Bool} {k : ChangeKind} (hk : keep k = true)
    (i n : Nat) : positionsFrom keep i (List.replicate n k) = List.range' i n := by
  induction n generalizing i with
  | zero => rfl
  | succ n ih =>
    have hcons := positionsFrom_append keep i [k] (List.replicate n k)
    rw [List.singleton_append] at hcons
    rw [List.replicate_succ, hcons, List.length_singleton, ih, List.range'_succ]
    simp [positionsFrom, hk]

/-- The lines of a run are found where the run stands, on each side on which its kind stands. -/
theorem extract_positionsOf {ks : List ChangeKind} {p : Nat} {r : Run} (h : r.StandsAt ks p)
    {keep : ChangeKind → Bool} (hk : keep r.kind = true) :
    ((positionsOf keep ks).toArray.extract ((ks.take p).countP keep)
      ((ks.take p).countP keep + r.length)).toList = List.range' p r.length := by
  have hend := h.end_le
  have hsplit : ks = ks.take p ++ (List.replicate r.length r.kind ++ ks.drop (p + r.length)) := by
    rw [← h.take_drop_eq (Nat.le_refl _), ← List.drop_drop, List.take_append_drop,
      List.take_append_drop]
  have hlen : (ks.take p).length = p := by
    rw [List.length_take]
    omega
  have hpos : positionsOf keep ks = positionsFrom keep 0 (ks.take p)
      ++ (List.range' p r.length
        ++ positionsFrom keep (p + r.length) (ks.drop (p + r.length))) := by
    have hlast := positionsFrom_append keep p (List.replicate r.length r.kind)
      (ks.drop (p + r.length))
    rw [positionsFrom_replicate hk, List.length_replicate] at hlast
    have hall := positionsFrom_append keep 0 (ks.take p)
      (List.replicate r.length r.kind ++ ks.drop (p + r.length))
    rw [← hsplit, hlen, Nat.zero_add, hlast] at hall
    exact hall
  rw [Array.toList_extract, List.extract_eq_take_drop, hpos, Nat.add_sub_cancel_left,
    ← length_positionsFrom keep 0, List.drop_left, List.take_left' List.length_range']

/-- **The way back.**  A run leads back to the positions where it stands. -/
theorem positions_of_standsAt {a : Alignment} {p : Nat} {r : Run} (h : r.StandsAt a.kinds p) :
    r.positions a.sideIndex = List.range' p r.length := by
  have hold := @extract_positionsOf a.kinds p r h ChangeKind.inOld
  have hnew := @extract_positionsOf a.kinds p r h ChangeKind.inNew
  rw [← h.oldStart_eq] at hold
  rw [← h.newStart_eq] at hnew
  rw [Run.positions]
  cases hk : r.kind with
  | added =>
    rw [hk] at hnew
    have hlen : r.newLength = r.length := by rw [Run.newLength, hk]; rfl
    rw [Run.newEnd, hlen]
    exact hnew rfl
  | unchanged =>
    rw [hk] at hold
    have hlen : r.oldLength = r.length := by rw [Run.oldLength, hk]; rfl
    rw [Run.oldEnd, hlen]
    exact hold rfl
  | deleted =>
    rw [hk] at hold
    have hlen : r.oldLength = r.length := by rw [Run.oldLength, hk]; rfl
    rw [Run.oldEnd, hlen]
    exact hold rfl

/-- Runs that tile a stretch lead back to its positions. -/
theorem flatMap_positions {a : Alignment} {p q : Nat} {rs : List Run} (h : Tiles a.kinds p rs q) :
    rs.flatMap (·.positions a.sideIndex) = List.range' p (q - p) := by
  induction h with
  | nil p => rw [Nat.sub_self]; rfl
  | @cons p q r rs hr hrs ih =>
    have hle := hrs.le
    rw [List.flatMap_cons, positions_of_standsAt hr, ih, List.range'_append_1]
    congr 1
    omega

end Redline.Diff
