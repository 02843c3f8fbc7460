/-
  Hunks as a patch — from either text of an alignment, its hunks give the other one.

  1. **Replacements** — a hunk, read in one direction, takes away some lines from a certain line on
     and brings in others.  `patch` walks over a text and makes one replacement after the other;
     it has no result if one starts in front of where the last one ended, or does not find the
     lines that it takes away.

  2. **One stretch at a time** — in front of a stretch nothing is changed, so what is copied there
     is the same on either side; the stretch itself is what its hunk replaces.  `patch_stretches`
     is the induction on the stretches.  A side is any choice of kinds with the unchanged lines
     among them, so either direction is the same induction.

  3. **The result** — `patch_hunks_align`.  That hunks come one behind the other is read off a walk
     that succeeds (`pairwise_of_patch`).
-/
import Redline.Proofs.Diff.Alignment
import Redline.Proofs.Diff.Hunk

namespace Redline.Diff

/-! ## Replacements -/

/-- The contents of the lines of `ls` that stand on a side. -/
def contentsOn (side : ChangeKind → Bool) (ls : List DiffLine) : List String :=
  (ls.filter fun l => side l.kind).map DiffLine.content

/-- From the line with the number `start` on, `count` lines, which have to be the lines `removed`,
    give way to the lines `inserted`. -/
structure Replacement where
  start : Nat
  count : Nat
  removed : List String
  inserted : List String

/-- What a hunk replaces in the old text. -/
def Hunk.forwards (h : Hunk) : Replacement where
  start := h.oldStart
  count := h.oldCount
  removed := contentsOn ChangeKind.inOld h.lines
  inserted := contentsOn ChangeKind.inNew h.lines

/-- What a hunk replaces in the new text, to give the old one back. -/
def Hunk.backwards (h : Hunk) : Replacement where
  start := h.newStart
  count := h.newCount
  removed := contentsOn ChangeKind.inNew h.lines
  inserted := contentsOn ChangeKind.inOld h.lines

/-- What the replacements make of the lines `rest`, the first of which has the number `next`: what
    stands in front of each of them is copied, and so is what stands behind the last.  There is no
    result if one of them goes back, or does not find its lines. -/
def patch (next : Nat) (rest : List String) : List Replacement → Option (List String)
  | [] => some rest
  | r :: rs =>
    let gap := r.start - next
    if next ≤ r.start ∧ gap + r.count ≤ rest.length ∧ (rest.drop gap).take r.count = r.removed then
      (patch (r.start + r.count) (rest.drop (gap + r.count)) rs).map
        fun result => rest.take gap ++ r.inserted ++ result
    else none

/-- A replacement that finds its lines behind `gap` other lines. -/
theorem patch_cons_of_append {next : Nat} {gap here behind result : List String} {r : Replacement}
    {rs : List Replacement} (hstart : r.start = next + gap.length) (hcount : r.count = here.length)
    (hremoved : r.removed = here) (h : patch (r.start + r.count) behind rs = some result) :
    patch next (gap ++ (here ++ behind)) (r :: rs) = some (gap ++ (r.inserted ++ result)) := by
  have hgap : r.start - next = gap.length := by omega
  have hfits : next ≤ r.start ∧ gap.length + r.count ≤ (gap ++ (here ++ behind)).length
      ∧ ((gap ++ (here ++ behind)).drop gap.length).take r.count = r.removed := by
    refine ⟨by omega, ?_, ?_⟩
    · rw [List.length_append, List.length_append]
      omega
    · rw [List.drop_left, hcount, List.take_left, hremoved]
  have hbehind : (gap ++ (here ++ behind)).drop (gap.length + r.count) = behind := by
    rw [← List.drop_drop, List.drop_left, hcount, List.drop_left]
  rw [patch]
  simp only [hgap]
  rw [if_pos hfits, hbehind, h, Option.map_some, List.take_left, List.append_assoc]

/-- In a walk that succeeds, every replacement starts where the one in front has ended, or behind. -/
theorem pairwise_of_patch {rs : List Replacement} : ∀ {next : Nat} {rest result : List String},
    patch next rest rs = some result →
    (∀ r ∈ rs, next ≤ r.start) ∧ rs.Pairwise fun r r' => r.start + r.count ≤ r'.start := by
  induction rs with
  | nil => exact fun _ => ⟨fun r hr => absurd hr List.not_mem_nil, .nil⟩
  | cons r rs ih =>
    intro next rest result h
    rw [patch] at h
    split at h
    · rename_i hfits
      obtain ⟨result', hrest, -⟩ := Option.map_eq_some_iff.mp h
      obtain ⟨hle, hpairwise⟩ := ih hrest
      refine ⟨?_, List.pairwise_cons.mpr ⟨hle, hpairwise⟩⟩
      intro r' hr'
      rcases List.mem_cons.mp hr' with rfl | hr'
      · exact hfits.1
      · have hstart := hle r' hr'
        omega
    · cases h

/-! ## One stretch at a time -/

theorem contentsOn_append (side : ChangeKind → Bool) (ls ls' : List DiffLine) :
    contentsOn side (ls ++ ls') = contentsOn side ls ++ contentsOn side ls' := by
  rw [contentsOn, List.filter_append, List.map_append]
  rfl

theorem length_contentsOn (side : ChangeKind → Bool) (ls : List DiffLine) :
    (contentsOn side ls).length = ls.countP fun l => side l.kind := by
  rw [contentsOn, List.length_map, ← List.countP_eq_length_filter]

/-- Unchanged lines stand on every side that holds them. -/
theorem contentsOn_of_unchanged {side : ChangeKind → Bool} (hside : side .unchanged = true)
    {ls : List DiffLine} (h : ∀ l ∈ ls, l.kind = .unchanged) :
    contentsOn side ls = ls.map DiffLine.content := by
  rw [contentsOn, List.filter_eq_self.mpr]
  intro l hl
  rw [h l hl]
  exact hside

/-- The elements at the positions from `p` on. -/
theorem filterMap_range' {α : Type} (xs : List α) (n : Nat) :
    ∀ p : Nat, (List.range' p n).filterMap (xs[·]?) = (xs.drop p).take n := by
  induction n with
  | zero => exact fun p => List.take_zero.symm
  | succ n ih =>
    intro p
    rw [List.range'_succ]
    rcases Nat.lt_or_ge p xs.length with hlt | hge
    · rw [List.filterMap_cons_some (List.getElem?_eq_getElem hlt), ih,
        List.drop_eq_getElem_cons hlt, List.take_succ_cons]
    · have hnone : xs[p]? = none := List.getElem?_eq_none hge
      rw [List.filterMap_cons_none hnone, ih, List.drop_eq_nil_of_le hge,
        List.drop_eq_nil_of_le (Nat.le_succ_of_le hge), List.take_nil, List.take_nil]

namespace Alignment

variable {a : Alignment} {c s p q : Nat} {side : ChangeKind → Bool}

/-- The lines from the position `p` on and in front of `q`. -/
def between (a : Alignment) (p q : Nat) : List DiffLine :=
  (a.lines.drop p).take (q - p)

theorem drop_eq_between_append (a : Alignment) (h : p ≤ q) :
    a.lines.drop p = a.between p q ++ a.lines.drop q := by
  have hsplit := (List.take_append_drop (q - p) (a.lines.drop p)).symm
  rw [List.drop_drop, show p + (q - p) = q by omega] at hsplit
  exact hsplit

/-- The lines of a side in front of `q` are those in front of `p` and those between. -/
theorem countP_take_between (a : Alignment) (side : ChangeKind → Bool) (h : p ≤ q) :
    (a.kinds.take q).countP side
      = (a.kinds.take p).countP side + (contentsOn side (a.between p q)).length := by
  have hsplit : a.lines.take q = a.lines.take p ++ a.between p q := by
    have htake := List.take_add (l := a.lines) (i := p) (j := q - p)
    rw [show p + (q - p) = q by omega] at htake
    exact htake
  rw [kinds, ← List.map_take, ← List.map_take, hsplit, List.map_append, List.countP_append,
    List.countP_map, List.countP_map, length_contentsOn]
  rfl

/-- Where nothing is shown, nothing is changed. -/
theorem unchanged_of_mem_between (hnone : ∀ r, p ≤ r → r < q → ¬ a.Shows c r) :
    ∀ l ∈ a.between p q, l.kind = .unchanged := by
  intro l hl
  rw [between, ← filterMap_range', List.mem_filterMap] at hl
  obtain ⟨r, hr, hline⟩ := hl
  rw [List.mem_range'_1] at hr
  by_contra hne
  have hchange : a.IsChange r := ⟨l.kind, by rw [kinds, List.getElem?_map, hline]; rfl, hne⟩
  exact hnone r hr.1 (by omega) (hchange.shows c)

/-- What the hunk of an interval of positions replaces on the side `source` to give the side
    `target`. -/
def replacementAt (a : Alignment) (source target : ChangeKind → Bool) (i : Nat × Nat) :
    Replacement where
  start := (a.kinds.take i.1).countP source + 1
  count := (a.between i.1 i.2).countP fun l => source l.kind
  removed := contentsOn source (a.between i.1 i.2)
  inserted := contentsOn target (a.between i.1 i.2)

theorem lines_hunkAt (a : Alignment) (i : Nat × Nat) :
    (Stretches.positions i).filterMap (a.lines[·]?) = a.between i.1 i.2 :=
  filterMap_range' a.lines (i.2 - i.1) i.1

theorem headD_positions {i : Nat × Nat} (h : i.1 < i.2) :
    (Stretches.positions i).headD 0 = i.1 := by
  rw [Stretches.positions, show i.2 - i.1 = (i.2 - i.1 - 1) + 1 by omega, List.range'_succ]
  rfl

theorem forwards_hunkAt (a : Alignment) {i : Nat × Nat} (h : i.1 < i.2) :
    (a.hunkAt (Stretches.positions i)).forwards
      = a.replacementAt ChangeKind.inOld ChangeKind.inNew i := by
  rw [hunkAt, Hunk.forwards, lines_hunkAt, headD_positions h]
  rfl

theorem backwards_hunkAt (a : Alignment) {i : Nat × Nat} (h : i.1 < i.2) :
    (a.hunkAt (Stretches.positions i)).backwards
      = a.replacementAt ChangeKind.inNew ChangeKind.inOld i := by
  rw [hunkAt, Hunk.backwards, lines_hunkAt, headD_positions h]
  rfl

/-- **One stretch at a time.**  By induction on the stretches: from the position `s` on, the walk
    turns the lines of one side into those of the other. -/
theorem patch_stretches {source target : ChangeKind → Bool} {I : List (Nat × Nat)}
    (hsource : source .unchanged = true) (htarget : target .unchanged = true)
    (h : Stretches (a.Shows c) a.length s I) :
    patch ((a.kinds.take s).countP source + 1) (contentsOn source (a.lines.drop s))
      (I.map (a.replacementAt source target)) = some (contentsOn target (a.lines.drop s)) := by
  induction h with
  | @nil s hnone =>
    -- All lines that are left are unchanged, and stand on both sides.
    have hall : ∀ l ∈ a.lines.drop s, l.kind = .unchanged := by
      have hbetween := unchanged_of_mem_between hnone
      rwa [between, List.take_of_length_le (by rw [List.length_drop, length])] at hbetween
    rw [contentsOn_of_unchanged hsource hall, contentsOn_of_unchanged htarget hall]
    rfl
  | @cons s first stop I hs hlt hn hbefore _ _ _ ih =>
    have hgap := unchanged_of_mem_between hbefore
    have hsplit : a.lines.drop s
        = a.between s first ++ (a.between first stop ++ a.lines.drop stop) := by
      rw [a.drop_eq_between_append hs, a.drop_eq_between_append (Nat.le_of_lt hlt)]
    have hfirst := a.countP_take_between source hs
    have hstop := a.countP_take_between source (Nat.le_of_lt hlt)
    have hcount : (a.replacementAt source target (first, stop)).count
        = (contentsOn source (a.between first stop)).length :=
      (length_contentsOn source (a.between first stop)).symm
    rw [hsplit, contentsOn_append, contentsOn_append, contentsOn_append, contentsOn_append,
      List.map_cons, contentsOn_of_unchanged htarget hgap, ← contentsOn_of_unchanged hsource hgap]
    refine patch_cons_of_append ?_ hcount rfl ?_
    · show (a.kinds.take first).countP source + 1 = _
      omega
    · have hnext : (a.replacementAt source target (first, stop)).start
          + (a.replacementAt source target (first, stop)).count
          = (a.kinds.take stop).countP source + 1 := by
        rw [hcount]
        show (a.kinds.take first).countP source + 1 + _ = _
        omega
      rw [hnext]
      exact ih

/-- The hunks of any alignment lead from each of its sides to the other. -/
theorem patch_hunks (a : Alignment) (c : Nat) :
    patch 1 a.oldLines ((a.hunks c).map Hunk.forwards) = some a.newLines ∧
    patch 1 a.newLines ((a.hunks c).map Hunk.backwards) = some a.oldLines := by
  obtain ⟨I, hstr, -, hhunks⟩ := exists_stretches a c
  have hlt : ∀ i ∈ I, i.1 < i.2 := fun i hi => (hstr.isStretch_of_mem hi).lt
  have hforwards : (a.hunks c).map Hunk.forwards
      = I.map (a.replacementAt ChangeKind.inOld ChangeKind.inNew) := by
    rw [hhunks, List.map_map]
    exact List.map_congr_left fun i hi => a.forwards_hunkAt (hlt i hi)
  have hbackwards : (a.hunks c).map Hunk.backwards
      = I.map (a.replacementAt ChangeKind.inNew ChangeKind.inOld) := by
    rw [hhunks, List.map_map]
    exact List.map_congr_left fun i hi => a.backwards_hunkAt (hlt i hi)
  rw [hforwards, hbackwards]
  exact ⟨patch_stretches rfl rfl hstr, patch_stretches rfl rfl hstr⟩

end Alignment

/-! ## The hunks of two texts -/

/-- **Hunks are a patch, in both directions.**  With any context, walking over the old lines and
    replacing what each hunk says gives the new lines, and walking over the new lines the other way
    round gives the old ones; every hunk finds its lines, and on either side it starts where the one
    in front of it has ended, or behind. -/
theorem patch_hunks_align (old new : List String) (c : Nat) :
    patch 1 old (((align old new).hunks c).map Hunk.forwards) = some new ∧
    patch 1 new (((align old new).hunks c).map Hunk.backwards) = some old ∧
    ((align old new).hunks c).Pairwise fun h h' =>
      h.oldStart + h.oldCount ≤ h'.oldStart ∧ h.newStart + h.newCount ≤ h'.newStart := by
  have hwf := wellFormed_align old new
  obtain ⟨hforwards, hbackwards⟩ := (align old new).patch_hunks c
  rw [hwf.oldLines_eq, hwf.newLines_eq] at hforwards hbackwards
  refine ⟨hforwards, hbackwards, ?_⟩
  have hold := List.pairwise_map.mp (pairwise_of_patch hforwards).2
  have hnew := List.pairwise_map.mp (pairwise_of_patch hbackwards).2
  exact hold.and hnew

-- A hunk of the wrong place finds other lines there than its own.
example : patch 1 ["a", "b"] [⟨1, 1, ["b"], ["x"]⟩] = none := by decide

end Redline.Diff
