/-
  Line numbers in hunks — the lines of a hunk carry the numbers that its header announces.

  There are two ways to number a line.  The header of a hunk counts kinds: how many lines of a side
  stand in front of the hunk, and how many in it.  The lines themselves were numbered when the texts
  were laid side by side, long before anything was grouped or cut.

  1. `Alignment.Counts side number` — on the side `side` the alignment has its lines numbered from
     one on, by `number`.  The alignment of two texts is so numbered on both sides.
  2. `map_number_between` — then the lines between two positions carry the numbers from one more than
     what stands in front of them: a part of a list of consecutive numbers is one too
     (`eq_range'_of_append`).
  3. `numbered_of_mem_hunks_align` — a hunk holds the lines between two positions, so the two ways
     agree, whatever was trimmed or cut around it.
-/
import Redline.Proofs.Diff.Patch

namespace Redline.Diff

/-- A part of consecutive numbers is made of consecutive numbers. -/
theorem eq_range'_of_append {xs ys zs : List Nat} {s n : Nat}
    (h : xs ++ (ys ++ zs) = List.range' s n) : ys = List.range' (s + xs.length) ys.length := by
  have hlen := congrArg List.length h
  rw [List.length_append, List.length_append, List.length_range'] at hlen
  have hsplit : List.range' s n = List.range' s xs.length
      ++ (List.range' (s + xs.length) ys.length
        ++ List.range' (s + xs.length + ys.length) zs.length) := by
    rw [List.range'_append_1, List.range'_append_1, hlen]
  rw [hsplit] at h
  have hrest := List.append_inj_right h List.length_range'.symm
  exact List.append_inj_left hrest List.length_range'.symm

variable {side : ChangeKind → Bool} {number : DiffLine → Option Nat}

/-- Where just the lines of a side have a number, these are all numbers. -/
theorem map_number_filter {ls : List DiffLine} (h : ∀ l ∈ ls, (number l).isSome = side l.kind) :
    (ls.filter fun l => side l.kind).map number = (ls.filterMap number).map some := by
  induction ls with
  | nil => rfl
  | cons l ls ih =>
    rw [List.forall_mem_cons] at h
    have hrest := ih h.2
    rw [List.filter_cons, ← h.1]
    cases hl : number l with
    | none =>
      rw [List.filterMap_cons_none hl, ← hrest]
      rfl
    | some i =>
      rw [List.filterMap_cons_some hl, List.map_cons, ← hrest, Option.isSome_some, if_pos rfl,
        List.map_cons, hl]

/-- So there are as many numbers as lines of that side. -/
theorem length_filterMap_number {ls : List DiffLine}
    (h : ∀ l ∈ ls, (number l).isSome = side l.kind) :
    (ls.filterMap number).length = ls.countP fun l => side l.kind := by
  have hlen := congrArg List.length (map_number_filter h)
  rw [List.length_map, List.length_map, ← List.countP_eq_length_filter] at hlen
  exact hlen.symm

namespace Alignment

/-- The lines of a side, and no others, have a number on it, and these read one, two and so on. -/
structure Counts (a : Alignment) (side : ChangeKind → Bool) (number : DiffLine → Option Nat) :
    Prop where
  isSome : ∀ l ∈ a.lines, (number l).isSome = side l.kind
  numbers : ∃ n, a.lines.filterMap number = List.range' 1 n

variable {a : Alignment} {p q : Nat}

theorem lines_eq_append (a : Alignment) (h : p ≤ q) :
    a.lines = a.lines.take p ++ (a.between p q ++ a.lines.drop q) := by
  rw [← a.drop_eq_between_append h, List.take_append_drop]

/-- **Between two positions** the numbers of a side go on from what stands in front of them. -/
theorem Counts.map_number_between (h : a.Counts side number) (hle : p ≤ q) :
    ((a.between p q).filter fun l => side l.kind).map number
      = (List.range' ((a.kinds.take p).countP side + 1)
          ((a.between p q).countP fun l => side l.kind)).map some := by
  obtain ⟨n, hnumbers⟩ := h.numbers
  have hall := h.isSome
  rw [a.lines_eq_append hle] at hnumbers hall
  rw [List.forall_mem_append, List.forall_mem_append] at hall
  obtain ⟨hfront, hhere, -⟩ := hall
  rw [List.filterMap_append, List.filterMap_append] at hnumbers
  have hbetween := eq_range'_of_append hnumbers
  rw [length_filterMap_number hfront, length_filterMap_number hhere, Nat.add_comm 1] at hbetween
  rw [map_number_filter hhere, hbetween, kinds, ← List.map_take, List.countP_map]
  rfl

/-- A hunk shows an interval of positions. -/
theorem exists_of_mem_hunks {c : Nat} {h : Hunk} (hmem : h ∈ a.hunks c) :
    ∃ i : Nat × Nat, i.1 < i.2 ∧ h = a.hunkAt (Stretches.positions i) := by
  obtain ⟨I, hstr, -, hhunks⟩ := exists_stretches a c
  rw [hhunks] at hmem
  obtain ⟨i, hi, rfl⟩ := List.mem_map.mp hmem
  exact ⟨i, (hstr.isStretch_of_mem hi).lt, rfl⟩

end Alignment

/-- The lines of `h` carry, on either side, the numbers that its header announces. -/
structure Hunk.Numbered (h : Hunk) : Prop where
  old : (h.lines.filter fun l => l.kind.inOld).map DiffLine.oldLine
    = (List.range' h.oldStart h.oldCount).map some
  new : (h.lines.filter fun l => l.kind.inNew).map DiffLine.newLine
    = (List.range' h.newStart h.newCount).map some

/-- A hunk of an alignment that is numbered on both sides carries the right numbers. -/
theorem Alignment.numbered_of_mem_hunks {a : Alignment}
    (hold : a.Counts ChangeKind.inOld DiffLine.oldLine)
    (hnew : a.Counts ChangeKind.inNew DiffLine.newLine) {c : Nat} {h : Hunk} (hmem : h ∈ a.hunks c) :
    h.Numbered := by
  obtain ⟨i, hlt, rfl⟩ := exists_of_mem_hunks hmem
  have hle := Nat.le_of_lt hlt
  constructor
  · rw [hunkAt, lines_hunkAt, headD_positions hlt]
    exact hold.map_number_between hle
  · rw [hunkAt, lines_hunkAt, headD_positions hlt]
    exact hnew.map_number_between hle

/-- **Headers and line numbers agree.**  With any context, in every hunk of the alignment of two
    texts the lines that stand in the old text have there the numbers `oldStart`, `oldStart + 1` and
    so on, `oldCount` of them, and the lines that stand in the new text those from `newStart` on,
    `newCount` of them, all in order. -/
theorem numbered_of_mem_hunks_align (old new : List String) (c : Nat) :
    ∀ h ∈ (align old new).hunks c, h.Numbered := by
  have hwf := wellFormed_align old new
  intro h hmem
  exact Alignment.numbered_of_mem_hunks ⟨hwf.isSome_oldLine, _, hwf.old_numbers⟩
    ⟨hwf.isSome_newLine, _, hwf.new_numbers⟩ hmem

/-- The second of two hunks, the one behind a gap: one line of context and one line that is added. -/
theorem numbered_of_mem_hunks_align_second :
    (⟨5, 1, 5, 2, [.unchanged "e" 5 5, .added "f" 6]⟩ : Hunk)
      ∈ (align ["a", "b", "c", "d", "e"] ["x", "b", "c", "d", "e", "f"]).hunks 1
    ∧ (⟨5, 1, 5, 2, [.unchanged "e" 5 5, .added "f" 6]⟩ : Hunk).Numbered := by
  have halign : align ["a", "b", "c", "d", "e"] ["x", "b", "c", "d", "e", "f"]
      = ⟨[.deleted "a" 1, .added "x" 1, .unchanged "b" 2 2, .unchanged "c" 3 3,
        .unchanged "d" 4 4, .unchanged "e" 5 5, .added "f" 6]⟩ := by cbv
  have hmem : (⟨5, 1, 5, 2, [.unchanged "e" 5 5, .added "f" 6]⟩ : Hunk)
      ∈ (align ["a", "b", "c", "d", "e"] ["x", "b", "c", "d", "e", "f"]).hunks 1 := by
    rw [halign]
    decide
  exact ⟨hmem, numbered_of_mem_hunks_align _ _ _ _ hmem⟩

end Redline.Diff
