/-
  The grammar of headers — where a header is, by the numbers of its lines.

  `splitHeader` walks over characters and `cutAtDelimiter` cuts lists of lines.  A reader of a file
  counts its lines: the header is opened by line 0 and closed by the first later line that is `---`.

  1. `ClosesAt ls k` — the line `k` closes the header of a text with the lines `ls`.  There is such a
     line exactly when line 0 is `---` and some later line is (`exists_closesAt_iff`).
  2. `splitHeader_of_closesAt`, `splitHeader_of_not_closesAt` — the header is what stands between the
     two lines, and without them there is none.  Longer runs of dashes, a carriage return behind the
     dashes or a blank in front of them make another line, so they close nothing.
  3. `decode_eq_lines` — what is read of a text, line by line.
-/
import Redline.FrontMatter.Encode
import Redline.Proofs.FrontMatter.Header
import Mathlib.Data.Nat.Find

namespace Redline.FrontMatter

open Redline.Text (pieces join lines unlines)

/-! ## The closing line -/

/-- The line `k` is the first one behind line 0 that is `---`, and line 0 is `---` too. -/
structure ClosesAt (ls : List String) (k : Nat) : Prop where
  opened : ls[0]? = some delimiter
  pos : 0 < k
  closed : ls[k]? = some delimiter
  first : ∀ i, 0 < i → i < k → ls[i]? ≠ some delimiter

/-- Of several lines that could close a header, the first one does. -/
theorem exists_closesAt_iff (ls : List String) : (∃ k, ClosesAt ls k) ↔
    ls[0]? = some delimiter ∧ ∃ k, 0 < k ∧ ls[k]? = some delimiter := by
  constructor
  · rintro ⟨k, h⟩
    exact ⟨h.opened, k, h.pos, h.closed⟩
  · rintro ⟨hopened, hlater⟩
    have hfound := Nat.find_spec hlater
    refine ⟨Nat.find hlater, hopened, hfound.1, hfound.2, ?_⟩
    intro i hpos hlt hi
    exact Nat.find_min hlater hlt ⟨hpos, hi⟩

/-- The lines of a header. -/
def headerOf (ls : List String) (k : Nat) : List String :=
  (ls.take k).drop 1

theorem mem_of_mem_headerOf {ls : List String} {k : Nat} {l : String} (h : l ∈ headerOf ls k) :
    l ∈ ls :=
  List.mem_of_mem_take (List.mem_of_mem_drop h)

/-- The lines behind a header. -/
def behindHeader (ls : List String) (k : Nat) : List String :=
  ls.drop (k + 1)

namespace ClosesAt

variable {ls : List String} {k : Nat}

/-- The lines of a text, cut at the two lines. -/
theorem eq_append (h : ClosesAt ls k) :
    ls = delimiter :: (headerOf ls k ++ delimiter :: behindHeader ls k) := by
  obtain ⟨hfirst, hopened⟩ := List.getElem?_eq_some_iff.mp h.opened
  obtain ⟨hk, hclosed⟩ := List.getElem?_eq_some_iff.mp h.closed
  have hbehind : delimiter :: behindHeader ls k = ls.drop k := by
    rw [List.drop_eq_getElem_cons hk, hclosed]
    rfl
  have hheader : headerOf ls k ++ ls.drop k = ls.drop 1 := by
    rw [headerOf, ← List.drop_append_of_le_length (by rw [List.length_take]; have := h.pos; omega),
      List.take_append_drop]
  rw [hbehind, hheader, ← hopened, ← List.drop_eq_getElem_cons hfirst, List.drop_zero]

theorem not_mem_headerOf (h : ClosesAt ls k) : delimiter ∉ headerOf ls k := by
  intro hmem
  obtain ⟨i, hi⟩ := List.mem_iff_getElem?.mp hmem
  rw [headerOf, List.getElem?_drop, List.getElem?_take] at hi
  split at hi
  · rename_i hlt
    exact h.first (1 + i) (by omega) hlt hi
  · cases hi

end ClosesAt

/-! ## Headers by their lines -/

theorem toList_delimiter : delimiter.toList = dashes := rfl

theorem dashes_mem_map_toList_iff {ls : List String} :
    dashes ∈ ls.map String.toList ↔ delimiter ∈ ls := by
  rw [← toList_delimiter, List.mem_map_of_injective (fun _ _ => String.toList_inj.mp)]

/-- **The header**, where a line closes it, and what follows. -/
theorem splitHeader_of_closesAt {text : String} {k : Nat} (h : ClosesAt (lines text) k) :
    splitHeader text.toList = some ((unlines (headerOf (lines text) k)).toList,
      (unlines (behindHeader (lines text) k)).toList) := by
  have hpieces := Text.map_toList_lines text
  rw [h.eq_append, List.map_cons, List.map_append, List.map_cons, toList_delimiter] at hpieces
  rw [splitHeader_eq hpieces.symm, if_pos rfl,
    cutAtDelimiter_append (mt dashes_mem_map_toList_iff.mp h.not_mem_headerOf), Option.map_some,
    unlines, unlines, String.toList_ofList, String.toList_ofList]

/-- Without a `---` among them, lines are not cut. -/
theorem cutAtDelimiter_of_not_mem {ls : List (List Char)} (h : dashes ∉ ls) :
    cutAtDelimiter ls = none := by
  induction ls with
  | nil => rfl
  | cons l ls ih =>
    rw [List.mem_cons, not_or] at h
    rw [cutAtDelimiter, if_neg (Ne.symm h.1), ih h.2]
    rfl

/-- Where no line closes one, there is no header. -/
theorem splitHeader_of_not_closesAt {text : String} (h : ¬ ∃ k, ClosesAt (lines text) k) :
    splitHeader text.toList = none := by
  obtain ⟨p, ps, hp⟩ := List.exists_cons_of_ne_nil (Text.pieces_ne_nil '\n' text.toList)
  rw [splitHeader_eq hp]
  by_cases hd : p = dashes
  · rw [if_pos hd, cutAtDelimiter_of_not_mem, Option.map_none]
    intro hmem
    have hlines : lines text = delimiter :: ps.map String.ofList := by
      rw [lines, hp, hd]
      rfl
    obtain ⟨i, hi⟩ := List.mem_iff_getElem?.mp hmem
    refine h ((exists_closesAt_iff _).mpr ⟨by rw [hlines]; rfl, i + 1, i.succ_pos, ?_⟩)
    rw [hlines, List.getElem?_cons_succ, List.getElem?_map, hi]
    rfl
  · rw [if_neg hd]

/-! ## What is read of a text -/

/-- **A text with a header**: its fields are set by the lines of the header, and its body is what
    follows, less one line feed. -/
theorem decode_of_closesAt {text : String} {k : Nat} (h : ClosesAt (lines text) k) :
    decode text = ⟨Fields.ofLines ((headerOf (lines text) k).map String.toList),
      String.ofList (withoutFirstNewline (unlines (behindHeader (lines text) k)).toList)⟩ := by
  have hnewline : ∀ l ∈ (headerOf (lines text) k).map String.toList, '\n' ∉ l := by
    intro l hl
    obtain ⟨line, hline, rfl⟩ := List.mem_map.mp hl
    exact Text.newline_not_mem_of_mem_lines (mem_of_mem_headerOf hline)
  rw [decode, decodeChars, splitHeader_of_closesAt h]
  simp only [unlines, String.toList_ofList, ofLines_pieces_join hnewline]

/-- **A text without a header** sets nothing and is all body. -/
theorem decode_of_not_closesAt {text : String} (h : ¬ ∃ k, ClosesAt (lines text) k) :
    decode text = ⟨{}, Text.trim text⟩ := by
  rw [decode, decodeChars, splitHeader_of_not_closesAt h]
  rfl

/-- **Headers by their lines.**  A text has a header exactly when its line 0 is `---` and a later line
    is `---` too.  The first such line closes it: the header is what stands between the two, and the
    body is what follows, less one line feed.  Every other text is a body without fields, trimmed. -/
theorem decode_eq_lines (text : String) :
    ((splitHeader text.toList).isSome = true ↔ (lines text)[0]? = some delimiter
      ∧ ∃ k, 0 < k ∧ (lines text)[k]? = some delimiter)
    ∧ (∀ k, ClosesAt (lines text) k →
      splitHeader text.toList = some ((unlines (headerOf (lines text) k)).toList,
        (unlines (behindHeader (lines text) k)).toList)
      ∧ decode text = ⟨Fields.ofLines ((headerOf (lines text) k).map String.toList),
        String.ofList (withoutFirstNewline (unlines (behindHeader (lines text) k)).toList)⟩)
    ∧ (¬ ((lines text)[0]? = some delimiter ∧ ∃ k, 0 < k ∧ (lines text)[k]? = some delimiter) →
      decode text = ⟨{}, Text.trim text⟩) := by
  rw [← exists_closesAt_iff]
  refine ⟨?_, fun k h => ⟨splitHeader_of_closesAt h, decode_of_closesAt h⟩, decode_of_not_closesAt⟩
  constructor
  · intro hsome
    by_contra hnone
    rw [splitHeader_of_not_closesAt hnone] at hsome
    cases hsome
  · rintro ⟨k, h⟩
    rw [splitHeader_of_closesAt h]
    rfl

/-- Neither four dashes nor dashes in front of a carriage return close a header, and later dashes are
    body; a text whose first line only begins with dashes has no header. -/
theorem decode_eq_lines_longer_dashes :
    ClosesAt (lines "---\ntitle: T\n----\n---\x0d\n---\n\nintro\n---") 4
    ∧ decode "---\ntitle: T\n----\n---\x0d\n---\n\nintro\n---"
      = ⟨{ title := some "T" }, "intro\n---"⟩
    ∧ decode "--- \n---\n" = ⟨{}, "--- \n---"⟩ := by
  have hcloses : ClosesAt (lines "---\ntitle: T\n----\n---\x0d\n---\n\nintro\n---") 4 := by
    refine ⟨by rfl, by decide, by rfl, fun i hpos hlt => ?_⟩
    obtain rfl | rfl | rfl : i = 1 ∨ i = 2 ∨ i = 3 := by omega
    · decide
    · decide
    · decide
  have hopen : (lines "--- \n---\n")[0]? ≠ some delimiter := by decide
  exact ⟨hcloses, ((decode_eq_lines _).2.1 4 hcloses).2, (decode_eq_lines _).2.2 fun h => hopen h.1⟩

end Redline.FrontMatter
