/-
  Headers, line by line.

  `splitHeader` walks over characters; what it finds is a matter of lines.  A text has a header when
  its first line is `---` and a later line is `---` too:

  1. `cutAtDelimiter ls` — the lines in front of the first `---` among `ls`, and those behind it.
  2. `scanHeader_eq` — the walk over the characters of a line and of the lines that follow is this
     cut, put together again.  It is the one induction on characters; the state of the walk is what
     has been read of the header.
  3. `splitHeader_eq` — the header of a text and what follows, from the pieces of the text.

  The last section reads a header as a list of lines: how the lines were joined does not matter for
  the fields (`ofLines_pieces_join`).
-/
import Redline.FrontMatter.Decode
import Redline.Proofs.Text.Pieces

namespace Redline.FrontMatter

open Redline.Text (pieces join)

/-! ## Cutting lines -/

/-- The characters of the line that opens and closes a header. -/
def dashes : List Char := ['-', '-', '-']

theorem newline_not_mem_dashes : '\n' ∉ dashes := by decide

/-- The lines in front of the first `---` and the lines behind it, if there is one. -/
def cutAtDelimiter : List (List Char) → Option (List (List Char) × List (List Char))
  | [] => none
  | l :: ls =>
    if l = dashes then some ([], ls)
    else (cutAtDelimiter ls).map fun parts => (l :: parts.1, parts.2)

theorem cutAtDelimiter_cons_dashes (ls : List (List Char)) :
    cutAtDelimiter (dashes :: ls) = some ([], ls) := by
  rw [cutAtDelimiter, if_pos rfl]

/-- The cut is at the first `---`. -/
theorem cutAtDelimiter_append {hs : List (List Char)} (h : dashes ∉ hs) (ls : List (List Char)) :
    cutAtDelimiter (hs ++ dashes :: ls) = some (hs, ls) := by
  induction hs with
  | nil => exact cutAtDelimiter_cons_dashes ls
  | cons l hs ih =>
    rw [List.mem_cons, not_or] at h
    rw [List.cons_append, cutAtDelimiter, if_neg (Ne.symm h.1), ih h.2]
    rfl

/-! ## The walk over the characters -/

/-- A closing line stands at the start of a text when its first line is `---`. -/
theorem afterClosing?_eq {cs p : List Char} {ps : List (List Char)}
    (hp : pieces '\n' cs = p :: ps) :
    afterClosing? cs = if p = dashes then some (join ['\n'] ps) else none := by
  have hjoin := Text.join_pieces '\n' cs
  rw [hp] at hjoin
  by_cases hd : p = dashes
  · rw [if_pos hd, ← hjoin, hd]
    cases ps with
    | nil => rfl
    | cons q qs =>
      rw [Text.join_cons_cons]
      rfl
  · rw [if_neg hd]
    unfold afterClosing?
    split
    · rw [show pieces '\n' ['-', '-', '-'] = [dashes] from rfl] at hp
      exact absurd (List.cons.inj hp).1.symm hd
    · rename_i rest
      have hline : '-' :: '-' :: '-' :: '\n' :: rest = dashes ++ '\n' :: rest := rfl
      rw [hline, Text.pieces_append_cons, Text.pieces_of_not_mem newline_not_mem_dashes] at hp
      exact absurd (List.cons.inj hp).1.symm hd
    · rfl

/-- **The walk.**  `read` is what has been read of the header, `p` is the rest of its last line and
    `ps` are the lines behind it: the header ends in front of the first `---` among `ps`. -/
theorem scanHeader_eq (cs : List Char) : ∀ (read p : List Char) (ps : List (List Char)),
    pieces '\n' cs = p :: ps →
    scanHeader read cs = (cutAtDelimiter ps).map
      fun parts => (read.reverse ++ join ['\n'] (p :: parts.1), join ['\n'] parts.2) := by
  induction cs with
  | nil =>
    intro read p ps hp
    obtain ⟨rfl, rfl⟩ := List.cons.inj hp
    rfl
  | cons c cs ih =>
    intro read p ps hp
    obtain ⟨q, qs, hq⟩ := List.exists_cons_of_ne_nil (Text.pieces_ne_nil '\n' cs)
    by_cases hc : c = '\n'
    · subst hc
      rw [Text.pieces_cons_self, hq] at hp
      obtain ⟨rfl, rfl⟩ := List.cons.inj hp
      rw [scanHeader, if_pos rfl, afterClosing?_eq hq, cutAtDelimiter]
      by_cases hd : q = dashes
      · -- The next line closes the header.
        rw [if_pos hd, if_pos hd]
        simp
      · rw [if_neg hd, if_neg hd]
        show scanHeader ('\n' :: read) cs = _
        rw [ih _ q qs hq, Option.map_map]
        congr 1
        funext parts
        simp only [Function.comp_apply, Text.join_cons_cons, List.reverse_cons, List.append_assoc,
          List.nil_append]
    · obtain ⟨q', qs', hq', hcq⟩ := Text.pieces_cons_of_ne hc cs
      rw [hcq] at hp
      obtain ⟨rfl, rfl⟩ := List.cons.inj hp
      rw [scanHeader, if_neg hc, ih _ q' qs' hq']
      congr 1
      funext parts
      rw [Text.join_cons_cons_head, List.reverse_cons, List.append_assoc, List.singleton_append]

theorem splitHeader_of_closed {rest body : List Char} (h : afterClosing? rest = some body) :
    splitHeader (dashes ++ '\n' :: rest) = some ([], body) := by
  simp only [dashes, List.cons_append, List.nil_append, splitHeader, h]

theorem splitHeader_of_open {rest : List Char} (h : afterClosing? rest = none) :
    splitHeader (dashes ++ '\n' :: rest) = scanHeader [] rest := by
  simp only [dashes, List.cons_append, List.nil_append, splitHeader, h]

/-- **The header** is found by lines: `cs` has one when its first line is `---` and the other lines
    have a first `---`, and then these lines are cut there. -/
theorem splitHeader_eq {cs p : List Char} {ps : List (List Char)} (hp : pieces '\n' cs = p :: ps) :
    splitHeader cs = if p = dashes then
      (cutAtDelimiter ps).map fun parts => (join ['\n'] parts.1, join ['\n'] parts.2)
    else none := by
  have hjoin := Text.join_pieces '\n' cs
  rw [hp] at hjoin
  by_cases hd : p = dashes
  · rw [if_pos hd, ← hjoin, hd]
    cases ps with
    | nil => rfl
    | cons q qs =>
      have hrest : pieces '\n' (join ['\n'] (q :: qs)) = q :: qs := by
        refine Text.pieces_join (List.cons_ne_nil _ _) fun l hl => ?_
        exact Text.not_mem_of_mem_pieces (hp ▸ List.mem_cons_of_mem p hl)
      have hclosed := afterClosing?_eq hrest
      rw [Text.join_cons_cons, List.append_assoc, List.singleton_append, cutAtDelimiter]
      by_cases hq : q = dashes
      · -- The header is empty.
        rw [if_pos hq] at hclosed ⊢
        rw [splitHeader_of_closed hclosed]
        rfl
      · rw [if_neg hq] at hclosed ⊢
        rw [splitHeader_of_open hclosed, scanHeader_eq _ _ q qs hrest, Option.map_map]
        rfl
  · rw [if_neg hd]
    unfold splitHeader
    split
    · rename_i rest
      have hline : '-' :: '-' :: '-' :: '\n' :: rest = dashes ++ '\n' :: rest := rfl
      rw [hline, Text.pieces_append_cons, Text.pieces_of_not_mem newline_not_mem_dashes] at hp
      exact absurd (List.cons.inj hp).1.symm hd
    · rfl

/-! ## The lines of a header -/

/-- The lines of a header can be read off the header. -/
theorem ofLines_pieces_join {hs : List (List Char)} (h : ∀ l ∈ hs, '\n' ∉ l) :
    Fields.ofLines (pieces '\n' (join ['\n'] hs)) = Fields.ofLines hs := by
  cases hs with
  | nil => rfl
  | cons l ls => rw [Text.pieces_join (List.cons_ne_nil l ls) h]

end Redline.FrontMatter
