/-
  Colour and text — what is left of coloured text when its escape sequences are erased.

  1. **Erasing** — `uncolored` erases every sequence of the escape character, a bracket, one or more
     digits and an `m`, from the left to the right.
  2. **`Colored cs ps`** — `cs` is the plain text `ps`, without an escape character of its own, with
     sequences in between.  Such texts may stand one behind the other and inside of any style, whose
     code then stands again behind each reset inside (`Colored.append`, `Colored.styled`), and to
     erase the sequences of `cs` gives `ps` (`uncolored_eq`).
  3. **Painters** — what a painter shows is what it shows without colour, coloured; row by row and
     hunk by hunk, since both painters put the same pieces into the same places
     (`uncolored_painted`).
-/
import Redline.Proofs.Text.Numeral
import Redline.Render.Painter

namespace Redline.Diff

/-! ## Headers and lines of hunks -/

theorem Hunk.toList_header (h : Hunk) : h.header.toList
    = "@@ -".toList ++ Text.decimal h.oldStart ++ ",".toList ++ Text.decimal h.oldCount
      ++ " +".toList ++ Text.decimal h.newStart ++ ",".toList ++ Text.decimal h.newCount
      ++ " @@".toList := by
  unfold header Text.decimal
  simp only [String.toList_append, Nat.toString_eq_repr, Nat.toList_repr]

/-- A header is made of digits and a few other characters. -/
theorem Hunk.escape_not_mem_header (h : Hunk) : '\x1b' ∉ h.header.toList := by
  have hnumber : ∀ n, '\x1b' ∉ Text.decimal n := Text.not_mem_decimal (by decide)
  rw [toList_header]
  simp only [List.mem_append, not_or]
  exact ⟨⟨⟨⟨⟨⟨⟨⟨by decide, hnumber _⟩, by decide⟩, hnumber _⟩, by decide⟩, hnumber _⟩, by decide⟩,
    hnumber _⟩, by decide⟩

/-- A hunk shows lines of its alignment. -/
theorem Alignment.mem_lines_of_mem_hunks {a : Alignment} {context : Nat} {h : Hunk}
    (hmem : h ∈ a.hunks context) {l : DiffLine} (hl : l ∈ h.lines) : l ∈ a.lines := by
  obtain ⟨group, -, hgroup⟩ := List.mem_filterMap.mp hmem
  unfold Hunk.ofGroup? at hgroup
  split at hgroup
  · cases hgroup
  · cases hgroup
    obtain ⟨i, -, hi⟩ := List.mem_filterMap.mp hl
    rw [List.getElem?_toArray] at hi
    exact List.mem_of_getElem? hi

end Redline.Diff

namespace Redline.Render

/-! ## Erasing escape sequences -/

/-- What stands behind an escape sequence at the start of a text, if there is one. -/
def behindSequence? : List Char → Option (List Char)
  | '\x1b' :: '[' :: cs =>
    match cs.takeWhile Char.isDigit, cs.dropWhile Char.isDigit with
    | _ :: _, 'm' :: rest => some rest
    | _, _ => none
  | _ => none

/-- A sequence has characters of its own, so erasing it makes the text shorter. -/
theorem length_lt_of_behindSequence? {cs rest : List Char} (h : behindSequence? cs = some rest) :
    rest.length < cs.length := by
  unfold behindSequence? at h
  split at h
  · rename_i cs
    split at h
    · rename_i hrest
      cases h
      have hle := (List.dropWhile_sublist Char.isDigit (l := cs)).length_le
      rw [hrest] at hle
      simp only [List.length_cons] at hle ⊢
      omega
    · cases h
  · cases h

/-- `cs` without its escape sequences. -/
def uncolored : List Char → List Char
  | [] => []
  | c :: cs =>
    match _ : behindSequence? (c :: cs) with
    | some rest => uncolored rest
    | none => c :: uncolored cs
termination_by cs => cs.length
decreasing_by
  · exact length_lt_of_behindSequence? ‹_›
  · exact Nat.lt_succ_self _

/-- A character that opens no sequence stays. -/
theorem uncolored_cons_of_ne {c : Char} (h : c ≠ '\x1b') (cs : List Char) :
    uncolored (c :: cs) = c :: uncolored cs := by
  have hnone : behindSequence? (c :: cs) = none := by
    unfold behindSequence?
    split
    · rename_i heq
      exact absurd (List.cons.inj heq).1 h
    · rfl
  rw [uncolored]
  split
  · rename_i hsome
    rw [hnone] at hsome
    cases hsome
  · rfl

/-- A sequence at the start is skipped. -/
theorem uncolored_of_behindSequence? {cs rest : List Char} (h : behindSequence? cs = some rest) :
    uncolored cs = uncolored rest := by
  cases cs with
  | nil => cases h
  | cons c cs =>
    rw [uncolored]
    split
    · rename_i hsome
      rw [h] at hsome
      cases hsome
      rfl
    · rename_i hnone
      rw [h] at hnone
      cases hnone

/-- The sequence that opens a style ends where its code ends. -/
theorem behindSequence?_opening (style : Style) (cs : List Char) :
    behindSequence? (escapeSequence style.code ++ cs) = some cs := by
  cases style
  all_goals rfl

theorem behindSequence?_reset (cs : List Char) : behindSequence? (reset ++ cs) = some cs :=
  rfl

theorem reopen_cons_of_ne {c : Char} (h : c ≠ '\x1b') (code cs : List Char) :
    reopen code (c :: cs) = c :: reopen code cs := by
  rw [reopen]
  intro rest hc
  exact absurd hc h

/-! ## Plain text with sequences in between -/

/-- `cs` is `ps`, in which no escape character stands, with escape sequences in between. -/
inductive Colored : List Char → List Char → Prop where
  | nil : Colored [] []
  | char {c cs ps} (h : c ≠ '\x1b') : Colored cs ps → Colored (c :: cs) (c :: ps)
  | opening {cs ps} (style : Style) : Colored cs ps →
      Colored (escapeSequence style.code ++ cs) ps
  | reset {cs ps} : Colored cs ps → Colored (reset ++ cs) ps

/-- **Erasing the sequences leaves the plain text.** -/
theorem uncolored_eq {cs ps : List Char} (h : Colored cs ps) : uncolored cs = ps := by
  induction h with
  | nil => rw [uncolored]
  | char hc _ ih => rw [uncolored_cons_of_ne hc, ih]
  | opening style _ ih => rw [uncolored_of_behindSequence? (behindSequence?_opening style _), ih]
  | reset _ ih => rw [uncolored_of_behindSequence? (behindSequence?_reset _), ih]

namespace Colored

/-- A text without escape characters is coloured, with no sequence in it. -/
theorem of_not_mem {ps : List Char} (h : '\x1b' ∉ ps) : Colored ps ps := by
  induction ps with
  | nil => exact .nil
  | cons c ps ih =>
    rw [List.mem_cons, not_or] at h
    exact .char (Ne.symm h.1) (ih h.2)

/-- Coloured texts one after the other. -/
theorem append {cs ps cs' ps' : List Char} (h : Colored cs ps) (h' : Colored cs' ps') :
    Colored (cs ++ cs') (ps ++ ps') := by
  induction h with
  | nil => exact h'
  | char hc _ ih => exact .char hc ih
  | opening style _ ih =>
    rw [List.append_assoc]
    exact .opening style ih
  | reset _ ih =>
    rw [List.append_assoc]
    exact .reset ih

/-- The code of the outer style behind each reset inside is one sequence more. -/
theorem reopen {cs ps : List Char} (h : Colored cs ps) (style : Style) :
    Colored (reopen (escapeSequence style.code) cs) ps := by
  induction h with
  | nil => exact .nil
  | char hc _ ih =>
    rw [reopen_cons_of_ne hc]
    exact .char hc ih
  | @opening cs ps inner _ ih =>
    have hinner : Render.reopen (escapeSequence style.code) (escapeSequence inner.code ++ cs)
        = escapeSequence inner.code ++ Render.reopen (escapeSequence style.code) cs := by
      cases inner
      all_goals rfl
    rw [hinner]
    exact .opening inner ih
  | @reset cs ps _ ih =>
    have hreset : Render.reopen (escapeSequence style.code) (Render.reset ++ cs)
        = Render.reset ++ (escapeSequence style.code
          ++ Render.reopen (escapeSequence style.code) cs) := by
      rw [← List.append_assoc]
      rfl
    rw [hreset]
    exact .reset (.opening style ih)

/-- A style around a coloured text. -/
theorem styled {cs ps : List Char} (h : Colored cs ps) (style : Style) :
    Colored (styled style cs) ps := by
  have hinside := (h.reopen style).append (.reset .nil)
  rw [List.append_nil, List.append_nil] at hinside
  show Colored (escapeSequence style.code ++ _ ++ Render.reset) ps
  rw [List.append_assoc]
  exact .opening style hinside

end Colored

/-! ## Painters -/

namespace Painter

/-- The painter that shows the same without colour. -/
def plain (p : Painter) : Painter :=
  { p with color := false }

variable {p : Painter}

/-- A painter with colour against the same one without. -/
theorem colored_paint (style : Style) {cs ps : List Char} (h : Colored cs ps) :
    Colored (p.paint style cs) (p.plain.paint style ps) := by
  show Colored (if p.color then Render.styled style cs else cs) ps
  split
  · exact h.styled style
  · exact h

theorem colored_paintKind (k : Diff.ChangeKind) {cs ps : List Char} (h : Colored cs ps) :
    Colored (p.paintKind k cs) (p.plain.paintKind k ps) := by
  cases k with
  | unchanged => exact h
  | added => exact colored_paint .green h
  | deleted => exact colored_paint .red h

/-- The content of a line, or the placeholder for an empty one. -/
theorem colored_contentChars (hp : '\x1b' ∉ p.placeholder.toList) {content : String}
    (h : '\x1b' ∉ content.toList) :
    Colored (p.contentChars content) (p.plain.contentChars content) := by
  unfold contentChars
  split
  · exact colored_paint .dimmed (.of_not_mem hp)
  · exact .of_not_mem h

/-- **One row.**  The number, the marker, the content and the line feed stand in both alike. -/
theorem colored_rowChars (hp : '\x1b' ∉ p.placeholder.toList) {l : Diff.DiffLine}
    (h : '\x1b' ∉ l.content.toList) : Colored (p.rowChars l) (p.plain.rowChars l) := by
  have hgutter : '\x1b' ∉ Text.padLeft 4 (Text.decimal l.gutter) :=
    Text.not_mem_padLeft_decimal (by decide) (by decide) 4 l.gutter
  have hmarker : l.kind.marker ≠ '\x1b' := by
    cases l.kind
    all_goals decide
  have hcontent : Colored (l.kind.marker :: ' ' :: p.contentChars l.content)
      (l.kind.marker :: ' ' :: p.plain.contentChars l.content) :=
    .char hmarker (.char (by decide) (colored_contentChars hp h))
  unfold rowChars
  exact (((colored_paint .dimmed (.of_not_mem hgutter)).append (.char (by decide) .nil)).append
    (colored_paintKind l.kind hcontent)).append (.char (by decide) .nil)

theorem colored_flatMap {β : Type} {f g : β → List Char} {l : List β}
    (h : ∀ x ∈ l, Colored (f x) (g x)) : Colored (l.flatMap f) (l.flatMap g) := by
  induction l with
  | nil => exact .nil
  | cons x l ih =>
    rw [List.forall_mem_cons] at h
    rw [List.flatMap_cons, List.flatMap_cons]
    exact h.1.append (ih h.2)

theorem colored_rowsChars (hp : '\x1b' ∉ p.placeholder.toList) {ls : List Diff.DiffLine}
    (h : ∀ l ∈ ls, '\x1b' ∉ l.content.toList) :
    Colored (p.rowsChars ls) (p.plain.rowsChars ls) :=
  colored_flatMap fun l hl => colored_rowChars hp (h l hl)

/-- **One hunk**, its header first. -/
theorem colored_hunkChars (hp : '\x1b' ∉ p.placeholder.toList) {h : Diff.Hunk}
    (hlines : ∀ l ∈ h.lines, '\x1b' ∉ l.content.toList) :
    Colored (p.hunkChars h) (p.plain.hunkChars h) := by
  unfold hunkChars
  exact ((colored_paint .cyan (.of_not_mem h.escape_not_mem_header)).append
    (.char (by decide) .nil)).append (colored_rowsChars hp hlines)

/-- The summary: two numbers, each in its colour. -/
theorem colored_summary (a : Diff.Alignment) :
    Colored (p.summary a).toList (p.plain.summary a).toList := by
  have hadded : '\x1b' ∉ '+' :: Text.decimal a.additions := by
    rw [List.mem_cons, not_or]
    exact ⟨by decide, Text.not_mem_decimal (by decide) _⟩
  have hdeleted : '\x1b' ∉ '-' :: Text.decimal a.deletions := by
    rw [List.mem_cons, not_or]
    exact ⟨by decide, Text.not_mem_decimal (by decide) _⟩
  unfold summary
  rw [String.toList_ofList, String.toList_ofList]
  exact ((colored_paint .green (.of_not_mem hadded)).append (.char (by decide) .nil)).append
    (colored_paint .red (.of_not_mem hdeleted))

end Painter

/-- `s` without its escape sequences. -/
def uncoloredText (s : String) : String :=
  String.ofList (uncolored s.toList)

theorem uncoloredText_eq {s t : String} (h : Colored s.toList t.toList) : uncoloredText s = t := by
  rw [uncoloredText, uncolored_eq h, String.ofList_toList]

/-- **Colour adds nothing but colour.**  Where no escape character stands in the contents of the
    lines, in the placeholder or in the heading, the coloured rows, hunks, summary and heading are
    the plain ones, once their escape sequences are erased. -/
theorem uncolored_painted {placeholder heading : String} {a : Diff.Alignment}
    (hplaceholder : '\x1b' ∉ placeholder.toList) (hheading : '\x1b' ∉ heading.toList)
    (hlines : ∀ l ∈ a.lines, '\x1b' ∉ l.content.toList) (context : Nat) :
    uncoloredText ((Painter.mk true placeholder).rows a) = (Painter.mk false placeholder).rows a ∧
    uncoloredText ((Painter.mk true placeholder).hunks a context)
      = (Painter.mk false placeholder).hunks a context ∧
    uncoloredText ((Painter.mk true placeholder).summary a)
      = (Painter.mk false placeholder).summary a ∧
    uncoloredText ((Painter.mk true placeholder).heading heading)
      = (Painter.mk false placeholder).heading heading := by
  refine ⟨uncoloredText_eq ?_, uncoloredText_eq ?_, uncoloredText_eq ?_, uncoloredText_eq ?_⟩
  · unfold Painter.rows
    rw [String.toList_ofList, String.toList_ofList]
    exact Painter.colored_rowsChars (p := ⟨true, placeholder⟩) hplaceholder hlines
  · unfold Painter.hunks
    rw [String.toList_ofList, String.toList_ofList]
    exact Painter.colored_flatMap fun h hmem =>
      Painter.colored_hunkChars (p := ⟨true, placeholder⟩) hplaceholder fun l hl =>
        hlines l (Diff.Alignment.mem_lines_of_mem_hunks hmem hl)
  · exact Painter.colored_summary (p := ⟨true, placeholder⟩) a
  · unfold Painter.heading
    rw [String.toList_ofList, String.toList_ofList]
    exact Painter.colored_paint (p := ⟨true, placeholder⟩) .bold (.of_not_mem hheading)

/-- A new empty line has a placeholder that is dimmed inside of a green row. -/
theorem uncolored_painted_empty :
    '\x1b' ∉ "(empty)".toList ∧ '\x1b' ∉ "[1mTitle".toList ∧
    (∀ l ∈ [(⟨.added, "", none, some 1⟩ : Diff.DiffLine)], '\x1b' ∉ l.content.toList) ∧
    uncoloredText ((Painter.mk true "(empty)").rows ⟨[⟨.added, "", none, some 1⟩]⟩)
      = "   1 + (empty)\n" ∧
    uncoloredText ((Painter.mk true "(empty)").hunks ⟨[⟨.added, "", none, some 1⟩]⟩ 0)
      = "@@ -1,0 +1,1 @@\n   1 + (empty)\n" ∧
    uncoloredText ((Painter.mk true "(empty)").summary ⟨[⟨.added, "", none, some 1⟩]⟩) = "+1 -0" ∧
    uncoloredText ((Painter.mk true "(empty)").heading "[1mTitle") = "[1mTitle" := by
  have hplaceholder : '\x1b' ∉ "(empty)".toList := by decide
  have hheading : '\x1b' ∉ "[1mTitle".toList := by decide
  have hlines : ∀ l ∈ [(⟨.added, "", none, some 1⟩ : Diff.DiffLine)],
      '\x1b' ∉ l.content.toList := by decide
  obtain ⟨hrows, hhunks, hsummary, hhead⟩ :=
    uncolored_painted (a := ⟨[⟨.added, "", none, some 1⟩]⟩) hplaceholder hheading hlines 0
  refine ⟨hplaceholder, hheading, hlines, ?_, ?_, ?_, ?_⟩
  · rw [hrows]
    decide
  · rw [hhunks]
    decide
  · rw [hsummary]
    decide
  · rw [hhead]
    decide

example : (Painter.mk true "(empty)").rows ⟨[⟨.added, "", none, some 1⟩]⟩
    = "\x1b[2m   1\x1b[0m \x1b[32m+ \x1b[2m(empty)\x1b[0m\x1b[32m\x1b[0m\n" := by decide

end Redline.Render
