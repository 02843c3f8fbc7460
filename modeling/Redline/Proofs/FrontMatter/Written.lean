/-
  Written forms, line by line — when the body of a document comes back.

  Nothing is escaped, so a value may hold a line feed, and one of its lines may be `---`.

  1. `writtenLines m` — the lines that stand between the two delimiters, after every value has been
     split at its line feeds.  A written form consists of `---`, these lines, `---`, an empty line
     and the lines of the body (`pieces_encodeChars`).

  2. **The dichotomy** — if no written line is `---`, the header is exactly the written lines and
     the body comes back (`decodeChars_encodeChars`).  If one is, the header ends there and what is
     taken for the body is LONGER than the body (`length_lt_of_mem`), so it is never the body, by
     no accident whatever.

  3. **Which values do this** — a line `---` of a value between quotes needs a line feed on both
     sides (`closingLine`), since the quotes keep it off the delimiters of the line; the names of a
     list are such values.  A bare value needs none at its end, where the line feed of the header
     follows.  `dashes_not_mem_writtenLines_iff` collects this over the six fields.

  The result is `decode_encode_body_iff`.
-/
import Redline.FrontMatter.Encode
import Redline.Proofs.FrontMatter.Header

namespace Redline.FrontMatter

open Redline.Text (pieces join)

/-! ## The lines of a written form -/

/-- The lines between the two delimiters, after the values have been split at their line feeds. -/
def writtenLines (m : Metadata) : List (List Char) :=
  (headerLines m).flatMap (pieces '\n')

theorem newline_not_mem_writtenLines (m : Metadata) : ∀ l ∈ writtenLines m, '\n' ∉ l := by
  intro l hl
  obtain ⟨line, _, hmem⟩ := List.mem_flatMap.mp hl
  exact Text.not_mem_of_mem_pieces hmem

theorem pieces_encodeChars (m : Metadata) (body : List Char) :
    pieces '\n' (encodeChars m body)
      = dashes :: (writtenLines m ++ dashes :: [] :: pieces '\n' body) := by
  have hshape : encodeChars m body
      = dashes ++ '\n' :: ((headerLines m).flatMap (· ++ ['\n'])
        ++ (dashes ++ '\n' :: '\n' :: body)) := by
    simp only [encodeChars, show delimiter.toList = dashes from rfl, List.append_assoc,
      List.cons_append, List.nil_append]
  rw [hshape, Text.pieces_append_cons, Text.pieces_of_not_mem newline_not_mem_dashes,
    Text.pieces_flatMap_append, Text.pieces_append_cons, Text.pieces_cons_self,
    Text.pieces_of_not_mem newline_not_mem_dashes]
  rfl

/-- Without a closing line among the written lines, these are the header. -/
theorem decodeChars_encodeChars {m : Metadata} (h : dashes ∉ writtenLines m) (body : List Char) :
    decodeChars (encodeChars m body) = ⟨Fields.ofLines (writtenLines m), String.ofList body⟩ := by
  have hrest : join ['\n'] ([] :: pieces '\n' body) = '\n' :: body := by
    rw [Text.join_cons_of_ne_nil _ _ (Text.pieces_ne_nil _ _), Text.join_pieces]
    rfl
  rw [decodeChars, splitHeader_eq (pieces_encodeChars m body), if_pos rfl,
    cutAtDelimiter_append h, Option.map_some]
  simp only [hrest, ofLines_pieces_join (newline_not_mem_writtenLines m)]
  rfl

/-- With one, the body that is read is longer than the one that was written. -/
theorem length_lt_of_mem {m : Metadata} (h : dashes ∈ writtenLines m) (body : List Char) :
    body.length < (decodeChars (encodeChars m body)).body.toList.length := by
  obtain ⟨hs, ls, hsplit, hfirst⟩ := List.eq_append_cons_of_mem h
  have hlines : writtenLines m ++ dashes :: [] :: pieces '\n' body
      = hs ++ dashes :: (ls ++ dashes :: [] :: pieces '\n' body) := by
    rw [hsplit, List.append_assoc, List.cons_append]
  -- The whole end of the written form, from the second delimiter on, is part of what is read.
  have hend : join ['\n'] (dashes :: [] :: pieces '\n' body) = dashes ++ '\n' :: '\n' :: body := by
    rw [Text.join_cons_cons, Text.join_cons_of_ne_nil _ _ (Text.pieces_ne_nil _ _),
      Text.join_pieces]
    simp only [List.append_assoc, List.cons_append, List.nil_append]
  have hle := Text.length_join_le '\n' ls (dashes :: [] :: pieces '\n' body)
  rw [hend, List.length_append, List.length_cons, List.length_cons] at hle
  have hdrop : ∀ cs : List Char, cs.length ≤ (withoutFirstNewline cs).length + 1 := by
    intro cs
    unfold withoutFirstNewline
    split
    · rw [List.length_cons]
    · omega
  have hrest := hdrop (join ['\n'] (ls ++ dashes :: [] :: pieces '\n' body))
  rw [decodeChars, splitHeader_eq (pieces_encodeChars m body), if_pos rfl, hlines,
    cutAtDelimiter_append hfirst, Option.map_some]
  simp only [String.toList_ofList]
  omega

/-! ## Closing lines inside of a value -/

/-- A line `---` between two line feeds. -/
def closingLine : List Char := '\n' :: dashes ++ ['\n']

/-- A closing line needs two line feeds. -/
theorem not_infix_of_count_newline {cs : List Char} (h : cs.count '\n' ≤ 1) :
    ¬ closingLine <:+: cs := by
  intro hstretch
  have hcount := hstretch.count_le '\n'
  rw [show closingLine.count '\n' = 2 by decide] at hcount
  omega

theorem count_newline_key {key : String} (h : '\n' ∉ key.toList) (after : List Char)
    (ha : '\n' ∉ after) : ('\n' :: key.toList ++ after).count '\n' ≤ 1 := by
  rw [List.count_append, List.count_cons_self, List.count_eq_zero_of_not_mem h,
    List.count_eq_zero_of_not_mem ha]

/-- A closing line beside a character that it does not hold stands on one side of it. -/
theorem closingLine_infix_iff {c : Char} (hc : c ∉ closingLine) (cs ds : List Char) :
    closingLine <:+: cs ++ c :: ds ↔ closingLine <:+: cs ∨ closingLine <:+: ds :=
  Text.infix_append_cons_iff (by decide) hc cs ds

/-- A value between quotes closes the header only by a line of its own. -/
theorem closingLine_infix_quoted (cs ds : List Char) :
    closingLine <:+: quoted cs ++ ds ↔ closingLine <:+: cs ∨ closingLine <:+: ds := by
  have hquote : '"' ∉ closingLine := by decide
  have hshape : quoted cs ++ ds = [] ++ '"' :: (cs ++ '"' :: ds) := by
    rw [quoted, List.append_assoc, List.cons_append, List.singleton_append, List.nil_append]
  rw [hshape, closingLine_infix_iff hquote, closingLine_infix_iff hquote]
  constructor
  · rintro (h | h)
    · exact absurd h (not_infix_of_count_newline (by decide))
    · exact h
  · exact Or.inr

/-- So do the names of a list, none of which can reach over to another. -/
theorem closingLine_infix_join (names : List String) {ds : List Char}
    (hds : ds.count '\n' ≤ 1) :
    closingLine <:+: join [',', ' '] (names.map fun name => quoted name.toList) ++ ds
      ↔ ∃ name ∈ names, closingLine <:+: name.toList := by
  have hspace : ' ' ∉ closingLine := by decide
  have hd := not_infix_of_count_newline hds
  induction names with
  | nil => simp [hd]
  | cons name names ih =>
    cases names with
    | nil =>
      rw [List.map_singleton, Text.join_singleton, closingLine_infix_quoted]
      simp [hd]
    | cons next names =>
      have hne : (next :: names).map (fun name => quoted name.toList) ≠ [] := by simp
      have hcomma : ¬ closingLine <:+: [','] := not_infix_of_count_newline (by decide)
      rw [List.map_cons, Text.join_cons_of_ne_nil _ _ hne, List.append_assoc, List.append_assoc,
        closingLine_infix_quoted, List.cons_append, List.singleton_append,
        ← List.singleton_append, closingLine_infix_iff hspace,
        or_iff_right hcomma, List.exists_mem_cons_iff]
      exact or_congr_right ih

/-! ## Closing lines among the written lines -/

theorem dashes_mem_pieces_iff (line : List Char) :
    dashes ∈ pieces '\n' line ↔ closingLine <:+: '\n' :: line ++ ['\n'] :=
  Text.mem_pieces_iff newline_not_mem_dashes line

theorem dashes_mem_quotedLine {key : String} (hkey : '\n' ∉ key.toList) (cs : List Char) :
    dashes ∈ pieces '\n' (fieldLine key (quoted cs)) ↔ closingLine <:+: cs := by
  have hspace : ' ' ∉ closingLine := by decide
  have hshape : '\n' :: fieldLine key (quoted cs) ++ ['\n']
      = ('\n' :: key.toList ++ [':']) ++ ' ' :: (quoted cs ++ ['\n']) := by
    simp [fieldLine]
  rw [dashes_mem_pieces_iff, hshape, closingLine_infix_iff hspace, closingLine_infix_quoted,
    or_iff_right (not_infix_of_count_newline (count_newline_key hkey _ (by decide))),
    or_iff_left (not_infix_of_count_newline (by decide))]

theorem dashes_mem_listLine {key : String} (hkey : '\n' ∉ key.toList) (names : List String) :
    dashes ∈ pieces '\n' (fieldLine key (quotedList names))
      ↔ ∃ name ∈ names, closingLine <:+: name.toList := by
  have hopen : '[' ∉ closingLine := by decide
  have hshape : '\n' :: fieldLine key (quotedList names) ++ ['\n']
      = ('\n' :: key.toList ++ [':', ' '])
        ++ '[' :: (join [',', ' '] (names.map fun name => quoted name.toList) ++ [']', '\n']) := by
    simp [fieldLine, quotedList]
  rw [dashes_mem_pieces_iff, hshape, closingLine_infix_iff hopen,
    closingLine_infix_join names (by decide),
    or_iff_right (not_infix_of_count_newline (count_newline_key hkey _ (by decide)))]

theorem dashes_mem_bareLine {key : String} (hkey : '\n' ∉ key.toList) (cs : List Char) :
    dashes ∈ pieces '\n' (fieldLine key cs) ↔ closingLine <:+: cs ∨ '\n' :: dashes <:+ cs := by
  have hspace : ' ' ∉ closingLine := by decide
  have hshape : '\n' :: fieldLine key cs ++ ['\n']
      = ('\n' :: key.toList ++ [':']) ++ ' ' :: (cs ++ ['\n']) := by
    simp [fieldLine]
  rw [dashes_mem_pieces_iff, hshape, closingLine_infix_iff hspace,
    or_iff_right (not_infix_of_count_newline (count_newline_key hkey _ (by decide))),
    -- The line feed of the header may be the last of the closing line.
    List.infix_concat_iff, closingLine, List.suffix_append_self_iff, or_comm]

/-! ## The six fields -/

/-- A text field brings a line `---` about where its value does; the empty value is not written. -/
theorem dashes_mem_textLine {key : String} {write : List Char → List Char} {P : List Char → Prop}
    (hline : ∀ cs, dashes ∈ pieces '\n' (fieldLine key (write cs)) ↔ P cs) (hempty : ¬ P [])
    (value : String) :
    dashes ∈ (textLine key write value).flatMap (pieces '\n') ↔ P value.toList := by
  by_cases hv : value = ""
  · rw [textLine, if_pos hv, hv]
    exact iff_of_false List.not_mem_nil hempty
  · rw [textLine, if_neg hv, List.flatMap_singleton, hline]

/-- An absent value counts as the empty one. -/
theorem dashes_not_mem_optionLine {key : String} {write : List Char → List Char}
    {P : List Char → Prop} (hline : ∀ cs, dashes ∈ pieces '\n' (fieldLine key (write cs)) ↔ P cs)
    (hempty : ¬ P []) (value : Option String) :
    dashes ∉ (textLine key write (value.getD "")).flatMap (pieces '\n')
      ↔ ∀ s ∈ value, ¬ P s.toList := by
  rw [dashes_mem_textLine hline hempty]
  cases value with
  | none => exact iff_of_true hempty fun s hs => absurd hs (Option.not_mem_none s)
  | some s => simp

theorem dashes_not_mem_listField {key : String} (hkey : '\n' ∉ key.toList)
    (names : List String) :
    dashes ∉ (listLine key names).flatMap (pieces '\n')
      ↔ ∀ name ∈ names, ¬ closingLine <:+: name.toList := by
  by_cases hn : names = []
  · rw [listLine, if_pos hn, hn]
    simp
  · rw [listLine, if_neg hn, List.flatMap_singleton, dashes_mem_listLine hkey]
    simp

/-- No value of `m` closes the header: none holds a line `---`, and the two that are written bare
    do not end with one. -/
structure KeepsHeaderOpen (m : Metadata) : Prop where
  title : ¬ closingLine <:+: m.title.toList
  summary : ∀ s ∈ m.summary, ¬ closingLine <:+: s.toList
  categories : ∀ name ∈ m.categoryNames, ¬ closingLine <:+: name.toList
  tags : ∀ name ∈ m.tagNames, ¬ closingLine <:+: name.toList
  date : ∀ s ∈ m.date, ¬ (closingLine <:+: s.toList ∨ '\n' :: dashes <:+ s.toList)
  updated : ∀ s ∈ m.updated, ¬ (closingLine <:+: s.toList ∨ '\n' :: dashes <:+ s.toList)

theorem dashes_not_mem_writtenLines_iff (m : Metadata) :
    dashes ∉ writtenLines m ↔ KeepsHeaderOpen m := by
  have hquoted : ¬ closingLine <:+: [] := by decide
  have hbare : ¬ (closingLine <:+: [] ∨ '\n' :: dashes <:+ []) := by decide
  have htitle := dashes_mem_textLine
    (dashes_mem_quotedLine (show '\n' ∉ "title".toList by decide)) hquoted m.title
  have hsummary := dashes_not_mem_optionLine
    (dashes_mem_quotedLine (show '\n' ∉ "summary".toList by decide)) hquoted m.summary
  have hcategories := dashes_not_mem_listField (show '\n' ∉ "categories".toList by decide)
    m.categoryNames
  have htags := dashes_not_mem_listField (show '\n' ∉ "tags".toList by decide) m.tagNames
  have hdate := dashes_not_mem_optionLine
    (dashes_mem_bareLine (show '\n' ∉ "date".toList by decide)) hbare m.date
  have hupdated := dashes_not_mem_optionLine
    (dashes_mem_bareLine (show '\n' ∉ "updated".toList by decide)) hbare m.updated
  rw [writtenLines, headerLines]
  simp only [List.flatMap_append, List.mem_append, not_or]
  constructor
  · rintro ⟨⟨⟨⟨⟨h₁, h₂⟩, h₃⟩, h₄⟩, h₅⟩, h₆⟩
    exact ⟨mt htitle.mpr h₁, hsummary.mp h₂, hcategories.mp h₃, htags.mp h₄, hdate.mp h₅,
      hupdated.mp h₆⟩
  · intro h
    exact ⟨⟨⟨⟨⟨mt htitle.mp h.title, hsummary.mpr h.summary⟩, hcategories.mpr h.categories⟩,
      htags.mpr h.tags⟩, hdate.mpr h.date⟩, hupdated.mpr h.updated⟩

/-- **The body comes back** exactly when no value of the metadata closes the header early. -/
theorem decode_encode_body_iff (m : Metadata) (body : String) :
    (decode (encode m body)).body = body ↔ KeepsHeaderOpen m := by
  rw [← dashes_not_mem_writtenLines_iff, decode, toList_encode]
  constructor
  · intro hbody hmem
    have hlt := length_lt_of_mem hmem body.toList
    rw [hbody] at hlt
    exact Nat.lt_irrefl _ hlt
  · intro h
    rw [decodeChars_encodeChars h, String.ofList_toList]

example : (decode (encode { date := some "1\n---" } "body")).body = "---\n\nbody" := by decide

end Redline.FrontMatter
