/-
  Round trips — which documents come back from their written form.

  1. **What can come back** — `normalized m` is the part of `m` that a header can say: tags without
     versions, no empty names, no empty texts.  A date is written bare, so of a date only
     `settled` comes back, what is left after trimming and taking off one quote at either end;
     `reread m` is `normalized m` with settled dates.

  2. **One written line** — the key ends at the first colon, which is the one that was written; the
     quotes around a value are the first and the last character that are not blank, so exactly they
     are taken off (`filterMap_quoted`, `filterMap_listLine`, `filterMap_bare`).

  3. **The whole document** — if the values fit on their lines, reading gives `reread m` and the
     body (`decodeDocument_encode`).  Nothing else can come back at all, since every document that
     is read fits on lines (`fitsLines_decodeDocument`); so the round trip is the identity up to
     `normalized` exactly when the values fit and the dates are settled
     (`decodeDocument_encode_iff`).
-/
import Redline.Proofs.FrontMatter.Lines

namespace Redline.FrontMatter

open Redline.Text (pieces join)

/-! ## What can come back -/

/-- What is read back of a value that is written bare. -/
def settled (s : String) : String :=
  String.ofList (withoutQuotes (Text.trimmed s.toList))

/-- The part of `m` that a header can say. -/
def normalized (m : Metadata) : Metadata where
  title := m.title
  summary := m.summary.filter (· ≠ "")
  categories := m.categories.filter (·.name ≠ "")
  tags := (m.tags.map fun t => ⟨t.name, none⟩).filter (·.name ≠ "")
  date := m.date.filter (· ≠ "")
  updated := m.updated.filter (· ≠ "")

/-- What is read back of `m`, where its values fit on lines. -/
def reread (m : Metadata) : Metadata :=
  { normalized m with
    date := (normalized m).date.map settled
    updated := (normalized m).updated.map settled }

/-! ## One written line -/

theorem withoutQuotes_quoted (cs : List Char) : withoutQuotes (quoted cs) = cs := by
  have hquote : isQuote '"' = true := by decide
  rw [withoutQuotes, quoted, List.cons_append, withoutFirstQuote, if_pos hquote,
    List.reverse_append, List.reverse_singleton, List.singleton_append, withoutFirstQuote,
    if_pos hquote, List.reverse_reverse]

theorem trimmed_quoted (cs : List Char) : Text.trimmed (quoted cs) = quoted cs :=
  Text.trimmed_of_ends (by decide) (by decide) cs

theorem trimmed_quotedList (names : List String) :
    Text.trimmed (quotedList names) = quotedList names :=
  Text.trimmed_of_ends (by decide) (by decide) _

/-- The items of a written list, cut at the commas: all but the first keep the space in front. -/
theorem pieces_join_comma (p : List Char) (ps : List (List Char)) (h : ∀ q ∈ p :: ps, ',' ∉ q) :
    pieces ',' (join [',', ' '] (p :: ps)) = p :: ps.map (' ' :: ·) := by
  induction ps generalizing p with
  | nil =>
    rw [Text.join_singleton, Text.pieces_of_not_mem (h p List.mem_cons_self)]
    rfl
  | cons q ps ih =>
    rw [List.forall_mem_cons] at h
    have hrest := ih q h.2
    have hspace : ',' ≠ ' ' := by decide
    obtain ⟨r, rs, hr, hcr⟩ := Text.pieces_cons_of_ne hspace.symm (join [',', ' '] (q :: ps))
    rw [hrest] at hr
    obtain ⟨rfl, rfl⟩ := List.cons.inj hr
    rw [Text.join_cons_cons, List.append_assoc, List.cons_append, List.singleton_append,
      Text.pieces_append_cons, Text.pieces_of_not_mem h.1, hcr, List.singleton_append]
    rfl

/-- The names of a written list, without the empty ones. -/
theorem listNames?_quotedList {names : List String} (hne : names ≠ [])
    (h : ∀ name ∈ names, ',' ∉ name.toList) :
    listNames? (quotedList names) = some (names.filter (· ≠ "")) := by
  have hinner : inBrackets? (quotedList names)
      = some (join [',', ' '] (names.map fun name => quoted name.toList)) := by
    rw [quotedList, List.cons_append, inBrackets?, if_pos (by simp), List.dropLast_concat]
  have hitems : (pieces ',' (join [',', ' '] (names.map fun name => quoted name.toList))).map
      (fun item => withoutQuotes (Text.trimmed item)) = names.map String.toList := by
    obtain ⟨name, rest, rfl⟩ := List.exists_cons_of_ne_nil hne
    have hcomma : ∀ q ∈ (name :: rest).map fun name => quoted name.toList, ',' ∉ q := by
      intro q hq
      obtain ⟨n, hn, rfl⟩ := List.mem_map.mp hq
      simp [quoted, h n hn]
    have hblank : Text.isBlank ' ' = true := by decide
    rw [List.map_cons] at hcomma ⊢
    rw [pieces_join_comma _ _ hcomma]
    simp [trimmed_quoted, withoutQuotes_quoted, Text.trimmed_cons_of_isBlank hblank]
  rw [listNames?, hinner]
  show some ((((pieces ',' (join [',', ' '] (names.map fun name => quoted name.toList))).map
    fun item => withoutQuotes (Text.trimmed item)).filter (· ≠ [])).map String.ofList) = _
  rw [hitems, List.filter_map, List.map_map]
  simp [Function.comp_def]

/-- A written line sets the field of its key to its value. -/
theorem ofLine?_fieldLine {key : String} (hkey : ':' ∉ key.toList)
    (htrim : Text.trimmed key.toList = key.toList) (value : List Char) :
    Setting.ofLine? (fieldLine key value) = Setting.ofField? key (Text.trimmed value) := by
  have hshape : fieldLine key value = key.toList ++ ':' :: (' ' :: value) := by
    simp [fieldLine]
  have hblank : Text.isBlank ' ' = true := by decide
  simp only [Setting.ofLine?, hshape, Text.splitFirst?_append_cons hkey, Option.bind_eq_bind,
    Option.bind_some, htrim, String.ofList_toList, Text.trimmed_cons_of_isBlank hblank]

/-! ## The three kinds of fields -/

/-- The settings of a text field: none for the empty text. -/
theorem filterMap_textLine {key text : String} {write : List Char → List Char} {s : Setting}
    (h : Setting.ofLine? (fieldLine key (write text.toList)) = some s) :
    (textLine key write text).filterMap Setting.ofLine? = if text = "" then [] else [s] := by
  rw [textLine]
  split
  · rfl
  · rw [List.filterMap_cons_some h, List.filterMap_nil]

/-- A text between quotes comes back as it is. -/
theorem filterMap_quoted (key : String) (set : String → Setting) (hkey : ':' ∉ key.toList)
    (htrim : Text.trimmed key.toList = key.toList)
    (hset : ∀ cs, Setting.ofField? key cs = some (set (String.ofList (withoutQuotes cs))))
    (text : String) :
    (textLine key quoted text).filterMap Setting.ofLine?
      = if text = "" then [] else [set text] := by
  apply filterMap_textLine
  rw [ofLine?_fieldLine hkey htrim, trimmed_quoted, hset, withoutQuotes_quoted,
    String.ofList_toList]

/-- A bare text comes back settled. -/
theorem filterMap_bare (key : String) (set : String → Setting) (hkey : ':' ∉ key.toList)
    (htrim : Text.trimmed key.toList = key.toList)
    (hset : ∀ cs, Setting.ofField? key cs = some (set (String.ofList (withoutQuotes cs))))
    (text : String) :
    (textLine key id text).filterMap Setting.ofLine?
      = if text = "" then [] else [set (settled text)] := by
  apply filterMap_textLine
  rw [ofLine?_fieldLine hkey htrim, hset]
  rfl

/-- A list comes back without its empty names. -/
theorem filterMap_listLine (key : String) (set : List String → Setting)
    (hkey : ':' ∉ key.toList) (htrim : Text.trimmed key.toList = key.toList)
    (hset : ∀ cs, Setting.ofField? key cs = (listNames? cs).map set) {names : List String}
    (hcomma : ∀ name ∈ names, ',' ∉ name.toList) :
    (listLine key names).filterMap Setting.ofLine?
      = if names = [] then [] else [set (names.filter (· ≠ ""))] := by
  rw [listLine]
  split
  · rfl
  · rename_i hne
    have hline : Setting.ofLine? (fieldLine key (quotedList names))
        = some (set (names.filter (· ≠ ""))) := by
      rw [ofLine?_fieldLine hkey htrim, trimmed_quotedList, hset, listNames?_quotedList hne hcomma,
        Option.map_some]
    rw [List.filterMap_cons_some hline, List.filterMap_nil]

/-! ## The fields of a written header -/

theorem foldl_set_unless (c : Prop) [Decidable c] (f : Fields) (s : Setting) :
    (if c then [] else [s]).foldl Fields.set f = if c then f else f.set s := by
  split <;> rfl

/-- An absent text and the empty text are both left out. -/
theorem unless_empty {β : Type} (g : String → β) (text : Option String) :
    (if text.getD "" = "" then none else some (g (text.getD "")))
      = (text.filter (· ≠ "")).map g := by
  cases text with
  | none => rfl
  | some s =>
    rw [Option.getD_some, Option.filter_some]
    by_cases hs : s = ""
    · rw [if_pos hs, if_neg (by simp [hs])]
      rfl
    · rw [if_neg hs, if_pos (by simp [hs])]
      rfl

/-- An absent list and a list without names are both the empty list. -/
theorem getD_unless_nil {β : Type} (g : String → β) (names : List String) :
    (if names = [] then none else some ((names.filter (· ≠ "")).map g)).getD []
      = (names.filter (· ≠ "")).map g := by
  split
  · rename_i hn
    rw [hn]
    rfl
  · rfl

/-- **The metadata of a written header**, where its values fit on lines. -/
theorem toMetadata_ofLines_headerLines {m : Metadata} (h : FitsLines m) :
    (Fields.ofLines (headerLines m)).toMetadata = reread m := by
  have htitle := filterMap_quoted "title" .title (by decide) (by decide) (fun _ => rfl) m.title
  have hsummary := filterMap_quoted "summary" .summary (by decide) (by decide) (fun _ => rfl)
    (m.summary.getD "")
  have hcategories := filterMap_listLine "categories" .categories (by decide) (by decide)
    (fun _ => rfl) fun name hn => (h.categories name hn).2
  have htags := filterMap_listLine "tags" .tags (by decide) (by decide)
    (fun _ => rfl) fun name hn => (h.tags name hn).2
  have hdate := filterMap_bare "date" .date (by decide) (by decide) (fun _ => rfl)
    (m.date.getD "")
  have hupdated := filterMap_bare "updated" .updated (by decide) (by decide) (fun _ => rfl)
    (m.updated.getD "")
  -- No two lines set the same field, so each field is read off its own line.
  rw [Fields.ofLines, headerLines]
  simp only [List.filterMap_append, List.foldl_append, htitle, hsummary, hcategories, htags, hdate,
    hupdated, foldl_set_unless, Fields.toMetadata, apply_ite Fields.title, apply_ite Fields.summary,
    apply_ite Fields.categories, apply_ite Fields.tags, apply_ite Fields.date,
    apply_ite Fields.updated, Fields.set, ite_self, getD_unless_nil]
  rw [unless_empty settled, unless_empty settled]
  simp only [reread, normalized, Metadata.mk.injEq, and_true]
  refine ⟨?_, (unless_empty id m.summary).trans Option.map_id_apply, ?_, ?_⟩
  · split
    · rename_i ht
      exact ht.symm
    · rfl
  · rw [Metadata.categoryNames, List.filter_map, List.map_map]
    exact List.map_id _
  · rw [Metadata.tagNames, List.filter_map, List.filter_map, List.map_map]
    rfl

/-! ## The whole document -/

/-- **Reading back.**  Values that fit on lines come back, the dates settled, and so does the
    body. -/
theorem decodeDocument_encode {m : Metadata} (h : FitsLines m) (body : String) :
    decodeDocument (encode m body) = ⟨reread m, body⟩ := by
  have hopen := (dashes_not_mem_writtenLines_iff m).mpr (keepsHeaderOpen_of_fitsLines h)
  rw [decodeDocument, decode, toList_encode, decodeChars_encodeChars hopen, Decoded.toDocument,
    writtenLines_of_fitsLines h, toMetadata_ofLines_headerLines h, String.ofList_toList]

example : (decodeDocument (encode { title := "say \"hi\"" } "")).metadata.title = "say \"hi\"" := by
  decide

-- Without `FitsLines`: a comma in a name makes two names of it.
example : (decodeDocument (encode { categories := [⟨"x, y"⟩] } "")).metadata.categoryNames
    = ["x", "y"] := by cbv

/-- What is left out of a header fits on any line. -/
theorem fitsLines_of_normalized {m : Metadata} (h : FitsLines (normalized m)) : FitsLines m := by
  have htext : ∀ {text : Option String}, (∀ s ∈ text.filter (· ≠ ""), '\n' ∉ s.toList) →
      ∀ s ∈ text, '\n' ∉ s.toList := by
    intro text hfilter s hs
    by_cases he : s = ""
    · rw [he]
      decide
    · exact hfilter s (by simp_all)
  have hname : ∀ {name : String}, (name ≠ "" → FitsList name) → FitsList name := by
    intro name hfits
    by_cases he : name = ""
    · rw [he]
      exact ⟨by decide, by decide⟩
    · exact hfits he
  constructor
  · exact h.title
  · exact htext h.summary
  · intro name hmem
    obtain ⟨c, hc, rfl⟩ := List.mem_map.mp hmem
    exact hname fun he => h.categories _ (List.mem_map.mpr ⟨c, by simp [normalized, hc, he], rfl⟩)
  · intro name hmem
    obtain ⟨t, ht, rfl⟩ := List.mem_map.mp hmem
    refine hname fun he => h.tags _ (List.mem_map.mpr ⟨⟨t.name, none⟩, ?_, rfl⟩)
    exact List.mem_filter.mpr ⟨List.mem_map.mpr ⟨t, ht, rfl⟩, decide_eq_true he⟩
  · exact htext h.date
  · exact htext h.updated

/-- Settled dates are what makes reading back exact. -/
theorem reread_eq_normalized_iff (m : Metadata) :
    reread m = normalized m ↔
      (∀ s ∈ m.date, s ≠ "" → settled s = s) ∧ ∀ s ∈ m.updated, s ≠ "" → settled s = s := by
  have hfixed : ∀ text : Option String,
      (text.filter (· ≠ "")).map settled = text.filter (· ≠ "")
        ↔ ∀ s ∈ text, s ≠ "" → settled s = s := by
    intro text
    cases text with
    | none => simp
    | some s =>
      by_cases he : s = ""
      · simp [Option.filter_some, he]
      · simp [Option.filter_some, he]
  rw [← hfixed, ← hfixed]
  constructor
  · intro h
    exact ⟨congrArg Metadata.date h, congrArg Metadata.updated h⟩
  · rintro ⟨hdate, hupdated⟩
    rw [reread]
    show { normalized m with
      date := (m.date.filter (· ≠ "")).map settled
      updated := (m.updated.filter (· ≠ "")).map settled } = normalized m
    rw [hdate, hupdated]
    rfl

/-- **The round trip** gives the document back, up to what a header cannot say, exactly when no
    value breaks its line, no name its list, and the dates are settled. -/
theorem decodeDocument_encode_iff (m : Metadata) (body : String) :
    decodeDocument (encode m body) = ⟨normalized m, body⟩ ↔
      FitsLines m ∧
      (∀ s ∈ m.date, s ≠ "" → settled s = s) ∧ ∀ s ∈ m.updated, s ≠ "" → settled s = s := by
  constructor
  · intro heq
    -- What comes back has been read, so it fits on lines, whatever the header looked like.
    have hfits := fitsLines_decodeDocument (encode m body)
    rw [heq] at hfits
    have hm := fitsLines_of_normalized hfits
    rw [decodeDocument_encode hm] at heq
    exact ⟨hm, (reread_eq_normalized_iff m).mp (congrArg Document.metadata heq)⟩
  · rintro ⟨hm, hsettled⟩
    rw [decodeDocument_encode hm, (reread_eq_normalized_iff m).mpr hsettled]

end Redline.FrontMatter
