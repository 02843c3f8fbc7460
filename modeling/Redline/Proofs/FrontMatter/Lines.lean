/-
  What one line of a header can hold.

  A header is read line by line and a list at its commas, so no value that is READ holds a line
  feed, and no name a comma.  `FitsLines m` says so of metadata.

  1. `Setting.FitsLine` — one line: what it sets has no line feed, because the line has none
     (`fitsLine_of_ofLine?`).
  2. `fitsLines_set`, `fitsLines_ofLines` — one setting keeps the fields fit, so a whole header
     does, by induction on its lines.
  3. `fitsLines_decodeDocument` — hence every document that comes out of a text is fit, whatever the
     text is; and a document that is not cannot come back from its written form.

  In the other direction, `keepsHeaderOpen_of_fitsLines` and `writtenLines_of_fitsLines`: values
  that fit on lines leave the header as it was written.
-/
import Redline.Proofs.FrontMatter.Written
import Redline.Proofs.Text.Blank

namespace Redline.FrontMatter

open Redline.Text (pieces join)

/-! ## Values that fit -/

/-- A name that fits into a list on one line. -/
def FitsList (name : String) : Prop :=
  '\n' ∉ name.toList ∧ ',' ∉ name.toList

instance (name : String) : Decidable (FitsList name) := inferInstanceAs (Decidable (_ ∧ _))

/-- No value of `m` breaks its line, and no name its list. -/
structure FitsLines (m : Metadata) : Prop where
  title : '\n' ∉ m.title.toList
  summary : ∀ s ∈ m.summary, '\n' ∉ s.toList
  categories : ∀ name ∈ m.categoryNames, FitsList name
  tags : ∀ name ∈ m.tagNames, FitsList name
  date : ∀ s ∈ m.date, '\n' ∉ s.toList
  updated : ∀ s ∈ m.updated, '\n' ∉ s.toList

/-- What a setting brings in fits on a line. -/
def Setting.FitsLine : Setting → Prop
  | .title text | .summary text | .date text | .updated text => '\n' ∉ text.toList
  | .categories names | .tags names => ∀ name ∈ names, FitsList name

/-! ## One line -/

/-- Quotes around a value are taken away; nothing is put in their place. -/
theorem withoutFirstQuote_sublist (cs : List Char) : (withoutFirstQuote cs).Sublist cs := by
  cases cs with
  | nil => exact List.Sublist.refl _
  | cons c cs =>
    rw [withoutFirstQuote]
    split
    · exact List.sublist_cons_self c cs
    · exact List.Sublist.refl _

theorem withoutQuotes_sublist (cs : List Char) : (withoutQuotes cs).Sublist cs := by
  have h := (withoutFirstQuote_sublist (withoutFirstQuote cs).reverse).reverse
  rw [List.reverse_reverse] at h
  exact h.trans (withoutFirstQuote_sublist cs)

/-- What stands between the brackets of a list is part of the value. -/
theorem inBrackets?_sublist {cs inner : List Char} (h : inBrackets? cs = some inner) :
    inner.Sublist cs := by
  unfold inBrackets? at h
  split at h
  · rename_i rest
    split at h
    · cases h
      exact (List.dropLast_sublist rest).trans (List.sublist_cons_self _ rest)
    · cases h
  · cases h

/-- The names of a list hold no comma, and nothing that the list does not hold. -/
theorem fitsList_of_listNames? {value : List Char} {names : List String} (hv : '\n' ∉ value)
    (h : listNames? value = some names) : ∀ name ∈ names, FitsList name := by
  obtain ⟨inner, hinner, hnames⟩ := Option.bind_eq_some_iff.mp h
  obtain rfl := Option.some.inj hnames
  intro name hname
  obtain ⟨cs, hcs, rfl⟩ := List.mem_map.mp hname
  obtain ⟨item, hitem, rfl⟩ := List.mem_map.mp (List.mem_filter.mp hcs).1
  -- Each character of the name stands in its item, and the item is a piece of the list.
  have hsub := (withoutQuotes_sublist (Text.trimmed item)).trans (Text.trimmed_sublist item)
  rw [FitsList, String.toList_ofList]
  constructor
  · intro hmem
    have hin := Text.mem_of_mem_pieces (hsub.subset hmem) hitem
    exact hv ((inBrackets?_sublist hinner).subset hin)
  · intro hmem
    exact Text.not_mem_of_mem_pieces hitem (hsub.subset hmem)

/-- One field: its value is a part of the line, so it holds no line feed either. -/
theorem fitsLine_of_ofField? {key : String} {value : List Char} {s : Setting} (hv : '\n' ∉ value)
    (h : Setting.ofField? key value = some s) : s.FitsLine := by
  have htext : '\n' ∉ (String.ofList (withoutQuotes value)).toList := by
    rw [String.toList_ofList]
    exact fun hmem => hv ((withoutQuotes_sublist value).subset hmem)
  unfold Setting.ofField? at h
  split at h
  · cases h; exact htext
  · cases h; exact htext
  · obtain ⟨names, hnames, rfl⟩ := Option.map_eq_some_iff.mp h
    exact fitsList_of_listNames? hv hnames
  · obtain ⟨names, hnames, rfl⟩ := Option.map_eq_some_iff.mp h
    exact fitsList_of_listNames? hv hnames
  · cases h; exact htext
  · cases h; exact htext
  · cases h

/-- A line without a line feed sets nothing with a line feed. -/
theorem fitsLine_of_ofLine? {line : List Char} {s : Setting} (hl : '\n' ∉ line)
    (h : Setting.ofLine? line = some s) : s.FitsLine := by
  obtain ⟨⟨key, value⟩, hsplit, hfield⟩ := Option.bind_eq_some_iff.mp h
  have hsub := (Text.trimmed_sublist value).trans (Text.sublist_of_splitFirst? hsplit)
  exact fitsLine_of_ofField? (fun hmem => hl (hsub.subset hmem)) hfield

/-! ## The lines of a header -/

/-- Fields that set nothing fit. -/
theorem fitsLines_empty : FitsLines ({} : Fields).toMetadata := by
  constructor <;> simp [Fields.toMetadata, Metadata.categoryNames, Metadata.tagNames]

/-- **One setting.**  It replaces one field by what fits on its line. -/
theorem fitsLines_set {f : Fields} {s : Setting} (hf : FitsLines f.toMetadata) (hs : s.FitsLine) :
    FitsLines (f.set s).toMetadata := by
  cases s with
  | title text => exact { hf with title := hs }
  | summary text => exact { hf with summary := fun s h => Option.mem_some.mp h ▸ hs }
  | categories names =>
    refine { hf with categories := fun name hname => hs name ?_ }
    simpa [Fields.set, Fields.toMetadata, Metadata.categoryNames] using hname
  | tags names =>
    refine { hf with tags := fun name hname => hs name ?_ }
    simpa [Fields.set, Fields.toMetadata, Metadata.tagNames] using hname
  | date text => exact { hf with date := fun s h => Option.mem_some.mp h ▸ hs }
  | updated text => exact { hf with updated := fun s h => Option.mem_some.mp h ▸ hs }

/-- **A header, one setting after the other.**  What no setting of a line takes away is true of all
    fields. -/
theorem ofLines_induction {P : Fields → Prop} {ls : List (List Char)} (hempty : P {})
    (hset : ∀ f s, P f → (∃ l ∈ ls, Setting.ofLine? l = some s) → P (f.set s)) :
    P (Fields.ofLines ls) := by
  refine List.foldlRecOn _ _ hempty fun f hf s hs => ?_
  exact hset f s hf (List.mem_filterMap.mp hs)

/-- All the lines of a header together. -/
theorem fitsLines_ofLines {ls : List (List Char)} (h : ∀ l ∈ ls, '\n' ∉ l) :
    FitsLines (Fields.ofLines ls).toMetadata := by
  refine ofLines_induction (P := fun f => FitsLines f.toMetadata) fitsLines_empty ?_
  rintro f s hf ⟨l, hl, hline⟩
  exact fitsLines_set hf (fitsLine_of_ofLine? (h l hl) hline)

/-- **Every document that is read fits on lines.** -/
theorem fitsLines_decodeDocument (text : String) : FitsLines (decodeDocument text).metadata := by
  rw [decodeDocument, decode, decodeChars]
  split
  · exact fitsLines_empty
  · exact fitsLines_ofLines fun l hl => Text.not_mem_of_mem_pieces hl

/-! ## Written lines of values that fit -/

/-- A closing line starts with a line feed, so no value that fits contains one. -/
theorem keepsHeaderOpen_of_fitsLines {m : Metadata} (h : FitsLines m) : KeepsHeaderOpen m := by
  have hin : ∀ cs : List Char, '\n' ∉ cs → ¬ closingLine <:+: cs :=
    fun cs hcs hstretch => hcs (hstretch.subset (by decide))
  have hend : ∀ cs : List Char, '\n' ∉ cs → ¬ '\n' :: dashes <:+ cs :=
    fun cs hcs hsuffix => hcs (hsuffix.subset List.mem_cons_self)
  constructor
  · exact hin _ h.title
  · exact fun s hs => hin _ (h.summary s hs)
  · exact fun name hname => hin _ (h.categories name hname).1
  · exact fun name hname => hin _ (h.tags name hname).1
  · exact fun s hs => not_or.mpr ⟨hin _ (h.date s hs), hend _ (h.date s hs)⟩
  · exact fun s hs => not_or.mpr ⟨hin _ (h.updated s hs), hend _ (h.updated s hs)⟩

/-- The quotes bring in no line feed. -/
theorem newline_not_mem_quoted {cs : List Char} (h : '\n' ∉ cs) : '\n' ∉ quoted cs := by
  simp [quoted, h]

theorem newline_not_mem_quotedList {names : List String}
    (h : ∀ name ∈ names, '\n' ∉ name.toList) : '\n' ∉ quotedList names := by
  have hjoin : '\n' ∉ join [',', ' '] (names.map fun name => quoted name.toList) := by
    intro hmem
    rcases Text.mem_or_mem_of_mem_join hmem with hsep | ⟨p, hp, hc⟩
    · exact absurd hsep (by decide)
    · obtain ⟨name, hname, rfl⟩ := List.mem_map.mp hp
      exact newline_not_mem_quoted (h name hname) hc
  simp [quotedList, hjoin]

theorem newline_not_mem_fieldLine {key : String} {value : List Char} (hkey : '\n' ∉ key.toList)
    (hv : '\n' ∉ value) : '\n' ∉ fieldLine key value := by
  simp [fieldLine, hkey, hv]

theorem newline_not_mem_textLine {key value : String} {write : List Char → List Char}
    (hkey : '\n' ∉ key.toList) (hv : '\n' ∉ write value.toList) :
    ∀ l ∈ textLine key write value, '\n' ∉ l := by
  intro l hl
  rw [textLine] at hl
  split at hl
  · exact absurd hl List.not_mem_nil
  · rw [List.mem_singleton.mp hl]
    exact newline_not_mem_fieldLine hkey hv

theorem newline_not_mem_listLine {key : String} {names : List String}
    (hkey : '\n' ∉ key.toList) (h : ∀ name ∈ names, '\n' ∉ name.toList) :
    ∀ l ∈ listLine key names, '\n' ∉ l := by
  intro l hl
  rw [listLine] at hl
  split at hl
  · exact absurd hl List.not_mem_nil
  · rw [List.mem_singleton.mp hl]
    exact newline_not_mem_fieldLine hkey (newline_not_mem_quotedList h)

theorem newline_not_mem_getD {text : Option String} (h : ∀ s ∈ text, '\n' ∉ s.toList) :
    '\n' ∉ (text.getD "").toList := by
  cases text with
  | none => decide
  | some s => exact h s rfl

/-- Every line of the header is one line. -/
theorem newline_not_mem_headerLines {m : Metadata} (h : FitsLines m) :
    ∀ l ∈ headerLines m, '\n' ∉ l := by
  have hsummary := newline_not_mem_quoted (newline_not_mem_getD h.summary)
  intro l hl
  simp only [headerLines, List.mem_append] at hl
  rcases hl with ((((hl | hl) | hl) | hl) | hl) | hl
  · exact newline_not_mem_textLine (by decide) (newline_not_mem_quoted h.title) l hl
  · exact newline_not_mem_textLine (by decide) hsummary l hl
  · exact newline_not_mem_listLine (by decide) (fun name hn => (h.categories name hn).1) l hl
  · exact newline_not_mem_listLine (by decide) (fun name hn => (h.tags name hn).1) l hl
  · exact newline_not_mem_textLine (by decide) (newline_not_mem_getD h.date) l hl
  · exact newline_not_mem_textLine (by decide) (newline_not_mem_getD h.updated) l hl

/-- Then the lines between the delimiters are the header lines, as they were meant. -/
theorem writtenLines_of_fitsLines {m : Metadata} (h : FitsLines m) :
    writtenLines m = headerLines m :=
  Text.flatMap_pieces_of_not_mem (newline_not_mem_headerLines h)

end Redline.FrontMatter
