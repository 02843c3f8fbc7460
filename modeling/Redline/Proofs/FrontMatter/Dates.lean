/-
  Dates in a written form — what is read of them, whatever stands in front of them.

  The lines of the dates come last in a header, and they are written bare.  So two things decide what
  is read of a date: what is left of it when it has settled, and what the lines in front of it do,
  which hold the title, the summary and the names.  These may set a date themselves, if a value has
  a line feed, and they may end the header before the dates come.

  1. **What is read of a header** — the written lines up to the first `---` among them, if there is
     one (`fields_decodeChars_encodeChars`).
  2. **Two parts** — the written lines are those of the metadata without its dates, and then one
     line for each date that is not empty (`writtenLines_eq`).
  3. **One date** — so a date is read as `dateRead` says (`date_decodeDocument_encode`).
  4. **Lines that leave dates alone** — behind such lines a date that is written is read settled, and
     one that is not written is not there (`dateRead_of_leavesDates`).
-/
import Redline.Proofs.FrontMatter.Reread
import Mathlib.Data.List.TakeWhile

namespace Redline.FrontMatter

open Redline.Text (pieces join)

/-! ## What is read of a header -/

/-- The lines in front of the first `---`, or all of them. -/
def untilDelimiter (ls : List (List Char)) : List (List Char) :=
  ls.takeWhile (· ≠ dashes)

theorem untilDelimiter_of_not_mem {ls : List (List Char)} (h : dashes ∉ ls) :
    untilDelimiter ls = ls := by
  rw [untilDelimiter, List.takeWhile_eq_self_iff]
  intro l hl
  exact decide_eq_true fun heq => h (heq ▸ hl)

/-- Lines with a `---` among them go as far whatever follows. -/
theorem untilDelimiter_append_of_mem {ls : List (List Char)} (h : dashes ∈ ls)
    (behind : List (List Char)) : untilDelimiter (ls ++ behind) = untilDelimiter ls := by
  induction ls with
  | nil => exact absurd h List.not_mem_nil
  | cons l ls ih =>
    rw [List.cons_append, untilDelimiter, untilDelimiter]
    by_cases hl : l = dashes
    · rw [List.takeWhile_cons_of_neg (by simp [hl]), List.takeWhile_cons_of_neg (by simp [hl])]
    · have hmem : dashes ∈ ls := (List.mem_cons.mp h).resolve_left (Ne.symm hl)
      rw [List.takeWhile_cons_of_pos (by simp [hl]), List.takeWhile_cons_of_pos (by simp [hl])]
      exact congrArg _ (ih hmem)

/-- The cut is at the first `---`, be it among these lines or behind them. -/
theorem cutAtDelimiter_append_dashes (hs ls : List (List Char)) :
    ∃ behind, cutAtDelimiter (hs ++ dashes :: ls) = some (untilDelimiter hs, behind) := by
  induction hs with
  | nil => exact ⟨ls, cutAtDelimiter_cons_dashes ls⟩
  | cons l hs ih =>
    obtain ⟨behind, hcut⟩ := ih
    rw [List.cons_append, cutAtDelimiter, untilDelimiter]
    by_cases hl : l = dashes
    · rw [if_pos hl, List.takeWhile_cons_of_neg (by simp [hl])]
      exact ⟨_, rfl⟩
    · rw [if_neg hl, hcut, List.takeWhile_cons_of_pos (by simp [hl])]
      exact ⟨behind, rfl⟩

/-- **The fields that are read** of a written form. -/
theorem fields_decodeChars_encodeChars (m : Metadata) (body : List Char) :
    (decodeChars (encodeChars m body)).fields
      = Fields.ofLines (untilDelimiter (writtenLines m)) := by
  obtain ⟨behind, hcut⟩ := cutAtDelimiter_append_dashes (writtenLines m) ([] :: pieces '\n' body)
  have hlines : ∀ l ∈ untilDelimiter (writtenLines m), '\n' ∉ l := fun l hl =>
    newline_not_mem_writtenLines m l ((List.takeWhile_prefix _).subset hl)
  simp only [decodeChars, splitHeader_eq (pieces_encodeChars m body), if_pos, hcut, Option.map_some,
    ofLines_pieces_join hlines]

/-! ## Two parts -/

/-- The metadata without its dates. -/
def undated (m : Metadata) : Metadata :=
  { m with date := none, updated := none }

/-- The lines of the dates, where they have no line feed. -/
def dateLines (m : Metadata) : List (List Char) :=
  textLine "date" id (m.date.getD "") ++ textLine "updated" id (m.updated.getD "")

theorem headerLines_eq (m : Metadata) :
    headerLines m = headerLines (undated m) ++ dateLines m := by
  have hdate : textLine "date" id ((undated m).date.getD "") = [] := if_pos rfl
  have hupdated : textLine "updated" id ((undated m).updated.getD "") = [] := if_pos rfl
  rw [headerLines, headerLines, hdate, hupdated, List.append_nil, List.append_nil, dateLines,
    ← List.append_assoc]
  rfl

theorem newline_not_mem_dateLines {m : Metadata} (hdate : ∀ s ∈ m.date, '\n' ∉ s.toList)
    (hupdated : ∀ s ∈ m.updated, '\n' ∉ s.toList) : ∀ l ∈ dateLines m, '\n' ∉ l := by
  intro l hl
  rcases List.mem_append.mp hl with hl | hl
  · exact newline_not_mem_textLine (by decide) (newline_not_mem_getD hdate) l hl
  · exact newline_not_mem_textLine (by decide) (newline_not_mem_getD hupdated) l hl

/-- **The written lines**: first what is no date, then the dates. -/
theorem writtenLines_eq {m : Metadata} (hdate : ∀ s ∈ m.date, '\n' ∉ s.toList)
    (hupdated : ∀ s ∈ m.updated, '\n' ∉ s.toList) :
    writtenLines m = writtenLines (undated m) ++ dateLines m := by
  rw [writtenLines, headerLines_eq, List.flatMap_append,
    Text.flatMap_pieces_of_not_mem (newline_not_mem_dateLines hdate hupdated)]
  rfl

/-- The line of a date closes no header. -/
theorem dashes_not_mem_dateLines (m : Metadata) : dashes ∉ dateLines m := by
  have hkey : ∀ {key text : String}, key.toList.head? ≠ some '-' → key.toList ≠ [] →
      dashes ∉ textLine key id text := by
    intro key text hhead hne hmem
    rw [textLine] at hmem
    split at hmem
    · exact absurd hmem List.not_mem_nil
    · have hline := congrArg List.head? (List.mem_singleton.mp hmem)
      rw [fieldLine, List.append_assoc, List.head?_append_of_ne_nil _ hne] at hline
      exact hhead hline.symm
  intro hmem
  rcases List.mem_append.mp hmem with hmem | hmem
  · exact hkey (by decide) (by decide) hmem
  · exact hkey (by decide) (by decide) hmem

/-! ## One date -/

/-- What is read of a date behind the lines `front`, where `get` is the field of that date and
    `date?` is what is written in it.  A line `---` in front of it hides the date; else it is read
    settled, and what is set in front of it counts where it is not written. -/
def dateRead (get : Fields → Option String) (front : List (List Char)) (date? : Option String) :
    Option String :=
  let set? := get (Fields.ofLines (untilDelimiter front))
  if dashes ∈ front then set? else ((date?.filter (· ≠ "")).map settled).or set?

/-- What the lines of the dates set, behind other lines. -/
theorem ofLines_append_dateLines (front : List (List Char)) (m : Metadata) :
    (Fields.ofLines (front ++ dateLines m)).date
        = ((m.date.filter (· ≠ "")).map settled).or (Fields.ofLines front).date
      ∧ (Fields.ofLines (front ++ dateLines m)).updated
        = ((m.updated.filter (· ≠ "")).map settled).or (Fields.ofLines front).updated := by
  have hor : ∀ (text set? : Option String),
      (if text.getD "" = "" then set? else some (settled (text.getD "")))
        = ((text.filter (· ≠ "")).map settled).or set? := by
    intro text set?
    rw [← unless_empty settled]
    split <;> rfl
  have hdate := filterMap_bare "date" .date (by decide) (by decide) (fun _ => rfl)
    (m.date.getD "")
  have hupdated := filterMap_bare "updated" .updated (by decide) (by decide) (fun _ => rfl)
    (m.updated.getD "")
  rw [Fields.ofLines, dateLines]
  simp only [List.filterMap_append, List.foldl_append, hdate, hupdated, foldl_set_unless,
    apply_ite Fields.date, apply_ite Fields.updated, Fields.set, ite_self, hor]
  exact ⟨rfl, rfl⟩

/-- **What is read of the dates**, where they have no line feed. -/
theorem date_decodeDocument_encode {m : Metadata} (hdate : ∀ s ∈ m.date, '\n' ∉ s.toList)
    (hupdated : ∀ s ∈ m.updated, '\n' ∉ s.toList) (body : String) :
    (decodeDocument (encode m body)).metadata.date
        = dateRead Fields.date (writtenLines (undated m)) m.date
      ∧ (decodeDocument (encode m body)).metadata.updated
        = dateRead Fields.updated (writtenLines (undated m)) m.updated := by
  have hfields : (decode (encode m body)).fields
      = Fields.ofLines (untilDelimiter (writtenLines (undated m) ++ dateLines m)) := by
    rw [decode, toList_encode, fields_decodeChars_encodeChars, writtenLines_eq hdate hupdated]
  simp only [decodeDocument, Decoded.toDocument, Fields.toMetadata, hfields, dateRead]
  by_cases hclosed : dashes ∈ writtenLines (undated m)
  · rw [if_pos hclosed, if_pos hclosed, untilDelimiter_append_of_mem hclosed]
    exact ⟨rfl, rfl⟩
  · have hopen : dashes ∉ writtenLines (undated m) ++ dateLines m := by
      intro hmem
      rcases List.mem_append.mp hmem with hmem | hmem
      · exact hclosed hmem
      · exact dashes_not_mem_dateLines m hmem
    rw [if_neg hclosed, if_neg hclosed, untilDelimiter_of_not_mem hopen,
      untilDelimiter_of_not_mem hclosed]
    exact ofLines_append_dateLines _ m

/-! ## Lines that leave dates alone -/

/-- Whether a setting is one of a date. -/
def Setting.isDated : Setting → Bool
  | .date _ | .updated _ => true
  | _ => false

/-- No line closes the header, and none sets a date. -/
structure LeavesDates (ls : List (List Char)) : Prop where
  stays_open : dashes ∉ ls
  undated : ∀ l ∈ ls, ∀ s ∈ Setting.ofLine? l, s.isDated = false

/-- **Lines that set no date** leave the fields without one. -/
theorem LeavesDates.ofLines {ls : List (List Char)} (h : LeavesDates ls) :
    (Fields.ofLines ls).date = none ∧ (Fields.ofLines ls).updated = none := by
  refine ofLines_induction (P := fun f => f.date = none ∧ f.updated = none) ⟨rfl, rfl⟩ ?_
  rintro f s hf ⟨l, hl, hline⟩
  have hs := h.undated l hl s hline
  cases s with
  | title text => exact hf
  | summary text => exact hf
  | categories names => exact hf
  | tags names => exact hf
  | date text => cases hs
  | updated text => cases hs

theorem dateRead_of_leavesDates {front : List (List Char)} (h : LeavesDates front)
    (date? : Option String) :
    dateRead Fields.date front date? = (date?.filter (· ≠ "")).map settled
      ∧ dateRead Fields.updated front date? = (date?.filter (· ≠ "")).map settled := by
  rw [dateRead, dateRead, if_neg h.stays_open, if_neg h.stays_open,
    untilDelimiter_of_not_mem h.stays_open, h.ofLines.1, h.ofLines.2, Option.or_none]
  exact ⟨rfl, rfl⟩

/-- A date stays as it is exactly when it is settled; the empty date counts as none. -/
theorem filter_map_settled_eq_iff {date? : Option String} :
    ((date?.filter (· ≠ "")).map settled).filter (· ≠ "") = date?.filter (· ≠ "")
      ↔ ∀ s ∈ date?, s ≠ "" → settled s = s := by
  cases date? with
  | none => simp
  | some s =>
    by_cases hs : s = ""
    · simp [Option.filter_some, hs]
    · rw [Option.filter_some, if_pos (by simp [hs]), Option.map_some, Option.filter_some]
      constructor
      · intro h s' hs' hne
        cases hs'
        split at h
        · exact Option.some.inj h
        · cases h
      · intro h
        rw [h s rfl hs, if_pos (by simp [hs])]

/-- No other field is one of a date. -/
theorem isDated_of_ofField? {key : String} {value : List Char} {s : Setting}
    (hdate : key ≠ "date") (hupdated : key ≠ "updated")
    (h : Setting.ofField? key value = some s) : s.isDated = false := by
  unfold Setting.ofField? at h
  split at h
  · cases h; rfl
  · cases h; rfl
  · obtain ⟨names, -, rfl⟩ := Option.map_eq_some_iff.mp h
    rfl
  · obtain ⟨names, -, rfl⟩ := Option.map_eq_some_iff.mp h
    rfl
  · exact absurd rfl hdate
  · exact absurd rfl hupdated
  · cases h

/-- The keys of the fields that are no dates. -/
def undatedKeys : List String :=
  ["title", "summary", "categories", "tags"]

theorem exists_key_of_mem_headerLines {m : Metadata} {l : List Char}
    (h : l ∈ headerLines (undated m)) : ∃ key ∈ undatedKeys, ∃ value, l = fieldLine key value := by
  have htext : ∀ {key : String} {write : List Char → List Char} {text : String},
      l ∈ textLine key write text → ∃ value, l = fieldLine key value := by
    intro key write text hmem
    rw [textLine] at hmem
    split at hmem
    · exact absurd hmem List.not_mem_nil
    · exact ⟨_, List.mem_singleton.mp hmem⟩
  have hlist : ∀ {key : String} {names : List String},
      l ∈ listLine key names → ∃ value, l = fieldLine key value := by
    intro key names hmem
    rw [listLine] at hmem
    split at hmem
    · exact absurd hmem List.not_mem_nil
    · exact ⟨_, List.mem_singleton.mp hmem⟩
  simp only [headerLines, List.mem_append] at h
  rcases h with ((((h | h) | h) | h) | h) | h
  · exact ⟨"title", by decide, htext h⟩
  · exact ⟨"summary", by decide, htext h⟩
  · exact ⟨"categories", by decide, hlist h⟩
  · exact ⟨"tags", by decide, hlist h⟩
  · exact absurd h List.not_mem_nil
  · exact absurd h List.not_mem_nil

/-- **Values that fit on their lines** leave the dates alone. -/
theorem leavesDates_of_fitsLines {m : Metadata} (h : FitsLines (undated m)) :
    LeavesDates (writtenLines (undated m)) where
  stays_open := (dashes_not_mem_writtenLines_iff _).mpr (keepsHeaderOpen_of_fitsLines h)
  undated := by
    intro l hl s hs
    rw [writtenLines_of_fitsLines h] at hl
    obtain ⟨key, hkey, value, rfl⟩ := exists_key_of_mem_headerLines hl
    have hplain : ∀ key ∈ undatedKeys, ':' ∉ key.toList ∧ Text.trimmed key.toList = key.toList
        ∧ key ≠ "date" ∧ key ≠ "updated" := by decide
    obtain ⟨hcolon, htrim, hdate, hupdated⟩ := hplain key hkey
    rw [ofLine?_fieldLine hcolon htrim] at hs
    exact isDated_of_ofField? hdate hupdated hs

end Redline.FrontMatter
