/-
  Entry ids — in writing, and in order.

  1. **In writing** — the digits of an id read back as that id (`parse_text`).  A text is the
     numeral of an id, a numeral of zero, or neither (`cases_text`), and each of the three has one
     answer; so `parse` accepts the numerals from one to the largest id and nothing else, and its
     error says which of the other two cases it was (`parse_accepts_numerals`).
  2. **In order** — every id but the last one is below its successor (`lt_next`).
-/
import Redline.Entry.Id
import Redline.Proofs.Text.Numeral

namespace Redline.EntryId

open Text (Writes)

/-! ## In writing -/

theorem ofNumber_number (id : EntryId) : ofNumber id.number = .ok id := by
  rw [ofNumber, ofNat?_number]

/-- **An id is read back.** -/
theorem parse_text (id : EntryId) : parse id.text = .ok id := by
  rw [parse, text, Text.decimalText, String.toList_ofList, Text.trimmed_decimal,
    Text.count?_decimal id.bounded]
  exact ofNumber_number id

theorem parse_of_writes {s : String} {id : EntryId} (h : Writes s.toList id.number) :
    parse s = .ok id := by
  rw [parse, Text.count?_trimmed_eq_some_iff.mpr ⟨h, id.bounded⟩]
  exact ofNumber_number id

theorem parse_of_writes_zero {s : String} (h : Writes s.toList 0) : parse s = .error ⟨"0"⟩ := by
  rw [parse, Text.count?_trimmed_eq_some_iff.mpr ⟨h, Nat.zero_le _⟩]
  rfl

theorem parse_of_not_writes {s : String} (h : ¬ ∃ n ≤ Text.maxCount, Writes s.toList n) :
    parse s = .error ⟨s⟩ := by
  have hnone : Text.count? (Text.trimmed s.toList) = none := by
    refine Option.eq_none_iff_forall_ne_some.mpr fun n hn => ?_
    obtain ⟨hwrites, hle⟩ := Text.count?_trimmed_eq_some_iff.mp hn
    exact h ⟨n, hle, hwrites⟩
  rw [parse, hnone]

/-- What a text can be: the numeral of an id, a numeral of zero, or neither. -/
theorem cases_text (s : String) : (∃ id : EntryId, Writes s.toList id.number) ∨
    Writes s.toList 0 ∨ ¬ ∃ n ≤ Text.maxCount, Writes s.toList n := by
  by_cases h : ∃ n ≤ Text.maxCount, Writes s.toList n
  · obtain ⟨n, hle, hn⟩ := h
    rcases Nat.eq_zero_or_pos n with rfl | hpos
    · exact .inr (.inl hn)
    · exact .inl ⟨⟨n, hpos, hle⟩, hn⟩
  · exact .inr (.inr h)

theorem parse_eq_ok_iff {s : String} {id : EntryId} :
    parse s = .ok id ↔ Writes s.toList id.number := by
  refine ⟨fun h => ?_, parse_of_writes⟩
  rcases cases_text s with ⟨id', h'⟩ | h' | h'
  · rw [parse_of_writes h'] at h
    rwa [← Except.ok.inj h]
  · rw [parse_of_writes_zero h'] at h
    cases h
  · rw [parse_of_not_writes h'] at h
    cases h

theorem parse_eq_error_iff {s : String} {e : InvalidId} : parse s = .error e ↔
    (Writes s.toList 0 ∧ e = ⟨"0"⟩) ∨
    ((¬ ∃ n ≤ Text.maxCount, Writes s.toList n) ∧ e = ⟨s⟩) := by
  constructor
  · intro h
    rcases cases_text s with ⟨id', h'⟩ | h' | h'
    · rw [parse_of_writes h'] at h
      cases h
    · rw [parse_of_writes_zero h'] at h
      exact .inl ⟨h', (Except.error.inj h).symm⟩
    · rw [parse_of_not_writes h'] at h
      exact .inr ⟨h', (Except.error.inj h).symm⟩
  · rintro (⟨h, rfl⟩ | ⟨h, rfl⟩)
    · exact parse_of_writes_zero h
    · exact parse_of_not_writes h

/-- Spaces around the digits of an id make no difference. -/
theorem parse_spaced (id : EntryId) (before after : Nat) :
    parse (String.ofList (List.replicate before ' ' ++ Text.decimal id.number
      ++ List.replicate after ' ')) = .ok id := by
  rw [parse_eq_ok_iff, String.toList_ofList]
  exact Text.writes_decimal _ Text.isBlank_of_mem_spaces Text.isBlank_of_mem_spaces

/-- **The numerals from one to `2 ^ 64 - 1`, and nothing else, are ids.**  A text is refused with
    the text `0` if it writes zero and with itself if it writes no number of 64 bits; and the
    digits of an id are read back from among any spaces, so in any width on either side. -/
theorem parse_accepts_numerals :
    (∀ (s : String) (n : Nat), (∃ id : EntryId, parse s = .ok id ∧ id.number = n) ↔
      Writes s.toList n ∧ 1 ≤ n ∧ n ≤ 18446744073709551615) ∧
    (∀ (s : String) (e : InvalidId), parse s = .error e ↔
      (Writes s.toList 0 ∧ e.text = "0") ∨
      ((¬ ∃ n ≤ 18446744073709551615, Writes s.toList n) ∧ e.text = s)) ∧
    (∀ (id : EntryId) (width : Nat), parse (Text.alignRight width id.text) = .ok id ∧
      parse (Text.alignLeft width id.text) = .ok id) ∧
    ∀ (id : EntryId) (before after : Nat), parse (String.ofList
      (List.replicate before ' ' ++ id.text.toList ++ List.replicate after ' ')) = .ok id := by
  have hdigits : ∀ id : EntryId, id.text.toList = Text.decimal id.number := fun id => by
    rw [text, Text.decimalText, String.toList_ofList]
  refine ⟨fun s n => ?_, fun s e => ?_, fun id width => ?_, fun id before after => ?_⟩
  · constructor
    · rintro ⟨id, hid, rfl⟩
      exact ⟨parse_eq_ok_iff.mp hid, id.pos, id.bounded⟩
    · rintro ⟨hn, hpos, hle⟩
      exact ⟨⟨n, hpos, hle⟩, parse_of_writes hn, rfl⟩
  · rw [parse_eq_error_iff]
    cases e
    simp only [InvalidId.mk.injEq]
    rfl
  · constructor
    · have hright := parse_spaced id (width - (Text.decimal id.number).length) 0
      rw [List.replicate_zero, List.append_nil] at hright
      rw [Text.alignRight, Text.padLeft, hdigits]
      exact hright
    · rw [Text.alignLeft, Text.padRight, hdigits]
      exact parse_spaced id 0 (width - (Text.decimal id.number).length)
  · rw [hdigits]
    exact parse_spaced id before after

example : parse " +0042\n" = .ok ⟨42, by decide, by decide⟩ ∧ parse "+" = .error ⟨"+"⟩ ∧
    parse " 000 " = .error ⟨"0"⟩ ∧
    parse "18446744073709551616" = .error ⟨"18446744073709551616"⟩ := by decide

/-! ## In order -/

/-- Ids are ordered as their numbers are. -/
theorem eq_of_le_of_le {a b : EntryId} (h : a ≤ b) (h' : b ≤ a) : a = b :=
  ext_number (Nat.le_antisymm h h')

/-- Ids in strictly ascending order come once each. -/
theorem nodup_of_pairwise_lt {ids : List EntryId} (h : ids.Pairwise (· < ·)) : ids.Nodup := by
  refine h.imp fun {a b} hlt heq => ?_
  rw [heq] at hlt
  exact Nat.lt_irrefl b.number hlt

/-- No id is above the last one. -/
theorem le_last (id : EntryId) : id ≤ last :=
  id.bounded

theorem lt_last_of_ne {id : EntryId} (h : id ≠ last) : id < last :=
  Nat.lt_of_le_of_ne id.bounded fun heq => h (ext_number heq)

/-- Every id but the last one is below its successor. -/
theorem lt_next {id : EntryId} (h : id ≠ last) : id < id.next := by
  have hlt : id.number < Text.maxCount := lt_last_of_ne h
  show id.number < id.next.number
  rw [number_next]
  omega

/-- The last id has no successor but itself. -/
theorem next_last : last.next = last := by
  rw [next, dif_neg (show ¬ last.number < Text.maxCount from Nat.lt_irrefl _)]

end Redline.EntryId
