/-
  Strings in JSON — what is written between quotes is read back.

  1. **Escapes** — of the characters of a text each is written in one piece, and read from that piece
     as its code unit, whatever follows (`units?_escapedChar`).
  2. **Code units** — no character is half of a surrogate pair, so the units of characters are these
     characters again (`charsOfUnits?_map`).
  3. **Strings** — so a string that was written is that text (`stringOfRaw?_escaped`).
-/
import Redline.Json.Token
import Mathlib.Data.List.Basic

namespace Redline.Json

/-! ## Escapes -/

/-- The two hexadecimal digits of a control character. -/
theorem hexNumber?_control :
    ∀ n < 0x20, Text.hexNumber? ['0', '0', hexDigit (n / 16), hexDigit n] = some n := by
  decide

/-- A character that is written as itself. -/
theorem units?_cons {c : Char} (hslash : c ≠ '\\') (hcontrol : ¬ c.toNat < 0x20) (read : List Nat)
    (rest : List Char) : units? read (c :: rest) = units? (c.toNat :: read) rest := by
  rw [units?]
  · rw [if_neg hcontrol]
  all_goals simp_all

/-- **A character in writing** is read as its code unit. -/
theorem units?_escapedChar (c : Char) (read : List Nat) (rest : List Char) :
    units? read (escapedChar c ++ rest) = units? (c.toNat :: read) rest := by
  unfold escapedChar
  split
  case h_8 hquote hslash _ _ _ _ _ =>
    split
    · rename_i hcontrol
      show units? read ('\\' :: 'u' :: '0' :: '0' :: hexDigit (c.toNat / 16) :: hexDigit c.toNat :: rest)
        = _
      rw [units?, hexNumber?_control c.toNat hcontrol]
    · rename_i hcontrol
      exact units?_cons hslash hcontrol read rest
  -- The letters behind a backslash stand for one character each.
  all_goals rfl

theorem units?_escaped (cs : List Char) (read : List Nat) :
    units? read (cs.flatMap escapedChar) = some (read.reverse ++ cs.map Char.toNat) := by
  induction cs generalizing read with
  | nil =>
    rw [List.map_nil, List.append_nil]
    rfl
  | cons c cs ih =>
    rw [List.flatMap_cons, units?_escapedChar, ih, List.reverse_cons, List.append_assoc]
    rfl

/-! ## Code units -/

/-- No character is half of a pair. -/
theorem isSurrogate_toNat (c : Char) :
    isHighSurrogate c.toNat = false ∧ isLowSurrogate c.toNat = false := by
  have hvalid : c.toNat < 0xD800 ∨ 0xDFFF < c.toNat ∧ c.toNat < 0x110000 := c.valid
  simp only [isHighSurrogate, isLowSurrogate, Bool.and_eq_false_iff, decide_eq_false_iff_not]
  omega

theorem charsOfUnits?_map (cs read : List Char) :
    charsOfUnits? read (cs.map Char.toNat) = some (read.reverse ++ cs) := by
  induction cs generalizing read with
  | nil =>
    rw [List.append_nil]
    rfl
  | cons c cs ih =>
    obtain ⟨hhigh, hlow⟩ := isSurrogate_toNat c
    have hnext : charsOfUnits? read ((c :: cs).map Char.toNat)
        = charsOfUnits? (c :: read) (cs.map Char.toNat) := by
      cases cs with
      | nil =>
        rw [List.map_singleton, charsOfUnits?, hhigh, hlow, Char.ofNat_toNat]
        rfl
      | cons c' cs =>
        rw [List.map_cons, List.map_cons, charsOfUnits?, hhigh, hlow, Char.ofNat_toNat]
        rfl
    rw [hnext, ih, List.reverse_cons, List.append_assoc]
    rfl

/-! ## Strings -/

/-- **A string that was written** is that text. -/
theorem stringOfRaw?_escaped (s : String) :
    stringOfRaw? (s.toList.flatMap escapedChar) = some (.text s) := by
  simp only [stringOfRaw?, units?_escaped, bind, Option.bind]
  have hchars := charsOfUnits?_map s.toList []
  rw [List.reverse_nil, List.nil_append] at hchars ⊢
  rw [hchars]
  show some (Json.text (String.ofList s.toList)) = _
  rw [String.ofList_toList]

end Redline.Json
