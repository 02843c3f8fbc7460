/-
  Decimal numerals — what is written is read back.

  1. **Digits** — a numeral is one or more ASCII digits, and their value is the number
     (`natural?_decimal`).  A number below `10 ^ k` has `k` digits at most.
  2. **Counts** — no sign stands in front of the digits, so a numeral of at most 64 bits reads back
     as a count (`count?_decimal`).
  3. **Columns** — the spaces in front of a numeral are no part of it
     (`dropWhile_padLeft_decimal`).
  4. **The grammar** — `Writes cs n` says which texts are numerals of `n` without saying how they
     are read; trimming, taking the sign away and reading the digits finds exactly these
     (`count?_trimmed_eq_some_iff`).
-/
import Redline.Proofs.Text.Blank
import Redline.Text.Numeral
import Mathlib.Data.Nat.Digits.Defs
import Mathlib.Data.String.Basic
import Mathlib.Tactic.Ring

namespace Redline.Text

theorem isDigit_of_mem_decimal {n : Nat} {c : Char} (h : c ∈ decimal n) : c.isDigit = true :=
  Nat.isDigit_of_mem_toDigits (by decide) (by decide) h

theorem not_mem_decimal {c : Char} (h : c.isDigit = false) (n : Nat) : c ∉ decimal n := by
  intro hc
  rw [isDigit_of_mem_decimal hc] at h
  cases h

theorem decimal_ne_nil (n : Nat) : decimal n ≠ [] :=
  Nat.toDigits_ne_nil

/-- The digits have the value of the number. -/
theorem digitsFrom_decimal (n : Nat) : digitsFrom 0 (decimal n) = n :=
  Nat.ofDigitChars_eq_foldl.symm.trans Nat.ofDigitChars_ten_toDigits

theorem decimal_injective {m n : Nat} (h : decimal m = decimal n) : m = n := by
  rw [← digitsFrom_decimal m, h, digitsFrom_decimal]

/-- Only zero has a zero in front. -/
theorem head?_decimal_ne {n : Nat} (h : 0 < n) : (decimal n).head? ≠ some '0' := by
  induction n using Nat.strongRecOn with
  | ind n ih =>
    rcases Nat.lt_or_ge n 10 with hlt | hge
    · have hdigit : ∀ m < 10, 0 < m → [m.digitChar].head? ≠ some '0' := by decide
      rw [decimal, Nat.toDigits_of_lt_base hlt]
      exact hdigit n hlt h
    · have hfront : (decimal (n / 10)).head? ≠ some '0' := ih (n / 10) (by omega) (by omega)
      have hlast : decimal n = decimal (n / 10) ++ [(n % 10).digitChar] :=
        Nat.toDigits_of_base_le (by decide) hge
      rwa [hlast, List.head?_append_of_ne_nil _ (decimal_ne_nil _)]

theorem natural?_decimal (n : Nat) : natural? (decimal n) = some n := by
  rw [natural?, if_pos, digitsFrom_decimal]
  exact ⟨decimal_ne_nil n, List.all_eq_true.mpr fun c hc => isDigit_of_mem_decimal hc⟩

/-- A text without a sign in front is kept. -/
theorem withoutPlus_of_head_ne {cs : List Char} (h : ∀ c ∈ cs.head?, c ≠ '+') :
    withoutPlus cs = cs := by
  unfold withoutPlus
  split
  · exact absurd rfl (h '+' rfl)
  · rfl

/-- Digits have no sign in front. -/
theorem withoutPlus_of_isDigit {ds : List Char} (h : ∀ d ∈ ds, d.isDigit = true) :
    withoutPlus ds = ds := by
  refine withoutPlus_of_head_ne fun d hd => ?_
  rintro rfl
  exact absurd (h '+' (List.mem_of_mem_head? hd)) (by decide)

/-- What is written in decimal is read back. -/
theorem count?_decimal {n : Nat} (h : n ≤ maxCount) : count? (decimal n) = some n := by
  rw [count?, withoutPlus_of_isDigit fun _ hd => isDigit_of_mem_decimal hd, natural?_decimal,
    Option.filter_some, if_pos (decide_eq_true h)]

/-- A 64-bit number has twenty digits at most. -/
theorem length_decimal_le {n : Nat} (h : n ≤ maxCount) : (decimal n).length ≤ 20 := by
  rw [decimal, Nat.length_toDigits_le_iff (by decide) (by decide)]
  exact Nat.lt_of_le_of_lt h (by decide)

/-- In writing, a digit is one byte. -/
theorem utf8ByteSize_decimalText (n : Nat) :
    (decimalText n).utf8ByteSize = (decimal n).length := by
  have hlen : ∀ cs : List Char, (∀ c ∈ cs, c.isDigit = true) → String.utf8Len cs = cs.length := by
    intro cs hcs
    induction cs with
    | nil => rfl
    | cons c cs ih =>
      rw [List.forall_mem_cons] at hcs
      have hc := hcs.1
      rw [Char.isDigit, Bool.and_eq_true, decide_eq_true_eq, decide_eq_true_eq] at hc
      have hsize : c.utf8Size = 1 :=
        Char.utf8Size_eq_one_iff.mpr (UInt32.le_trans hc.2 (by decide))
      rw [String.utf8Len_cons, ih hcs.2, hsize, List.length_cons]
  rw [decimalText, String.utf8ByteSize_ofList, hlen _ fun c hc => isDigit_of_mem_decimal hc]

/-- No digit is blank. -/
theorem isBlank_of_isDigit {c : Char} (h : c.isDigit = true) : isBlank c = false := by
  rw [Char.isDigit, Bool.and_eq_true, decide_eq_true_eq, decide_eq_true_eq] at h
  have hlow : 48 ≤ c.toNat := h.1
  have hhigh : c.toNat ≤ 57 := h.2
  -- Every interval of blank characters ends in front of the digits or starts behind them.
  have hapart : ∀ r ∈ blankRanges, r.2 < 48 ∨ 57 < r.1 := by decide
  rw [isBlank, List.any_eq_false]
  intro r hr
  have hr := hapart r hr
  rw [Bool.and_eq_true, decide_eq_true_eq, decide_eq_true_eq]
  omega

/-- A numeral has nothing to trim. -/
theorem trimmed_decimal (n : Nat) : trimmed (decimal n) = decimal n :=
  trimmed_of_forall fun _ hc => isBlank_of_isDigit (isDigit_of_mem_decimal hc)

/-! ## Numerals in a column -/

theorem not_mem_padLeft_decimal {c : Char} (hspace : c ≠ ' ') (hdigit : c.isDigit = false)
    (width n : Nat) : c ∉ padLeft width (decimal n) := by
  unfold padLeft
  intro hc
  rcases List.mem_append.mp hc with hc | hc
  · exact hspace (List.eq_of_mem_replicate hc)
  · exact not_mem_decimal hdigit n hc

/-- Without the spaces in front of it, a numeral stands first. -/
theorem dropWhile_padLeft_decimal (width n : Nat) (cs : List Char) :
    (padLeft width (decimal n) ++ cs).dropWhile (· = ' ') = decimal n ++ cs := by
  obtain ⟨d, ds, hds⟩ := List.exists_cons_of_ne_nil (decimal_ne_nil n)
  have hd : d ≠ ' ' := by
    rintro rfl
    exact not_mem_decimal (by decide) n (hds ▸ List.mem_cons_self)
  unfold padLeft
  rw [List.append_assoc, List.dropWhile_append_of_pos, hds, List.cons_append,
    List.dropWhile_cons_of_neg]
  · simpa using hd
  · intro c hc
    simpa using List.eq_of_mem_replicate hc

/-! ## The grammar of numerals -/

/-- The value of ASCII digits: the last one counts once, the one in front of it ten times, and so
    on. -/
def digitsValue (ds : List Char) : Nat :=
  Nat.ofDigits 10 (ds.reverse.map fun d => d.toNat - '0'.toNat)

/-- `cs` writes the number `n`: between blank characters stand one or more ASCII digits of that
    value, behind at most one `+`. -/
def Writes (cs : List Char) (n : Nat) : Prop :=
  ∃ before sign digits after : List Char,
    cs = before ++ (sign ++ digits) ++ after ∧
    (∀ c ∈ before, isBlank c) ∧ (∀ c ∈ after, isBlank c) ∧
    (sign = [] ∨ sign = ['+']) ∧
    digits ≠ [] ∧ (∀ d ∈ digits, d.isDigit) ∧ digitsValue digits = n

theorem digitsFrom_eq (n : Nat) (ds : List Char) :
    digitsFrom n ds = n * 10 ^ ds.length + digitsValue ds := by
  induction ds generalizing n with
  | nil => simp [digitsFrom, digitsValue]
  | cons d ds ih =>
    have hvalue : digitsValue (d :: ds)
        = digitsValue ds + 10 ^ ds.length * (d.toNat - '0'.toNat) := by
      rw [digitsValue, List.reverse_cons, List.map_append, List.map_singleton,
        Nat.ofDigits_append, Nat.ofDigits_singleton, List.length_map, List.length_reverse]
      rfl
    have hstep : digitsFrom n (d :: ds) = digitsFrom (10 * n + (d.toNat - '0'.toNat)) ds := rfl
    rw [hstep, ih, hvalue, List.length_cons, pow_succ]
    ring

theorem natural?_eq_some_iff {cs : List Char} {n : Nat} : natural? cs = some n ↔
    cs ≠ [] ∧ (∀ c ∈ cs, c.isDigit) ∧ digitsValue cs = n := by
  have hvalue : digitsFrom 0 cs = digitsValue cs := by rw [digitsFrom_eq, Nat.zero_mul, Nat.zero_add]
  rw [natural?, hvalue]
  constructor
  · intro h
    split at h
    · rename_i hcs
      exact ⟨hcs.1, List.all_eq_true.mp hcs.2, Option.some.inj h⟩
    · cases h
  · rintro ⟨hne, hdigits, rfl⟩
    rw [if_pos ⟨hne, List.all_eq_true.mpr hdigits⟩]

/-- A text is what stands behind its `+`, and the `+` if there is one. -/
theorem exists_sign (cs : List Char) :
    ∃ sign, (sign = [] ∨ sign = ['+']) ∧ cs = sign ++ withoutPlus cs := by
  unfold withoutPlus
  split
  · exact ⟨['+'], .inr rfl, rfl⟩
  · exact ⟨[], .inl rfl, rfl⟩

/-- **The grammar of numerals** is what is read, once the blank characters around it and the `+` in
    front of it are gone. -/
theorem writes_iff {cs : List Char} {n : Nat} :
    Writes cs n ↔ natural? (withoutPlus (trimmed cs)) = some n := by
  rw [natural?_eq_some_iff]
  constructor
  · rintro ⟨before, sign, digits, after, rfl, hbefore, hafter, hsign, hne, hdigits, hvalue⟩
    have hkept : trimmed (sign ++ digits) = sign ++ digits := by
      refine trimmed_of_forall fun c hc => ?_
      rcases List.mem_append.mp hc with hc | hc
      · rcases hsign with rfl | rfl
        · exact absurd hc List.not_mem_nil
        · rw [List.mem_singleton.mp hc]
          decide
      · exact isBlank_of_isDigit (hdigits c hc)
    have hbare : withoutPlus (sign ++ digits) = digits := by
      rcases hsign with rfl | rfl
      · exact withoutPlus_of_isDigit hdigits
      · rfl
    rw [trimmed_surrounded _ hbefore hafter, hkept, hbare]
    exact ⟨hne, hdigits, hvalue⟩
  · rintro ⟨hne, hdigits, hvalue⟩
    obtain ⟨before, after, hcs, hbefore, hafter⟩ := exists_surrounded cs
    obtain ⟨sign, hsign, hcut⟩ := exists_sign (trimmed cs)
    refine ⟨before, sign, withoutPlus (trimmed cs), after, ?_, hbefore, hafter, hsign, hne,
      hdigits, hvalue⟩
    rw [← hcut]
    exact hcs

theorem count?_trimmed_eq_some_iff {cs : List Char} {n : Nat} :
    count? (trimmed cs) = some n ↔ Writes cs n ∧ n ≤ maxCount := by
  rw [count?, Option.filter_eq_some_iff, ← writes_iff, decide_eq_true_eq]

/-- The digits of a number write it among blank characters. -/
theorem writes_decimal {before after : List Char} (n : Nat) (hbefore : ∀ c ∈ before, isBlank c)
    (hafter : ∀ c ∈ after, isBlank c) : Writes (before ++ decimal n ++ after) n :=
  ⟨before, [], decimal n, after, rfl, hbefore, hafter, .inl rfl,
    natural?_eq_some_iff.mp (natural?_decimal n)⟩

/-- Spaces are blank. -/
theorem isBlank_of_mem_spaces {k : Nat} : ∀ c ∈ List.replicate k ' ', isBlank c := by
  intro c hc
  rw [List.eq_of_mem_replicate hc]
  decide

end Redline.Text
