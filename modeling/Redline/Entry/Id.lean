/-
  Entry ids.

  An id is a number from 1 to 2^64 - 1.  `EntryId.parse` trims its text and reads a decimal numeral
  with at most one `+` in front; `EntryId.text` writes the digits.  A text that is no id is refused
  with that text, untrimmed, and a zero with the text `0`, however it was written.

  `next` stops at the largest id, so it is the least id above the given one for every id but the
  last (`number_next`).
-/
import Redline.Text.Blank
import Redline.Text.Numeral

namespace Redline

/-- The id of an entry: a positive number of at most 64 bits. -/
structure EntryId where
  number : Nat
  pos : 0 < number
  bounded : number ≤ Text.maxCount
deriving DecidableEq

/-- A text, or the text of a number, that is no entry id. -/
structure InvalidId where
  text : String
deriving DecidableEq, Repr

/-- What is said about a text that is no entry id. -/
def InvalidId.message (e : InvalidId) : String :=
  "invalid entry id: " ++ e.text

namespace EntryId

instance : LE EntryId := ⟨fun a b => a.number ≤ b.number⟩

instance : LT EntryId := ⟨fun a b => a.number < b.number⟩

instance (a b : EntryId) : Decidable (a ≤ b) := inferInstanceAs (Decidable (a.number ≤ b.number))

instance (a b : EntryId) : Decidable (a < b) := inferInstanceAs (Decidable (a.number < b.number))

/-- The id with the number `n`, if there is one. -/
def ofNat? (n : Nat) : Option EntryId :=
  if h : 0 < n ∧ n ≤ Text.maxCount then some ⟨n, h.1, h.2⟩ else none

/-- The smallest id. -/
def first : EntryId := ⟨1, by decide, by decide⟩

/-- The largest id. -/
def last : EntryId := ⟨Text.maxCount, by decide, Nat.le_refl _⟩

/-- The id after `id`; the largest id is its own successor. -/
def next (id : EntryId) : EntryId :=
  if h : id.number < Text.maxCount then ⟨id.number + 1, Nat.succ_pos _, h⟩ else id

/-- The id that a 64-bit number stands for; only zero stands for none. -/
def ofNumber (n : Nat) : Except InvalidId EntryId :=
  match ofNat? n with
  | some id => .ok id
  | none => .error ⟨Text.decimalText n⟩

/-- The id that `s` writes, once trimmed. -/
def parse (s : String) : Except InvalidId EntryId :=
  match Text.count? (Text.trimmed s.toList) with
  | some n => ofNumber n
  | none => .error ⟨s⟩

/-- The decimal digits of `id`. -/
def text (id : EntryId) : String :=
  Text.decimalText id.number

/-! ## Small facts -/

theorem ext_number {a b : EntryId} (h : a.number = b.number) : a = b := by
  cases a; cases b; cases h; rfl

@[simp] theorem ofNat?_number (id : EntryId) : ofNat? id.number = some id := by
  simp [ofNat?, id.pos, id.bounded]

theorem number_next (id : EntryId) : id.next.number = min (id.number + 1) Text.maxCount := by
  have := id.bounded
  simp only [next]
  split
  · simp only; omega
  · omega

end EntryId

end Redline
