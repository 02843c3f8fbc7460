/-
  Blank characters and trimming.

  A character is BLANK when it has the Unicode property White_Space: tab to carriage return, the
  space, U+0085, U+00A0 and the spaces and separators of the higher blocks.  The zero width space,
  the byte order mark and the information separators U+001C to U+001F are not blank.

  `trim` removes the blank characters at both ends of a text and nothing else; the list version
  `trimmed` is the one that the readers of this library use and the proofs speak about.
-/

namespace Redline.Text

/-- The code points of White_Space, as closed intervals in ascending order. -/
def blankRanges : List (Nat × Nat) :=
  [(0x09, 0x0D), (0x20, 0x20), (0x85, 0x85), (0xA0, 0xA0), (0x1680, 0x1680), (0x2000, 0x200A),
   (0x2028, 0x2029), (0x202F, 0x202F), (0x205F, 0x205F), (0x3000, 0x3000)]

/-- Whether `c` has the property White_Space. -/
def isBlank (c : Char) : Bool :=
  blankRanges.any fun (low, high) => low ≤ c.toNat && c.toNat ≤ high

/-- `cs` without the blank characters at its end. -/
def trimmedEnd (cs : List Char) : List Char :=
  (cs.reverse.dropWhile isBlank).reverse

/-- `cs` without the blank characters at both ends. -/
def trimmed (cs : List Char) : List Char :=
  trimmedEnd (cs.dropWhile isBlank)

/-- `s` without the blank characters at both ends. -/
def trim (s : String) : String :=
  String.ofList (trimmed s.toList)

/-! ## Small facts -/

@[simp] theorem toList_trim (s : String) : (trim s).toList = trimmed s.toList := by
  simp [trim]

@[simp] theorem trimmed_nil : trimmed [] = [] := rfl

end Redline.Text
