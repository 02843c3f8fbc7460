/-
  Decimal numerals of 64-bit counts, and padding.

  `decimal` writes a number in ASCII digits without leading zeros.  `natural?` reads one or more
  ASCII digits with any number of leading zeros; `count?` reads what `natural?` reads behind at
  most one `+`, and refuses what does not fit into 64 bits.  Nothing is trimmed here.  Padding
  counts characters.
-/

namespace Redline.Text

/-- The largest 64-bit number. -/
def maxCount : Nat := 0xFFFFFFFFFFFFFFFF

/-- The number written by the digits `ds`, read behind a number `n` that is already there. -/
def digitsFrom (n : Nat) (ds : List Char) : Nat :=
  ds.foldl (fun n d => 10 * n + (d.toNat - '0'.toNat)) n

/-- The number that `cs` writes in ASCII digits, if it is one or more of them. -/
def natural? (cs : List Char) : Option Nat :=
  if cs ≠ [] ∧ cs.all Char.isDigit then some (digitsFrom 0 cs) else none

/-- `cs` without one leading `+`. -/
def withoutPlus : List Char → List Char
  | '+' :: cs => cs
  | cs => cs

/-- The 64-bit number that `cs` writes in digits behind at most one `+`. -/
def count? (cs : List Char) : Option Nat :=
  (natural? (withoutPlus cs)).filter (· ≤ maxCount)

/-- The decimal digits of `n`, without leading zeros. -/
def decimal (n : Nat) : List Char :=
  Nat.toDigits 10 n

/-- `n` in decimal digits. -/
def decimalText (n : Nat) : String :=
  String.ofList (decimal n)

/-- `cs` behind as many spaces as it lacks of `width` characters. -/
def padLeft (width : Nat) (cs : List Char) : List Char :=
  List.replicate (width - cs.length) ' ' ++ cs

/-- `cs` followed by as many spaces as it lacks of `width` characters. -/
def padRight (width : Nat) (cs : List Char) : List Char :=
  cs ++ List.replicate (width - cs.length) ' '

/-- `s`, right-aligned in `width` characters. -/
def alignRight (width : Nat) (s : String) : String :=
  String.ofList (padLeft width s.toList)

/-- `s`, left-aligned in `width` characters. -/
def alignLeft (width : Nat) (s : String) : String :=
  String.ofList (padRight width s.toList)

end Redline.Text
