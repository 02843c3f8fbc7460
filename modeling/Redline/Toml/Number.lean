/-
  TOML numbers.

  An integer is decimal, with a sign and no leading zero, or has the base 16, 8 or 2 by one of the
  marks `0x`, `0o` and `0b`; it has to fit into 64 bits with a sign.  A float has a fraction, an
  exponent or both, or is one of the words `inf` and `nan`; it is refused if it is so large that
  the nearest double is infinite.  A single `_` may stand between two digits.
-/
import Redline.Text.Double
import Redline.Text.Hexadecimal
import Redline.Text.Numeral
import Redline.Toml.Scanner

namespace Redline.Toml.Scanner

/-- Digits, with single `_` between them; answers the digits. -/
def digits (isDigit : Char → Bool) : Scanner (List Char) := do
  let first ← accept isDigit
  let others ← many (accept isDigit <|> (do char '_'; accept isDigit))
  return first :: others

/-- Whether there is a minus; a plus says nothing. -/
def sign : Scanner Bool :=
  (do char '-'; return true) <|> (do char '+'; return false) <|> return false

/-- The digits of a decimal number without leading zeros. -/
def whole : Scanner (List Char) :=
  (do char '0'; return ['0']) <|> digits Char.isDigit

/-! ## Integers -/

/-- Whether `n` fits into 64 bits with a sign. -/
def fitsSigned (n : Int) : Bool :=
  -0x8000000000000000 ≤ n && n < 0x8000000000000000

/-- The integer `n`, if it fits. -/
def integerOf (n : Int) : Scanner Int :=
  if fitsSigned n then return n else failure

/-- An integer in base `base`, marked by `mark`. -/
def marked (mark : Char) (base : Nat) : Scanner Int := do
  word ['0', mark]
  let ds ← digits fun c => (Text.numberInBase? base [c]).isSome
  match Text.numberInBase? base ds with
  | none => failure
  | some n => integerOf n

/-- A decimal integer. -/
def decimalInteger : Scanner Int := do
  let negative ← sign
  let n := Text.digitsFrom 0 (← whole)
  integerOf (if negative then -(n : Int) else n)

/-- An integer. -/
def integer : Scanner Int :=
  marked 'x' 16 <|> marked 'o' 8 <|> marked 'b' 2 <|> decimalInteger

/-! ## Floats -/

/-- Whether the number written by the digits `ds`, times ten to the power `exponent`, is at least
    `Text.leastInfinite`, which has 309 digits. -/
def isTooLarge (ds : List Char) (exponent : Int) : Bool :=
  let significant := ds.dropWhile (· = '0')
  let magnitude := significant.length + exponent
  if significant = [] ∨ magnitude < 309 then false
  else if 309 < magnitude then true
  else Text.leastInfinite * Nat.pow 10 (-exponent).toNat
    ≤ Text.digitsFrom 0 significant * Nat.pow 10 exponent.toNat

/-- The digits behind a point. -/
def fraction : Scanner (List Char) := do
  char '.'
  digits Char.isDigit

/-- An exponent. -/
def exponent : Scanner Int := do
  let _ ← accept fun c => c = 'e' || c = 'E'
  let negative ← sign
  let n := Text.digitsFrom 0 (← digits Char.isDigit)
  return if negative then -(n : Int) else n

/-- A number with a fraction, an exponent or both. -/
def finiteFloat : Scanner Unit := do
  let negative ← sign
  let before ← whole
  let behind ← option fraction
  let power ← option exponent
  if behind.isNone ∧ power.isNone then failure
  let behind := behind.getD []
  if !negative ∧ isTooLarge (before ++ behind) (power.getD 0 - behind.length) then failure

/-- A word that stands for no finite number. -/
def specialFloat : Scanner Unit := do
  let _ ← sign
  word ['i', 'n', 'f'] <|> word ['n', 'a', 'n']

/-- A float, as it is written. -/
def float : Scanner String :=
  source (finiteFloat <|> specialFloat)

end Redline.Toml.Scanner
