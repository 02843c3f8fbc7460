/-
  The size of JSON numbers.

  JSON sets no limit to a number.  Where a number is only stepped over, any will do; where it has
  to be held, it is held in 64 bits:

  1. a whole number that fits into 64 bits is held as it is;
  2. any other number is held as a double.  Of its digits the first ones count, as many as make up
     a number that fits into 64 bits; the further ones before the point count as zeros, those
     behind it not at all.  What these digits make, as a double, is multiplied by the power of
     ten that puts the point into its place, as a double too, and the product has to be finite.
-/
import Redline.Text.Double
import Redline.Text.Numeral

namespace Redline.Json

/-- The number that the digits write behind `n`, cut off before the digit with which it would no
    longer fit into 64 bits, and how many digits are cut off. -/
def leadingDigits (n : Nat) : List Char → Nat × Nat
  | [] => (n, 0)
  | d :: ds =>
    let longer := Text.digitsFrom n [d]
    if longer ≤ Text.maxCount then leadingDigits longer ds else (n, (d :: ds).length)

/-- The digits behind the point at the start of `cs`, if there is one, and what follows. -/
def fractionOf (cs : List Char) : List Char × List Char :=
  match cs with
  | '.' :: rest => (rest.takeWhile Char.isDigit, rest.dropWhile Char.isDigit)
  | _ => ([], cs)

/-- The exponent that `cs` writes, behind the letter that marks it; zero if there is none. -/
def exponentOf (cs : List Char) : Int :=
  match cs.drop 1 with
  | '-' :: ds => -(Text.digitsFrom 0 ds : Int)
  | '+' :: ds => Text.digitsFrom 0 ds
  | ds => Text.digitsFrom 0 ds

/-- The greatest power of ten that is a finite double. -/
def maxPowerOfTen : Nat := 308

/-- Whether `n` times ten to the power `exponent` is finite, computed in doubles. -/
def isFiniteProduct (n : Nat) (exponent : Int) : Bool :=
  n = 0 || exponent ≤ 0
    || exponent.toNat ≤ maxPowerOfTen
      && Text.nearestDouble n * Text.nearestDouble (Nat.pow 10 exponent.toNat)
        < Text.leastInfinite

/-- Whether a number without a sign, held as a double, is finite. -/
def isFiniteUnsigned (cs : List Char) : Bool :=
  let whole := cs.takeWhile Char.isDigit
  let (fraction, rest) := fractionOf (cs.dropWhile Char.isDigit)
  let (n, zeros) := leadingDigits 0 whole
  let (n, unused) := leadingDigits n fraction
  isFiniteProduct n (exponentOf rest + zeros - (fraction.length - unused : Nat))

/-- Whether a number, held as a double, is finite. -/
def isFiniteNumber : List Char → Bool
  | '-' :: cs => isFiniteUnsigned cs
  | cs => isFiniteUnsigned cs

/-- Whether a number without sign, fraction and exponent can be held. -/
def isHeldNatural (n : Nat) : Bool :=
  n ≤ Text.maxCount || isFiniteUnsigned (Text.decimal n)

end Redline.Json
