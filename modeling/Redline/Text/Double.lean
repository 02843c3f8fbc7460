/-
  Doubles — as far as whole numbers are concerned.

  A double keeps 53 binary digits.  `nearestDouble n` is the number that is kept for `n`, without
  a limit to its size: of the multiples of a power of two that have at most 53 digits before the
  zeros, the nearest one, and of two that are equally near the even one.  A number from
  `leastInfinite` on has no finite double near it.
-/

namespace Redline.Text

/-- The least number that a double rounds to infinity: half a step above the largest double. -/
def leastInfinite : Nat := Nat.pow 2 1024 - Nat.pow 2 970

/-- The distance of the doubles around `n`. -/
def doubleStep (n : Nat) : Nat :=
  Nat.pow 2 (n.log2 - 52)

/-- The double nearest to `n`; of two that are equally near, the even one. -/
def nearestDouble (n : Nat) : Nat :=
  let step := doubleStep n
  let below := n / step
  let rest := n % step
  if step < 2 * rest ∨ (step = 2 * rest ∧ below % 2 = 1) then (below + 1) * step
  else below * step

end Redline.Text
