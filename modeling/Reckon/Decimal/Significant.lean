import Reckon.Decimal.Nearest
import Reckon.Decimal.Shortest

/-!
# A fixed number of significant digits

`significant` rounds a double to `n` decimal digits. The rounding is exact, and of two equally near
decimals it takes the one with the even last digit. Zeros at the end are dropped.
-/

namespace Reckon.Decimal

/-- The absolute value as a fraction of multiples of `10 ^ k`. -/
def Binary.inUnits (b : Binary) (k : Int) : Nat × Nat :=
  let (num, den) := b.fraction
  (num * Nat.pow 10 (-k).toNat, den * Nat.pow 10 k.toNat)

/-- The greatest `k` among `start`, `start - 1`, … such that the number has at least `n` digits
before the point when it is measured in `10 ^ k`; after `tries` steps the search ends. -/
def lastPlace (b : Binary) (n : Nat) (start : Int) : Nat → Int
  | 0 => start
  | tries + 1 =>
    let (num, den) := b.inUnits start
    if Nat.pow 10 (n - 1) ≤ num / den then start else lastPlace b n (start - 1) tries

/-- Moves zeros at the end of the digits to the exponent. -/
def Scientific.trimmed (d : Scientific) : Scientific :=
  if h : d.digits ≠ 0 ∧ d.digits % 10 = 0 then
    Scientific.trimmed ⟨d.digits / 10, d.exponent + 1⟩
  else d
termination_by d.digits
decreasing_by omega

/-- A positive double rounded to `n` significant digits. -/
def significant (b : Binary) (n : Nat) : Scientific :=
  let k := lastPlace b n (b.powerAbove - n) 5
  let (num, den) := b.inUnits k
  Scientific.trimmed ⟨nearestQuotient num den, k⟩

end Reckon.Decimal
