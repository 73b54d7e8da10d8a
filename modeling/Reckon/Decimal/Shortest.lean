import Reckon.Decimal.Binary

/-!
# The fewest digits that read back

Every real number in an interval around a double is read as that double. `shortest` looks on the
decimal grids `10 ^ k`, from coarse to fine, for the first one with a point in the interval; of two
such points it takes the nearer one.
-/

namespace Reckon.Decimal

/-- The decimal `digits · 10 ^ exponent`. -/
structure Scientific where
  /-- The significant digits. -/
  digits : Nat
  /-- The power of ten of the last digit. -/
  exponent : Int
deriving DecidableEq

/-- The reals that are read as `mantissa · 2 ^ exponent`, in quarters of the last place. The
interval is half as wide below a power of two, and has its ends iff the mantissa is even. -/
structure Interval where
  /-- The lower end. -/
  low : Nat
  /-- The number itself. -/
  mid : Nat
  /-- The upper end. -/
  high : Nat
  /-- Whether the ends belong to the interval. -/
  closed : Bool

/-- The interval of the reals that round to a positive double. -/
def Binary.interval (b : Binary) : Interval :=
  let narrow := b.mantissa = hiddenBit ∧ -1074 < b.exponent
  { low := 4 * b.mantissa - (if narrow then 1 else 2)
    mid := 4 * b.mantissa
    high := 4 * b.mantissa + 2
    closed := b.mantissa % 2 = 0 }

/-- Whether the point `p`, in units of which the interval's unit is `q`, lies in it. -/
def Interval.contains (i : Interval) (q p : Nat) : Bool :=
  if i.closed then decide (i.low * q ≤ p) && decide (p ≤ i.high * q)
  else decide (i.low * q < p) && decide (p < i.high * q)

/-- The point of the grid `10 ^ k` in the interval that is nearest to the number. -/
def onGrid? (b : Binary) (k : Int) : Option Nat :=
  let i := b.interval
  let p := Nat.pow 10 k.toNat * Nat.pow 2 (2 - b.exponent).toNat
  let q := Nat.pow 2 (b.exponent - 2).toNat * Nat.pow 10 (-k).toNat
  let below := i.mid * q / p
  let lower := i.contains q (below * p)
  let upper := i.contains q ((below + 1) * p)
  let rest := 2 * (i.mid * q - below * p)
  if lower && upper then
    if rest < p ∨ (rest = p ∧ below % 2 = 0) then some below else some (below + 1)
  else if lower then some below
  else if upper then some (below + 1)
  else none

/-- Searches `n` grids, each ten times finer than the one before, starting at `10 ^ k`. -/
def searchGrids (b : Binary) (k : Int) : Nat → Option Scientific
  | 0 => none
  | n + 1 =>
    match onGrid? b k with
    | some digits => some ⟨digits, k⟩
    | none => searchGrids b (k - 1) n

/-- A power of ten above the number, and fewer than four powers above it. -/
def Binary.powerAbove (b : Binary) : Int :=
  (b.mantissa.log2 + b.exponent) * 30103 / 100000 + 2

/-- The shortest decimal that is read as the given positive double. -/
def shortest (b : Binary) : Scientific :=
  (searchGrids b b.powerAbove 24).getD ⟨b.mantissa, b.exponent⟩

end Reckon.Decimal
