/-!
# Floating point numbers as exact fractions

A finite double is an integer times a power of two. `decode` reads both off its bits; the exact
roundings to an integer are computed from them.
-/

namespace Reckon.Decimal

/-- The number `± mantissa · 2 ^ exponent`. -/
structure Binary where
  /-- Whether the sign is a minus. -/
  negative : Bool
  /-- The mantissa, below `2 ^ 53`. -/
  mantissa : Nat
  /-- The power of two of the mantissa's last place. -/
  exponent : Int

/-- The bit in front of the 52 stored ones, which is set in all but the smallest numbers. -/
def hiddenBit : Nat := 0x10000000000000

/-- The parts of a finite double: a sign, eleven bits of the exponent, and the stored bits of the
mantissa. -/
def decode (x : Float) : Binary :=
  let bits := x.toBits.toNat
  let biased := bits / hiddenBit % 0x800
  let stored := bits % hiddenBit
  let negative := decide (0x8000000000000000 ≤ bits)
  if biased = 0 then ⟨negative, stored, -1074⟩
  else ⟨negative, stored + hiddenBit, (biased : Int) - 1075⟩

namespace Binary

/-- Numerator and denominator of the absolute value. -/
def fraction (b : Binary) : Nat × Nat :=
  (b.mantissa * Nat.pow 2 b.exponent.toNat, Nat.pow 2 (-b.exponent).toNat)

/-- The numerator with its sign. -/
def numerator (b : Binary) : Int :=
  if b.negative then -(b.fraction.1 : Int) else b.fraction.1

/-- The denominator, a power of two. -/
def denominator (b : Binary) : Int := b.fraction.2

/-- The number itself if it is an integer. -/
def toInt? (b : Binary) : Option Int :=
  if b.numerator % b.denominator = 0 then some (b.numerator / b.denominator) else none

/-- The largest integer that is not above the number. -/
def floor (b : Binary) : Int := b.numerator / b.denominator

/-- The smallest integer that is not below the number. -/
def ceiling (b : Binary) : Int := -((-b.numerator) / b.denominator)

/-- The nearest integer; of two equally near ones, the even one. -/
def nearest (b : Binary) : Int :=
  let below := b.floor
  let rest := 2 * (b.numerator - below * b.denominator)
  if rest < b.denominator then below
  else if b.denominator < rest then below + 1
  else if below % 2 = 0 then below
  else below + 1

end Binary

/-- Applies an exact rounding to a finite double; infinities and NaN have no rounding. -/
def round? (rule : Binary → Int) (x : Float) : Option Int :=
  if x.isFinite then some (rule (decode x)) else none

end Reckon.Decimal
