import Reckon.Abort
import Reckon.Decimal.Layout

/-!
# Numbers in units

The factors between units and the exponents of units are exact integers as long as only integers
have gone into them, and doubles from then on. Integers have no bound, so one that meets a double
may be too large for it.

* `add`, `mul` and `neg` always have a result; an integer that is too large counts as infinite.
* `times`, `quotient`, `floorQuotient` and `power` abort where there is none.
-/

namespace Reckon

/-- A factor between units, or an exponent of one. -/
inductive Scalar where
  /-- An exact integer. -/
  | exact (n : Int)
  /-- A double. -/
  | float (x : Float)
deriving Inhabited

namespace Scalar

instance {n : Nat} : OfNat Scalar n := ⟨exact n⟩

instance : OfScientific Scalar := ⟨fun m s e => float (Float.ofScientific m s e)⟩

/-- The double nearest to an integer; infinite if the integer has more than 1024 bits. -/
def ofInteger (n : Int) : Float :=
  if 1024 ≤ n.natAbs.log2 then (if n < 0 then -1 / 0 else 1 / 0) else Float.ofInt n

/-- The nearest double. -/
def toFloat : Scalar → Float
  | exact n => ofInteger n
  | float x => x

/-- Whether two scalars are the same number. -/
def beq : Scalar → Scalar → Bool
  | exact m, exact n => m == n
  | float x, float y => x == y
  | exact n, float x | float x, exact n => x.isFinite && (Decimal.decode x).toInt? == some n

instance : BEq Scalar := ⟨beq⟩

/-- Whether the first scalar is the smaller number. -/
def lt : Scalar → Scalar → Bool
  | exact m, exact n => decide (m < n)
  | float x, float y => decide (x < y)
  | exact n, float x =>
    if x.isFinite then
      decide (n * (Decimal.decode x).denominator < (Decimal.decode x).numerator)
    else decide (0 < x)
  | float x, exact n =>
    if x.isFinite then
      decide ((Decimal.decode x).numerator < n * (Decimal.decode x).denominator)
    else decide (x < 0)

/-- The sum; exact if both terms are. -/
def add : Scalar → Scalar → Scalar
  | exact m, exact n => exact (m + n)
  | a, b => float (a.toFloat + b.toFloat)

/-- The product; exact if both factors are. -/
def mul : Scalar → Scalar → Scalar
  | exact m, exact n => exact (m * n)
  | a, b => float (a.toFloat * b.toFloat)

/-- The number with the opposite sign. -/
def neg : Scalar → Scalar
  | exact n => exact (-n)
  | float x => float (-x)

instance : Add Scalar := ⟨add⟩

instance : Mul Scalar := ⟨mul⟩

instance : Neg Scalar := ⟨neg⟩

instance : Sub Scalar := ⟨fun a b => add a (neg b)⟩

/-- The smaller one of two scalars; the first one if neither is smaller. -/
def least (a b : Scalar) : Scalar := if lt b a then b else a

/-- Whether the number is zero. -/
def isZero (a : Scalar) : Bool := a == 0

/-- Whether the number is below zero. -/
def isNegative (a : Scalar) : Bool := lt a 0

/-- Whether the number is zero or above; NaN is neither this nor negative. -/
def isNonnegative (a : Scalar) : Bool := a.isZero || lt 0 a

/-- The distance from zero. -/
def abs (a : Scalar) : Scalar := if a.isNegative then -a else a

/-- The number as text: all digits of an integer, six significant digits of a double. -/
def text : Scalar → String
  | exact n => toString n
  | float x => Decimal.brief x

/-- The greatest number of digits of an integer that can be written. -/
def digitLimit : Nat := 4300

/-- Whether the number can be written: an exact integer must not have too many digits. -/
def isWritable : Scalar → Bool
  | exact n => decide (n.natAbs < Nat.pow 10 digitLimit)
  | float _ => true

/-- The nearest double, unless the number is too large for one. -/
def double : Scalar → Except Abort Float
  | exact n => if (ofInteger n).isFinite then .ok (ofInteger n) else .error .overflow
  | float x => .ok x

/-- The product. -/
def times : Scalar → Scalar → Except Abort Scalar
  | exact m, exact n => .ok (exact (m * n))
  | a, b => return float ((← a.double) * (← b.double))

/-- The double nearest to a quotient of integers. -/
def ratio (m n : Int) : Float :=
  let size := Decimal.nearestDouble m.natAbs n.natAbs
  if (m < 0) = (n < 0) then size else -size

/-- The quotient, always a double. -/
def quotient (a b : Scalar) : Except Abort Scalar :=
  if b.isZero then .error .zeroDivision
  else
    match a, b with
    | exact m, exact n => if (ratio m n).isFinite then .ok (float (ratio m n)) else .error .overflow
    | a, b => return float ((← a.double) / (← b.double))

/-- The greatest integer that is not above the quotient of two doubles. -/
def floorRatio (x y : Float) : Float :=
  if x.isFinite && y.isFinite then
    let a := Decimal.decode x
    let b := Decimal.decode y
    ofInteger (Int.fdiv (a.numerator * b.denominator) (a.denominator * b.numerator))
  else (x / y).floor

/-- The quotient rounded down. -/
def floorQuotient (a b : Scalar) : Except Abort Scalar :=
  if b.isZero then .error .zeroDivision
  else
    match a, b with
    | exact m, exact n => .ok (exact (Int.fdiv m n))
    | a, b => return float (floorRatio (← a.double) (← b.double))

/-- The greatest number of bits of a power that is worked out exactly. -/
def bitLimit : Nat := 67108864

/-- The power of an integer, unless it has too many digits. -/
def exactPower? (b : Int) (n : Nat) : Option Int :=
  if b.natAbs ≤ 1 then some (if n = 0 then 1 else if n % 2 = 0 then b * b else b)
  else if bitLimit < n * b.natAbs.log2 then none
  else
    let size : Int := Nat.pow b.natAbs n
    some (if b < 0 ∧ n % 2 = 1 then -size else size)

/-- The power of a finite double to a finite double. -/
def finitePower (x y : Float) : Except Abort Scalar :=
  if x == 0 && y < 0 then .error .zeroDivision
  else if x < 0 && (Decimal.decode y).toInt?.isNone then .error .notReal
  else if (Float.pow x y).isInf then .error .overflow
  else .ok (float (Float.pow x y))

/-- The power of a double. -/
def floatPower (x y : Float) : Except Abort Scalar :=
  if x.isFinite && y.isFinite then finitePower x y else .ok (float (Float.pow x y))

/-- The power; exact for an integer to a natural number. -/
def power (a e : Scalar) : Except Abort Scalar :=
  match a, e with
  | exact b, exact n =>
    if 0 ≤ n then
      match exactPower? b n.toNat with
      | some p => .ok (exact p)
      | none => .error .overflow
    else do floatPower (← a.double) (← e.double)
  | a, e => do floatPower (← a.double) (← e.double)

end Scalar

end Reckon
