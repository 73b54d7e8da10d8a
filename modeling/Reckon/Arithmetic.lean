import Reckon.Kind
import Reckon.Operator
import Reckon.Unit.Memory
import Reckon.Value

/-!
# Arithmetic with units

| operator | number, number | quantity, quantity | quantity, number | number, quantity |
|---|---|---|---|---|
| `+` `-` | yes | of the same dimension | no | no |
| `*` | yes | if the table of kinds has it | scales | scales |
| `/` | yes | ratio, or if the table has it | scales | no |
| `^` | yes | no | no | no |

Sums and differences have the units of the left operand. Scaling works on the number that is
written, so twice 20 °C is 40 °C. No operator returns an infinite number or NaN.

What an operator has to know about units is kept in a `Memory`, which it returns with its outcome.
-/

namespace Reckon.Arithmetic

/-- The smallest positive number of full precision. Smaller divisors count as zero. -/
def zeroTolerance : Float := Float.ofBits 0x0010000000000000

/-- Whether a divisor counts as zero. -/
def isZero (x : Float) : Bool := Float.abs x < zeroTolerance

/-- A number as the result of an operator, unless it is infinite or NaN. -/
def number (symbol : String) (x : Float) : Except Failure Value :=
  if x.isFinite then .ok (.number x) else .error (.error (.invalidOperation symbol))

/-- A quantity as the result of an operator, unless it is infinite or NaN. -/
def quantity (symbol : String) (q : Quantity) : Except Failure Value :=
  if q.magnitude.isFinite then .ok (.quantity q) else .error (.error (.invalidOperation symbol))

/-- A quantity with its number multiplied. -/
def scale (symbol : String) (q : Quantity) (factor : Float) : Except Failure Value :=
  quantity symbol ⟨q.magnitude * factor, q.units⟩

/-- Adds or subtracts quantities in the units of the left one. -/
def combine (m : Memory) (symbol : String) (operation : Float → Float → Float)
    (left right : Quantity) : Except Failure Value × Memory :=
  match m.dimensions left.units right.units with
  | (.error a, m) => (.error (.abort a), m)
  | (.ok (l, r), m) =>
    if l.same r then
      match m.convert right.magnitude right.units left.units with
      | (.error a, m) => (.error (.abort a), m)
      | (.ok none, m) => (.error (.error .differentTypes), m)
      | (.ok (some x), m) => (quantity symbol ⟨operation left.magnitude x, left.units⟩, m)
    else (.error (.error .differentTypes), m)

/-- The product or quotient of two quantities as it is, if both have multiplicative units and no
divisor is zero. -/
def raw? (symbol : String) (left right : Quantity) : Option Quantity :=
  if left.units.isMultiplicative && right.units.isMultiplicative then
    if symbol = "*" then
      some ⟨left.magnitude * right.magnitude, Powers.mul left.units right.units⟩
    else if right.magnitude == 0 then none
    else some ⟨left.magnitude / right.magnitude, Powers.div left.units right.units⟩
  else none

/-- The kind of a product or quotient of two dimensions, if the table has it. -/
def composedKind? (symbol : String) (left right : Dimension) : Option Kind := do
  Kind.compose? symbol (← Kind.ofDimension? left) (← Kind.ofDimension? right)

/-- Multiplies or divides quantities of the given dimensions, in the units of the resulting kind. -/
def composeIn (m : Memory) (symbol : String) (left right : Quantity) (l r : Dimension) :
    Except Failure Quantity × Memory :=
  let refusal := Failure.error (.cannotApply symbol l.label r.label)
  match composedKind? symbol l r, raw? symbol left right with
  | some kind, some q =>
    match m.convert q.magnitude q.units kind.units with
    | (.error a, m) => (.error (.abort a), m)
    | (.ok none, m) => (.error refusal, m)
    | (.ok (some x), m) => (.ok ⟨x, kind.units⟩, m)
  | _, _ => (.error refusal, m)

/-- Multiplies or divides quantities whose kinds the table has. -/
def compose (m : Memory) (symbol : String) (left right : Quantity) :
    Except Failure Quantity × Memory :=
  match m.dimensions left.units right.units with
  | (.error a, m) => (.error (.abort a), m)
  | (.ok (l, r), m) => composeIn m symbol left right l r

/-- A composed quantity as the result of an operator. -/
def composed (symbol : String) (outcome : Except Failure Quantity × Memory) :
    Except Failure Value × Memory :=
  (outcome.1.bind (quantity symbol), outcome.2)

/-- A number as a quantity without units. -/
def ratio (x : Float) : Quantity := ⟨x, []⟩

/-- The sum. -/
def add (m : Memory) : Value → Value → Except Failure Value × Memory
  | .number x, .number y => (number "+" (x + y), m)
  | .quantity p, .quantity q => combine m "+" (· + ·) p q
  | _, _ => (.error (.error .mixedSum), m)

/-- The difference. -/
def subtract (m : Memory) : Value → Value → Except Failure Value × Memory
  | .number x, .number y => (number "-" (x - y), m)
  | .quantity p, .quantity q => combine m "-" (· - ·) p q
  | _, _ => (.error (.error .mixedDifference), m)

/-- The product. -/
def multiply (m : Memory) : Value → Value → Except Failure Value × Memory
  | .number x, .number y => (number "*" (x * y), m)
  | .quantity p, .quantity q => composed "*" (compose m "*" p q)
  | .quantity p, .number y => (scale "*" p y, m)
  | .number x, .quantity q => (scale "*" q x, m)

/-- The quotient of two quantities of the same dimension. They are compared in the units of the left
one, so a divisor is zero if it is zero there. -/
def divideAlike (m : Memory) (left right : Quantity) (l r : Dimension) :
    Except Failure Value × Memory :=
  match m.convert right.magnitude right.units left.units with
  | (.error a, m) => (.error (.abort a), m)
  | (.ok none, m) => (.error (.error (.cannotApply "/" l.label r.label)), m)
  | (.ok (some divisor), m) =>
    if isZero divisor then (.error (.error .divisionByZero), m)
    else (quantity "/" (ratio (left.magnitude / divisor)), m)

/-- The quotient of two quantities. -/
def divideQuantities (m : Memory) (left right : Quantity) : Except Failure Value × Memory :=
  match m.dimensions left.units right.units with
  | (.error a, m) => (.error (.abort a), m)
  | (.ok (l, r), m) =>
    if l.same r then divideAlike m left right l r
    else if isZero right.magnitude then (.error (.error .divisionByZero), m)
    else composed "/" (composeIn m "/" left right l r)

/-- The quotient. -/
def divide (m : Memory) : Value → Value → Except Failure Value × Memory
  | .number x, .number y =>
    (if isZero y then .error (.error .divisionByZero) else number "/" (x / y), m)
  | .quantity p, .quantity q => divideQuantities m p q
  | .quantity p, .number y =>
    (if isZero y then .error (.error .divisionByZero) else scale "/" p (1 / y), m)
  | .number _, .quantity _ => (.error (.error .scalarByQuantity), m)

/-- The power. -/
def power (m : Memory) : Value → Value → Except Failure Value × Memory
  | .number x, .number y => (number "^" (Float.pow x y), m)
  | _, _ => (.error (.error .quantityPower), m)

/-- Applies a binary operator. -/
def apply (m : Memory) : Operator → Value → Value → Except Failure Value × Memory
  | .add => add m
  | .subtract => subtract m
  | .multiply => multiply m
  | .divide => divide m
  | .power => power m

/-- Applies the binary operator with the given text. -/
def binary (m : Memory) (symbol : String) (left right : Value) : Except Failure Value × Memory :=
  match Operator.ofText? symbol with
  | some op => apply m op left right
  | none => (.error (.error (.unsupportedOperator symbol)), m)

/-- The value with the opposite sign. -/
def negate : Value → Except Failure Value
  | .number x => .ok (.number (-x))
  | .quantity q => scale "-" q (-1)

/-- Applies the sign with the given text. -/
def unary (symbol : String) (operand : Value) : Except Failure Value :=
  if symbol = "+" then .ok operand
  else if symbol = "-" then negate operand
  else .error (.error (.unsupportedSign symbol))

end Reckon.Arithmetic
