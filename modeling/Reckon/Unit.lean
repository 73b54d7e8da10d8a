import Reckon.Unit.Dimension

/-!
# Units of measure

A unit is a base unit of some dimension or is defined by other units, its reference. `Units` are
products of powers of units, such as `km / h`.
-/

namespace Reckon

/-- How a reading in a unit becomes a reading in the unit's reference. -/
inductive Unit.Law where
  /-- The reading times `scale`. -/
  | multiple (scale : Scalar)
  /-- The reading times `scale`, plus `zero`. -/
  | shifted (scale : Scalar) (zero : Float)
  /-- `scale` times the power of `base` to the reading divided by `factor`. -/
  | logarithmic (scale : Scalar) (base factor : Float)

/-- A unit of measure. -/
inductive Unit where
  /-- A unit that no other one defines; it may be a unit of no dimension. -/
  | base (name symbol : String) (dimension : Option BaseDimension)
  /-- A unit that is defined by a product of powers of others. -/
  | derived (name symbol : String) (law : Unit.Law) (reference : List (Unit × Scalar))
  /-- A unit that has a name and no definition. Units of differences are named after the unit they
  belong to, whether they exist or not. -/
  | missing (name : String)

namespace Unit

/-- The name of a unit; units are told apart by it. -/
def name : Unit → String
  | base name .. | derived name .. | missing name => name

/-- The symbol of a unit. -/
def symbol : Unit → String
  | base _ symbol _ | derived _ symbol .. => symbol
  | missing _ => ""

instance : BEq Unit := ⟨fun u v => u.name == v.name⟩

instance : Inhabited Unit := ⟨base "" "" none⟩

/-- A unit that is a multiple of a product of others. -/
def multiple (name symbol : String) (scale : Scalar) (reference : List (Unit × Scalar)) : Unit :=
  derived name symbol (.multiple scale) reference

/-- Whether the unit has a definition. -/
def isDefined : Unit → Bool
  | missing _ => false
  | _ => true

/-- Whether readings in the unit are proportional to the measured thing. -/
def isMultiplicative : Unit → Bool
  | base .. | derived _ _ (.multiple _) _ | missing _ => true
  | _ => false

/-- What the names of units of differences start with. -/
def differenceMark : String := "delta_"

/-- Whether the unit measures differences on a scale with a shifted zero. -/
def isDifference (u : Unit) : Bool := differenceMark.isPrefixOf u.name

/-- The factor between a unit and its reference. -/
def Law.scale : Law → Scalar
  | multiple scale | shifted scale _ | logarithmic scale _ _ => scale

mutual

/-- The factors that turn the unit, taken to the power `x`, into base units. -/
def factors (x : Scalar) : Unit → List (Scalar × Scalar)
  | base .. | missing _ => []
  | derived _ _ law reference => (law.scale, x) :: factorsAll x reference

/-- The factors of a product of units, taken to the power `x`. -/
def factorsAll (x : Scalar) : List (Unit × Scalar) → List (Scalar × Scalar)
  | [] => []
  | (u, e) :: rest => u.factors (x * e) ++ factorsAll x rest

end

mutual

/-- The base dimensions of the unit, taken to the power `x`. -/
def dimensions (x : Scalar) : Unit → List (BaseDimension × Scalar)
  | base _ _ (some d) => [(d, x)]
  | base _ _ none | missing _ => []
  | derived _ _ _ reference => dimensionsAll x reference

/-- The base dimensions of a product of units, taken to the power `x`. -/
def dimensionsAll (x : Scalar) : List (Unit × Scalar) → List (BaseDimension × Scalar)
  | [] => []
  | (u, e) :: rest => u.dimensions (x * e) ++ dimensionsAll x rest

end

end Unit

/-- A product of powers of units. -/
abbrev Units := Powers Unit

namespace Units

/-- The dimension of a product of units. -/
def dimension (u : Units) : Dimension := Powers.reduced (Powers.collect (Unit.dimensionsAll 1 u))

/-- Whether every factor has a definition. -/
def isDefined (u : Units) : Bool := u.all (·.1.isDefined)

/-- Whether every factor is a multiplicative unit. -/
def isMultiplicative (u : Units) : Bool := u.all (·.1.isMultiplicative)

/-- The product with its factors in alphabetical order of their names. -/
def sorted (u : Units) : Units := u.mergeSort fun a b => decide (a.1.name ≤ b.1.name)

/-- The product in symbols; nothing for the empty product. -/
def shortText (u : Units) : String := shortStyle.text (u.sorted.map fun (v, e) => (v.symbol, e))

/-- The product in words. -/
def longText (u : Units) : String :=
  if u.isEmpty then "dimensionless" else longStyle.text (u.sorted.map fun (v, e) => (v.name, e))

/-- Why a product cannot be shown, if it cannot. -/
def unshowable? (u : Units) : Option Abort :=
  if !u.isDefined then some .noSymbol
  else if !u.all (·.2.isWritable) then some .domain
  else none

end Units

end Reckon
