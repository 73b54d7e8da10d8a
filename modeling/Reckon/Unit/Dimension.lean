import Reckon.Unit.Powers

/-!
# Dimensions

The dimension of a unit is a product of powers of base dimensions.
-/

namespace Reckon

/-- The base dimensions. -/
inductive BaseDimension where
  | length
  | time
  | current
  | luminosity
  | mass
  | substance
  | temperature
  | printing
deriving DecidableEq

/-- The name of a base dimension. -/
def BaseDimension.text : BaseDimension → String
  | length => "[length]"
  | time => "[time]"
  | current => "[current]"
  | luminosity => "[luminosity]"
  | mass => "[mass]"
  | substance => "[substance]"
  | temperature => "[temperature]"
  | printing => "[printing_unit]"

/-- A product of powers of base dimensions. -/
abbrev Dimension := Powers BaseDimension

/-- A dimension in words. -/
def Dimension.text (d : Dimension) : String :=
  if d.isEmpty then "dimensionless" else longStyle.text (d.map fun (b, e) => (b.text, e))

end Reckon
