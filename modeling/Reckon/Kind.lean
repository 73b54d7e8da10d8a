import Reckon.Unit.Known

/-!
# Kinds of quantities

Seventeen dimensions have a name and a unit in which results are given. Which products and
quotients of them are meaningful is a table.
-/

namespace Reckon

/-- A dimension with a name. -/
inductive Kind where
  | ratio
  | length
  | area
  | volume
  | mass
  | duration
  | temperature
  | speed
  | acceleration
  | frequency
  | force
  | energy
  | power
  | pressure
  | density
  | massFlow
  | volumeFlow
deriving DecidableEq

namespace Kind

/-- All kinds in order. -/
def all : List Kind :=
  [ratio, length, area, volume, mass, duration, temperature, speed, acceleration, frequency,
    force, energy, power, pressure, density, massFlow, volumeFlow]

/-- The key of a kind. -/
def name : Kind → String
  | ratio => "ratio"
  | length => "length"
  | area => "area"
  | volume => "volume"
  | mass => "mass"
  | duration => "duration"
  | temperature => "temperature"
  | speed => "speed"
  | acceleration => "acceleration"
  | frequency => "frequency"
  | force => "force"
  | energy => "energy"
  | power => "power"
  | pressure => "pressure"
  | density => "density"
  | massFlow => "mass_flow"
  | volumeFlow => "volume_flow"

/-- The name of a kind in messages. -/
def label : Kind → String
  | ratio => "Ratio"
  | length => "Length"
  | area => "Area"
  | volume => "Volume"
  | mass => "Mass"
  | duration => "Duration"
  | temperature => "Temperature"
  | speed => "Speed"
  | acceleration => "Acceleration"
  | frequency => "Frequency"
  | force => "Force"
  | energy => "Energy"
  | power => "Power"
  | pressure => "Pressure"
  | density => "Density"
  | massFlow => "MassFlow"
  | volumeFlow => "VolumeFlow"

open Unit.Known in
/-- The units in which results of a kind are given. -/
def units : Kind → Units
  | ratio => []
  | length => [(meter, 1)]
  | area => [(meter, 2)]
  | volume => [(meter, 3)]
  | mass => [(kilogram, 1)]
  | duration => [(second, 1)]
  | temperature => [(kelvin, 1)]
  | speed => [(meter, 1), (second, -1)]
  | acceleration => [(meter, 1), (second, -2)]
  | frequency => [(hertz, 1)]
  | force => [(newton, 1)]
  | energy => [(joule, 1)]
  | power => [(watt, 1)]
  | pressure => [(pascal, 1)]
  | density => [(kilogram, 1), (meter, -3)]
  | massFlow => [(kilogram, 1), (second, -1)]
  | volumeFlow => [(meter, 3), (second, -1)]

/-- The dimension of a kind. -/
def dimension (k : Kind) : Dimension := k.units.dimension

/-- The kind with the given dimension, if it has a name. -/
def ofDimension? (d : Dimension) : Option Kind := all.find? fun k => d.same k.dimension

/-- The meaningful products `left * right = result`, in one order of the operands each. -/
def products : List (Kind × Kind × Kind) :=
  [(length, length, area), (area, length, volume), (speed, duration, length),
    (acceleration, duration, speed), (mass, acceleration, force), (force, length, energy),
    (power, duration, energy), (force, speed, power), (pressure, area, force),
    (density, volume, mass), (massFlow, duration, mass), (volumeFlow, duration, volume),
    (frequency, duration, ratio)]

/-- The meaningful quotients `left / right = result`. -/
def quotients : List (Kind × Kind × Kind) :=
  [(area, length, length), (volume, area, length), (volume, length, area),
    (length, duration, speed), (speed, duration, acceleration), (length, speed, duration),
    (force, area, pressure), (force, acceleration, mass), (force, mass, acceleration),
    (energy, duration, power), (energy, length, force), (energy, force, length),
    (energy, power, duration), (power, speed, force), (mass, volume, density),
    (mass, density, volume), (mass, duration, massFlow), (volume, duration, volumeFlow),
    (ratio, duration, frequency)]

/-- The third part of the entry of a table that starts with the given two. -/
def resultIn? (table : List (Kind × Kind × Kind)) (left right : Kind) : Option Kind :=
  (table.find? fun (l, r, _) => l == left && r == right).map (·.2.2)

/-- The kind of a product. A ratio scales every kind but temperature. -/
def product? (left right : Kind) : Option Kind :=
  match (resultIn? products left right).or (resultIn? products right left) with
  | some result => some result
  | none =>
    if left = ratio ∧ right ≠ temperature then some right
    else if right = ratio ∧ left ≠ temperature then some left
    else none

/-- The kind of a quotient. A ratio scales every kind but temperature. -/
def quotient? (left right : Kind) : Option Kind :=
  match resultIn? quotients left right with
  | some result => some result
  | none => if right = ratio ∧ left ≠ temperature then some left else none

/-- The kind that an operator makes of two kinds; only `*` and `/` make any. -/
def compose? (symbol : String) (left right : Kind) : Option Kind :=
  if symbol = "*" then product? left right
  else if symbol = "/" then quotient? left right
  else none

/-- All kinds in alphabetical order. -/
def alphabetical : List Kind := all.mergeSort fun a b => decide (a.name ≤ b.name)

/-- Every meaningful composition by name, in alphabetical order: the operator, the kinds of the
operands, and the result. -/
def compositions : List (List String) :=
  ["*", "/"].flatMap fun symbol => alphabetical.flatMap fun left =>
    alphabetical.filterMap fun right =>
      (compose? symbol left right).map fun result => [symbol, left.name, right.name, result.name]

end Kind

/-- A dimension as messages name it. -/
def Dimension.label (d : Dimension) : String :=
  match Kind.ofDimension? d with
  | some kind => kind.label
  | none => d.text

end Reckon
