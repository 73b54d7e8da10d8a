/-!
# Aborted evaluations

An evaluation error is a result like any other. Some texts of units and some conversions end in a
way that no result accounts for: the whole step ends there, and what it has bound before stays.
-/

namespace Reckon

/-- Why a step ends without a result. -/
inductive Abort where
  /-- A number is divided by zero inside the text of a unit. -/
  | zeroDivision
  /-- A number is too large for a double. -/
  | overflow
  /-- The logarithm of a number that is not positive, or an exponent with too many digits. -/
  | domain
  /-- A fractional power of a negative number. -/
  | notReal
  /-- A unit that does not exist is to be shown. -/
  | noSymbol
  /-- A unit that does not exist is to be measured. -/
  | noDimension
  /-- The text of a unit is nested deeper than it can be followed. -/
  | tooDeep
deriving DecidableEq

end Reckon
