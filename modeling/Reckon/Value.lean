import Reckon.Decimal.Layout
import Reckon.Error
import Reckon.Text.Blank
import Reckon.Unit

/-!
# Values and results

A value is a number or a quantity, that is a number with units. A result is a value or an error.
-/

namespace Reckon

/-- A number of units. -/
structure Quantity where
  /-- How many. -/
  magnitude : Float
  /-- Of what. -/
  units : Units

/-- What a statement evaluates to. -/
inductive Value where
  /-- A plain number. -/
  | number (x : Float)
  /-- A number of units. -/
  | quantity (q : Quantity)

instance : Inhabited Value := ⟨.number 0⟩

namespace Value

/-- The number, or the number of units. -/
def magnitude : Value → Float
  | number x => x
  | quantity q => q.magnitude

/-- Whether the value has units, be it none in particular. -/
def isQuantity : Value → Bool
  | number _ => false
  | quantity _ => true

/-- The value as it is shown beside a line, unless its units cannot be shown. -/
def display : Value → Except Abort String
  | number x => .ok (Decimal.display x)
  | quantity q =>
    match q.units.unshowable? with
    | some a => .error a
    | none =>
      let unit := q.units.shortText
      if unit = "" then .ok (Decimal.display q.magnitude)
      else .ok (Decimal.display q.magnitude ++ " " ++ unit)

end Value

/-- The outcome of a statement. -/
inductive Result where
  /-- A value. -/
  | value (v : Value)
  /-- An error, with a message if there is one. -/
  | error (message : Option String) (kind : ErrorKind)

namespace Result

/-- An error result that always has a message. -/
def ofMessage (message : Option String) (kind : ErrorKind) : Result :=
  match message with
  | some m =>
    if Text.isBlankText m then .error (some "Unknown error") kind else .error (some m) kind
  | none => .error (some "Unknown error") kind

/-- The result of an evaluation error. -/
def ofError (e : EvalError) : Result := ofMessage (some e.message) e.kind

/-- Whether the result is an error. -/
def hasError : Result → Bool
  | value _ => false
  | error .. => true

/-- Whether the result is a quantity. -/
def isQuantity : Result → Bool
  | value v => v.isQuantity
  | error .. => false

/-- The number in the result; zero for an error. -/
def magnitude : Result → Float
  | value v => v.magnitude
  | error .. => 0

/-- The result as it is shown beside a line, unless its units cannot be shown. -/
def display : Result → Except Abort String
  | value v => v.display
  | error none _ => .ok "Error"
  | error (some message) _ => .ok s!"Error: {message}"

end Result

end Reckon
