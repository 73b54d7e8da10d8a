import Reckon.Abort

/-!
# Evaluation errors

Why a statement has no value. `EvalError.message` is what the user reads, `EvalError.kind` the
class that programs look at.
-/

namespace Reckon

/-- The classes of errors. -/
inductive ErrorKind where
  | parse
  | undefinedVariable
  | undefinedFunction
  | argumentCount
  | duplicateParameter
  | unitMismatch
  | unsupportedOperator
  | unrecognizedUnit
  | divisionByZero
  | domain
  | invalidResult
  | recursionLimit
  | unsupportedNode
deriving DecidableEq

namespace ErrorKind

/-- All classes in order. -/
def all : List ErrorKind :=
  [parse, undefinedVariable, undefinedFunction, argumentCount, duplicateParameter, unitMismatch,
    unsupportedOperator, unrecognizedUnit, divisionByZero, domain, invalidResult, recursionLimit,
    unsupportedNode]

/-- The name of a class. -/
def name : ErrorKind → String
  | parse => "parse"
  | undefinedVariable => "undefined_variable"
  | undefinedFunction => "undefined_function"
  | argumentCount => "argument_count"
  | duplicateParameter => "duplicate_parameter"
  | unitMismatch => "unit_mismatch"
  | unsupportedOperator => "unsupported_operator"
  | unrecognizedUnit => "unrecognized_unit"
  | divisionByZero => "division_by_zero"
  | domain => "domain"
  | invalidResult => "invalid_result"
  | recursionLimit => "recursion_limit"
  | unsupportedNode => "unsupported_node"

/-- The class with the given name. -/
def ofName? (s : String) : Option ErrorKind := all.find? (·.name == s)

end ErrorKind

/-- Why a statement has no value. -/
inductive EvalError where
  /-- A variable that is bound nowhere. -/
  | undefinedVariable (name : String)
  /-- A function that is neither built in nor defined. -/
  | undefinedFunction (name : String)
  /-- A call with the wrong number of arguments. -/
  | argumentCount (name : String) (expected : String) (received : Nat)
  /-- A call without arguments of a function that takes any number of them but none. -/
  | noArguments (name : String)
  /-- A definition that names a parameter twice. -/
  | duplicateParameter (name : String)
  /-- The sum or difference of quantities that measure different things. -/
  | differentTypes
  /-- The sum of a number and a quantity. -/
  | mixedSum
  /-- The difference of a number and a quantity. -/
  | mixedDifference
  /-- A number divided by a quantity. -/
  | scalarByQuantity
  /-- A quantity as argument of a built-in function. -/
  | quantityArgument (name : String)
  /-- A power with a quantity as base or exponent. -/
  | quantityPower
  /-- An operator that does not exist. -/
  | unsupportedOperator (symbol : String)
  /-- A sign that does not exist. -/
  | unsupportedSign (symbol : String)
  /-- A product or quotient of quantities that is not in the table of kinds. -/
  | cannotApply (symbol left right : String)
  /-- A text that is no unit, with spellings that are similar to it. -/
  | unrecognizedUnit (text : String) (suggestions : List String)
  /-- A token of the alias table that stands for no unit. -/
  | unresolvedAlias (text : String)
  /-- A division by zero. -/
  | divisionByZero
  /-- An argument outside of the interval from -1 to 1. -/
  | outsideUnitInterval (name : String)
  /-- An argument that must not be negative. -/
  | negativeArgument (name : String)
  /-- An argument that must be positive. -/
  | nonpositiveArgument (name : String)
  /-- A base of logarithms that is not positive or is one. -/
  | unusableBase (name : String)
  /-- An operator whose result is infinite or not a number. -/
  | invalidOperation (symbol : String)
  /-- A function whose result is infinite or not a number. -/
  | invalidFunction (name : String)
  /-- A call at the greatest depth of calls. -/
  | callDepth (name : String)
  /-- An expression that is nested deeper than it can be followed. -/
  | nesting
  /-- A node of an unknown form. -/
  | unsupportedNode (form : String)

namespace EvalError

/-- The class of an error. -/
def kind : EvalError → ErrorKind
  | undefinedVariable _ => .undefinedVariable
  | undefinedFunction _ => .undefinedFunction
  | argumentCount .. | noArguments _ => .argumentCount
  | duplicateParameter _ => .duplicateParameter
  | differentTypes | mixedSum | mixedDifference | scalarByQuantity | quantityArgument _ =>
    .unitMismatch
  | quantityPower | unsupportedOperator _ | unsupportedSign _ | cannotApply .. =>
    .unsupportedOperator
  | unrecognizedUnit .. | unresolvedAlias _ => .unrecognizedUnit
  | divisionByZero => .divisionByZero
  | outsideUnitInterval _ | negativeArgument _ | nonpositiveArgument _ | unusableBase _ => .domain
  | invalidOperation _ | invalidFunction _ => .invalidResult
  | callDepth _ | nesting => .recursionLimit
  | unsupportedNode _ => .unsupportedNode

/-- The question after an unrecognized unit. -/
def didYouMean : List String → String
  | [] => ""
  | [spelling] => s!" Did you mean '{spelling}'?"
  | spellings => " Did you mean one of: " ++ ", ".intercalate spellings ++ "?"

/-- The message of an error. -/
def message : EvalError → String
  | undefinedVariable name => s!"Undefined variable '{name}'."
  | undefinedFunction name => s!"Undefined function '{name}'."
  | argumentCount name expected received =>
    s!"Function '{name}' expects {expected} argument(s) but received {received}."
  | noArguments name => s!"Function '{name}' expects at least one argument."
  | duplicateParameter name => s!"Function '{name}' has duplicate parameter names."
  | differentTypes => "Cannot combine quantities of different types."
  | mixedSum => "Cannot add quantities and scalars together."
  | mixedDifference => "Cannot subtract a quantity from a scalar or vice versa."
  | scalarByQuantity => "Cannot divide a scalar by a quantity."
  | quantityArgument name => s!"Function '{name}' does not support quantity arguments."
  | quantityPower => "Exponentiation is only supported for scalars."
  | unsupportedOperator symbol => s!"Unsupported operator '{symbol}'."
  | unsupportedSign symbol => s!"Unsupported unary operator '{symbol}'."
  | cannotApply symbol left right => s!"Cannot apply {symbol} to {left} and {right}."
  | unrecognizedUnit text suggestions =>
    s!"Unrecognized unit '{text}'." ++ didYouMean suggestions
  | unresolvedAlias text => s!"Unable to resolve unit alias '{text}'."
  | divisionByZero => "Division by zero."
  | outsideUnitInterval name => s!"Function '{name}' requires an argument in the range [-1, 1]."
  | negativeArgument name => s!"Function '{name}' requires a non-negative argument."
  | nonpositiveArgument name => s!"Function '{name}' requires a positive argument."
  | unusableBase name => s!"Function '{name}' requires a positive base not equal to 1."
  | invalidOperation symbol => s!"Operator '{symbol}' produced an invalid result."
  | invalidFunction name => s!"Function '{name}' produced an invalid result."
  | callDepth name => s!"Maximum recursion depth exceeded in function '{name}'."
  | nesting => "Expression is nested too deeply to evaluate."
  | unsupportedNode form => s!"Unsupported node type '{form}'."

end EvalError

/-- How an evaluation can end without a value. -/
inductive Failure where
  /-- With an error that becomes the result. -/
  | error (e : EvalError)
  /-- Without a result: the whole step ends there. -/
  | abort (a : Abort)

end Reckon
