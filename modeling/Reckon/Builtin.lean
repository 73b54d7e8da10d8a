import Reckon.Decimal.Binary
import Reckon.Text.Fold
import Reckon.Value

/-!
# Built-in functions

They take plain numbers only, and never return an infinite number or NaN. Names are compared
without regard to case.
-/

namespace Reckon

/-- The built-in functions. -/
inductive Builtin where
  | sin
  | cos
  | tan
  | asin
  | acos
  | atan
  | sqrt
  | abs
  | exp
  | ln
  | log
  | pow
  | min
  | max
  | round
  | floor
  | ceiling
deriving DecidableEq

namespace Builtin

/-- All functions. -/
def all : List Builtin :=
  [sin, cos, tan, asin, acos, atan, sqrt, abs, exp, ln, log, pow, min, max, round, floor, ceiling]

/-- The name of a function in messages. -/
def name : Builtin → String
  | sin => "sin"
  | cos => "cos"
  | tan => "tan"
  | asin => "asin"
  | acos => "acos"
  | atan => "atan"
  | sqrt => "sqrt"
  | abs => "abs"
  | exp => "exp"
  | ln => "ln"
  | log => "log"
  | pow => "pow"
  | min => "min"
  | max => "max"
  | round => "round"
  | floor => "floor"
  | ceiling => "ceiling"

/-- All names by which a function can be called. -/
def callNames : Builtin → List String
  | ceiling => ["ceiling", "ceil"]
  | f => [f.name]

/-- The function with the given name. -/
def ofName? (name : String) : Option Builtin :=
  all.find? fun f => f.callNames.contains (Text.fold name)

/-- All names in alphabetical order. -/
def names : List String := (all.flatMap callNames).mergeSort fun a b => decide (a ≤ b)

/-- The least number of arguments. -/
def minArguments : Builtin → Nat
  | pow => 2
  | _ => 1

/-- The greatest number of arguments, if there is one. -/
def maxArguments? : Builtin → Option Nat
  | min | max => none
  | log | pow => some 2
  | _ => some 1

/-- The number of arguments in words. -/
def arity : Builtin → String
  | min | max => ""
  | log => "one or two"
  | pow => "2"
  | _ => "1"

/-- What a function computes. -/
def description : Builtin → String
  | sin => "Sine of an angle in radians"
  | cos => "Cosine of an angle in radians"
  | tan => "Tangent of an angle in radians"
  | asin => "Arc sine, in radians"
  | acos => "Arc cosine, in radians"
  | atan => "Arc tangent, in radians"
  | sqrt => "Square root"
  | abs => "Absolute value"
  | exp => "e raised to the argument"
  | ln => "Natural logarithm"
  | log => "log(x) is base 10; log(x, base) uses the given base"
  | pow => "pow(base, exponent)"
  | min => "Smallest argument"
  | max => "Largest argument"
  | round => "Nearest integer, halves to even"
  | floor => "Largest integer not above the argument"
  | ceiling => "Smallest integer not below the argument"

/-- Whether a function takes the given number of arguments. -/
def accepts (f : Builtin) (count : Nat) : Bool :=
  decide (f.minArguments ≤ count) && f.maxArguments?.all (count ≤ ·)

/-- The error of a call with an unacceptable number of arguments. -/
def countError (f : Builtin) (count : Nat) : EvalError :=
  if f.maxArguments?.isNone then .noArguments f.name else .argumentCount f.name f.arity count

/-- The numbers in a list of values; quantities are refused. -/
def numbers (f : Builtin) : List Value → Except EvalError (List Float)
  | [] => .ok []
  | .number x :: rest => return x :: (← numbers f rest)
  | .quantity _ :: _ => .error (.quantityArgument f.name)

/-- What is wrong with the arguments, if they are outside of the function's domain. -/
def domainError? (f : Builtin) (xs : List Float) : Option EvalError :=
  match f, xs with
  | asin, x :: _ | acos, x :: _ =>
    if x < -1 || 1 < x then some (.outsideUnitInterval f.name) else none
  | sqrt, x :: _ => if x < 0 then some (.negativeArgument f.name) else none
  | ln, x :: _ => if x ≤ 0 then some (.nonpositiveArgument f.name) else none
  | log, [x] => if x ≤ 0 then some (.nonpositiveArgument f.name) else none
  | log, x :: base :: _ =>
    if x ≤ 0 then some (.nonpositiveArgument f.name)
    else if base ≤ 0 || base == 1 then some (.unusableBase f.name)
    else none
  | _, _ => none

/-- A value that is not a number. -/
def undefined : Float := 0 / 0

/-- A rounding to an integer. -/
def rounded (rule : Decimal.Binary → Int) (x : Float) : Float :=
  match Decimal.round? rule x with
  | some n => Float.ofInt n
  | none => undefined

/-- The value of a function on a list of numbers of acceptable length. -/
def compute : Builtin → List Float → Float
  | sin, [x] => Float.sin x
  | cos, [x] => Float.cos x
  | tan, [x] => Float.tan x
  | asin, [x] => Float.asin x
  | acos, [x] => Float.acos x
  | atan, [x] => Float.atan x
  | sqrt, [x] => Float.sqrt x
  | abs, [x] => Float.abs x
  | exp, [x] => Float.exp x
  | ln, [x] => Float.log x
  | log, [x] => Float.log10 x
  | log, [x, base] => Float.log x / Float.log base
  | pow, [x, y] => Float.pow x y
  | min, x :: xs => xs.foldl (fun least y => if y < least then y else least) x
  | max, x :: xs => xs.foldl (fun greatest y => if greatest < y then y else greatest) x
  | round, [x] => rounded Decimal.Binary.nearest x
  | floor, [x] => rounded Decimal.Binary.floor x
  | ceiling, [x] => rounded Decimal.Binary.ceiling x
  | _, _ => undefined

/-- Calls a function. -/
def call (f : Builtin) (arguments : List Value) : Except EvalError Value :=
  if f.accepts arguments.length then
    match f.numbers arguments with
    | .error e => .error e
    | .ok xs =>
      match f.domainError? xs with
      | some e => .error e
      | none =>
        let x := f.compute xs
        if x.isFinite then .ok (.number x) else .error (.invalidFunction f.name)
  else .error (f.countError arguments.length)

/-- Calls the function with the given name. -/
def callByName (name : String) (arguments : List Value) : Except EvalError Value :=
  match ofName? name with
  | some f => f.call arguments
  | none => .error (.undefinedFunction name)

end Builtin

end Reckon
