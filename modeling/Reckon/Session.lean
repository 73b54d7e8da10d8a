import Reckon.Arithmetic
import Reckon.Builtin
import Reckon.Catalog
import Reckon.Context
import Reckon.Line

/-!
# Sessions

A session keeps the variables, the user functions and the units that statements have made known.
`eval` works a statement out; it ends because a call uses up one of the calls that may be open and
everything else goes to a smaller part of the statement.
-/

namespace Reckon

/-- A user function. -/
structure UserFunction where
  /-- The name as it was last written. -/
  name : String
  /-- The names of the parameters. -/
  parameters : List String
  /-- What a call evaluates to. -/
  body : Node

/-- The state that statements share. -/
structure Session where
  /-- The variables. -/
  context : Context
  /-- The user functions by their folded names. -/
  functions : Table UserFunction
  /-- The units. -/
  catalog : Catalog

/-- How deep parts of statements and calls may be nested. -/
structure Room where
  /-- How many levels are left; `none` if their number is not limited. -/
  levels : Option Nat
  /-- How many levels have to be left for a call to be entered, by the number of calls that are open
  before. -/
  entry : Int → Nat

namespace Room

/-- Nesting without a limit. -/
def unlimited : Room := ⟨none, fun _ => 0⟩

/-- The room one level further in; `none` if there is none. -/
def deeper (room : Room) : Option Room :=
  match room.levels with
  | none => some room
  | some 0 => none
  | some (n + 1) => some { room with levels := some n }

/-- Whether a call can be entered while `depth` calls are open. -/
def admits (room : Room) (depth : Int) : Bool := room.levels.all (room.entry depth ≤ ·)

@[simp] theorem deeper_unlimited : unlimited.deeper = some unlimited := rfl

@[simp] theorem admits_unlimited (depth : Int) : unlimited.admits depth = true := rfl

end Room

/-- How far an evaluation may go. -/
structure Limits where
  /-- How many calls of user functions may be open at once. -/
  calls : Int
  /-- How deep parts of statements and calls may be nested. -/
  nesting : Room

/-- The limits that apply if nothing else is said. The outermost call takes two levels to enter. -/
def Limits.standard : Limits := ⟨50, some 1000, fun depth => if depth = 0 then 2 else 0⟩

namespace Session

/-- A session without variables and functions. -/
def fresh (catalog : Catalog) : Session := ⟨.empty, [], catalog⟩

/-- Forgets all variables and functions. -/
def clear (s : Session) : Session := { s with context := s.context.reset, functions := [] }

/-- Binds a variable in the current frame. -/
def bind (s : Session) (name : String) (value : Value) : Session :=
  { s with context := s.context.set name value }

/-- Binds parameters to arguments, one after the other. -/
def bindAll (s : Session) : List (String × Value) → Session
  | [] => s
  | (name, value) :: rest => (s.bind name value).bindAll rest

/-- Begins a call, and does not get to its body. -/
def begin (s : Session) (f : UserFunction) : Session :=
  { s with context := s.context.begin f.name }

/-- Enters a call and binds the parameters. -/
def enter (s : Session) (f : UserFunction) (arguments : List Value) : Session :=
  ({ s with context := s.context.enter f.name } : Session).bindAll (f.parameters.zip arguments)

/-- Leaves the innermost call. -/
def leave (s : Session) : Session := { s with context := s.context.leave }

/-- The user function with the given name. -/
def function? (s : Session) (name : String) : Option UserFunction :=
  Table.get? s.functions (Text.fold name)

/-- Whether two parameters have the same name. -/
def hasDuplicates (parameters : List String) : Bool :=
  decide ¬(parameters.map Text.fold).Nodup

/-- Stores a function definition. -/
def define (s : Session) (name : String) (parameters : List String) (body : Node) :
    Except Failure Value × Session :=
  if hasDuplicates parameters then (.error (.error (.duplicateParameter name)), s)
  else
    (.ok (.number 0),
      { s with functions := Table.insert s.functions (Text.fold name) ⟨name, parameters, body⟩ })

/-- The value of a number with an optional unit. -/
def literal (s : Session) (x : Float) (unit : Option String) : Except Failure Value × Session :=
  match unit with
  | none => (.ok (.number x), s)
  | some text =>
    if Text.isBlankText text then (.ok (.number x), s)
    else
      match s.catalog.resolve text with
      | (.ok units, c) => (.ok (.quantity ⟨x, units⟩), { s with catalog := c })
      | (.error e, c) => (.error e, { s with catalog := c })

/-- The value of a variable. -/
def fetch (s : Session) (name : String) : Except Failure Value :=
  match s.context.get? name with
  | some v => .ok v
  | none => .error (.error (.undefinedVariable name))

/-- The outcome of a built-in function. -/
def lift (outcome : Except EvalError Value) : Except Failure Value := outcome.mapError .error

/-- Applies a binary operator; what it finds out about units is kept. -/
def operate (s : Session) (operator : String) (left right : Value) :
    Except Failure Value × Session :=
  let (outcome, memory) := Arithmetic.binary s.catalog.memory operator left right
  (outcome, { s with catalog := { s.catalog with memory := memory } })

mutual

/-- Evaluates a node in a session. At most `calls` further calls may be opened; `room` is the depth
of nesting that is left. A call for whose entry there is not enough of it stays begun. -/
def eval (calls : Nat) (room : Room) (s : Session) (n : Node) :
    Except Failure Value × Session :=
  match room.deeper with
  | none => (.error (.error .nesting), s)
  | some room =>
    match n with
    | .number x unit _ => s.literal x unit
    | .reference name _ => (s.fetch name, s)
    | .comment _ _ => (.ok (.number 0), s)
    | .unknown form => (.error (.error (.unsupportedNode form)), s)
    | .definition name parameters body _ => s.define name parameters body
    | .unary operator operand _ =>
      match eval calls room s operand with
      | (.ok v, s) => (Arithmetic.unary operator v, s)
      | (.error e, s) => (.error e, s)
    | .binary left operator right _ =>
      match eval calls room s left with
      | (.error e, s) => (.error e, s)
      | (.ok l, s) =>
        match eval calls room s right with
        | (.error e, s) => (.error e, s)
        | (.ok r, s) => s.operate operator l r
    | .assignment name value _ =>
      match eval calls room s value with
      | (.error e, s) => (.error e, s)
      | (.ok v, s) => (.ok v, s.bind name v)
    | .call name arguments _ =>
      match evalAll calls room s arguments with
      | (.error e, s) => (.error e, s)
      | (.ok values, s) =>
        match Builtin.ofName? name with
        | some f => (lift (f.call values), s)
        | none =>
          match s.function? name with
          | none => (.error (.error (.undefinedFunction name)), s)
          | some f =>
            if f.parameters.length ≠ values.length then
              let expected := toString f.parameters.length
              (.error (.error (.argumentCount name expected values.length)), s)
            else
              match calls with
              | 0 => (.error (.error (.callDepth name)), s)
              | calls + 1 =>
                if room.admits s.context.depth then
                  let (outcome, s) := eval calls room (s.enter f values) f.body
                  (outcome, s.leave)
                else (.error (.error .nesting), s.begin f)
termination_by (calls, sizeOf n)

/-- Evaluates nodes from left to right, up to the first that fails. -/
def evalAll (calls : Nat) (room : Room) (s : Session) (ns : List Node) :
    Except Failure (List Value) × Session :=
  match ns with
  | [] => (.ok [], s)
  | n :: rest =>
    match eval calls room s n with
    | (.error e, s) => (.error e, s)
    | (.ok v, s) =>
      match evalAll calls room s rest with
      | (.error e, s) => (.error e, s)
      | (.ok vs, s) => (.ok (v :: vs), s)
termination_by (calls, sizeOf ns)

end

/-- The number of further calls that may be opened. -/
def callsLeft (s : Session) (limits : Limits) : Nat := (limits.calls - s.context.depth).toNat

/-- Evaluates a node. The text of a unit that is nested too deeply counts as a statement that is. -/
def evaluate (s : Session) (limits : Limits) (n : Node) : Except Abort Result × Session :=
  match eval (s.callsLeft limits) limits.nesting s n with
  | (.ok v, s) => (.ok (.value v), s)
  | (.error (.error e), s) => (.ok (.ofError e), s)
  | (.error (.abort .tooDeep), s) => (.ok (.ofError .nesting), s)
  | (.error (.abort a), s) => (.error a, s)

/-- Reads and evaluates a statement. -/
def evaluateText (s : Session) (limits : Limits) (text : String) : Except Abort Result × Session :=
  match parseSingle text with
  | .error d => (.ok (.ofMessage (some d.summary) .parse), s)
  | .ok n => s.evaluate limits n

/-- The variables of the session in order of first binding. -/
def globals (s : Session) : List Binding := Table.values s.context.globals

/-- The user functions in order of first definition. -/
def userFunctions (s : Session) : List UserFunction := Table.values s.functions

end Session

end Reckon
