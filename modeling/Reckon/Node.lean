import Reckon.Span

/-!
# Syntax trees

A `Node` is a statement or a part of one. Every node knows the text it was read from; nodes made
by hand have the span `Span.nowhere`.
-/

namespace Reckon

/-- A statement or a part of one. Operators are kept as they are written, so that trees made by
hand may hold any. -/
inductive Node where
  /-- A number, with the text of its unit if it has one. -/
  | number (value : Float) (unit : Option String) (span : Span)
  /-- The use of a variable or parameter. -/
  | reference (name : String) (span : Span)
  /-- An operator in front of its operand. -/
  | unary (operator : String) (operand : Node) (span : Span)
  /-- An operator between its operands. -/
  | binary (left : Node) (operator : String) (right : Node) (span : Span)
  /-- The call of a function. -/
  | call (name : String) (arguments : List Node) (span : Span)
  /-- A remark without effect. -/
  | comment (text : String) (span : Span)
  /-- The binding of a variable. -/
  | assignment (name : String) (value : Node) (span : Span)
  /-- The definition of a function. -/
  | definition (name : String) (parameters : List String) (body : Node) (span : Span)
  /-- A node of a form that this calculator does not know. -/
  | unknown (form : String)
deriving Inhabited

namespace Node

/-- The text a node was read from. -/
def span : Node → Span
  | number _ _ s | reference _ s | unary _ _ s | binary _ _ _ s | call _ _ s | comment _ s
  | assignment _ _ s | definition _ _ _ s => s
  | unknown _ => .nowhere

/-- The name of a node's form. -/
def form : Node → String
  | number .. => "Number"
  | reference .. => "Variable"
  | unary .. => "UnaryOp"
  | binary .. => "BinaryOp"
  | call .. => "FunctionCall"
  | comment .. => "Comment"
  | assignment .. => "Assignment"
  | definition .. => "FunctionDefinition"
  | unknown form => form

/-- Whether a node is a comment. -/
def isComment : Node → Bool
  | comment .. => true
  | _ => false

/-- Hands a node to the handler of its form; a form without a handler is an error. -/
def visit {α : Type} (handler? : String → Option (Node → α)) (n : Node) : Except String α :=
  match handler? n.form with
  | some handler => .ok (handler n)
  | none => .error s!"No visitor for {n.form}"

mutual

/-- The tree with every span forgotten. -/
def bare : Node → Node
  | number value unit _ => number value unit .nowhere
  | reference name _ => reference name .nowhere
  | unary operator operand _ => unary operator operand.bare .nowhere
  | binary left operator right _ => binary left.bare operator right.bare .nowhere
  | call name arguments _ => call name (bareAll arguments) .nowhere
  | comment text _ => comment text .nowhere
  | assignment name value _ => assignment name value.bare .nowhere
  | definition name parameters body _ => definition name parameters body.bare .nowhere
  | unknown form => unknown form

/-- Forgets the spans of several trees. -/
def bareAll : List Node → List Node
  | [] => []
  | n :: ns => n.bare :: bareAll ns

end

end Node

end Reckon
