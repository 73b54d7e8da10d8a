import Reckon.Decimal.Layout
import Reckon.Node
import Reckon.Text.Quoted

/-!
# Trees as indented text

`Node.dump` writes a node as the name of its form followed by its fields, one per line. A field
that holds nodes is followed by them, indented by two more steps.
-/

namespace Reckon.Node

/-- A line at the given number of indentation steps. -/
def indented (indent : Nat) (text : String) : String :=
  String.ofList (List.replicate (2 * indent) ' ') ++ text

/-- A list of names between parentheses; a single one is followed by a comma. -/
def showNames : List String → String
  | [] => "()"
  | [name] => s!"({Text.quote name},)"
  | names => "(" ++ ", ".intercalate (names.map Text.quote) ++ ")"

/-- How an optional text is shown. -/
def showUnit : Option String → String
  | some unit => Text.quote unit
  | none => "None"

mutual

/-- The lines of a node that is indented by `indent` steps. -/
def dumpLines (indent : Nat) : Node → List String
  | number value unit _ =>
    [indented indent "Number", indented indent s!"  value: {Decimal.write value}",
      indented indent s!"  unit: {showUnit unit}"]
  | reference name _ =>
    [indented indent "Variable", indented indent s!"  name: {Text.quote name}"]
  | unary operator operand _ =>
    [indented indent "UnaryOp", indented indent s!"  operator: {Text.quote operator}",
      indented indent "  operand:"] ++ operand.dumpLines (indent + 2)
  | binary left operator right _ =>
    [indented indent "BinaryOp", indented indent "  left:"] ++ left.dumpLines (indent + 2) ++
      [indented indent s!"  operator: {Text.quote operator}", indented indent "  right:"] ++
      right.dumpLines (indent + 2)
  | call name [] _ =>
    [indented indent "FunctionCall", indented indent s!"  name: {Text.quote name}",
      indented indent "  arguments: ()"]
  | call name (first :: rest) _ =>
    [indented indent "FunctionCall", indented indent s!"  name: {Text.quote name}",
      indented indent "  arguments: ["] ++ first.dumpLines (indent + 2) ++
      dumpAll (indent + 2) rest ++ [indented indent "  ]"]
  | comment text _ =>
    [indented indent "Comment", indented indent s!"  text: {Text.quote text}"]
  | assignment name value _ =>
    [indented indent "Assignment", indented indent s!"  name: {Text.quote name}",
      indented indent "  value:"] ++ value.dumpLines (indent + 2)
  | definition name parameters body _ =>
    [indented indent "FunctionDefinition", indented indent s!"  name: {Text.quote name}",
      indented indent s!"  parameters: {showNames parameters}", indented indent "  body:"] ++
      body.dumpLines (indent + 2)
  | unknown form => [indented indent form]

/-- The lines of several nodes, one after the other. -/
def dumpAll (indent : Nat) : List Node → List String
  | [] => []
  | n :: ns => n.dumpLines indent ++ dumpAll indent ns

end

/-- The tree as indented text. -/
def dump (n : Node) : String := "\n".intercalate (n.dumpLines 0)

/-- The tree as it is printed, with a line feed at the end. -/
def printed (n : Node) : String := n.dump ++ "\n"

end Reckon.Node
