import Reckon.Token

/-!
# Operators and their precedence

Every binary operator has a level of its own; a higher level binds tighter. Subtraction binds
looser than addition and division looser than multiplication, so `10 - 4 + 3` is `10 - (4 + 3)`.
-/

namespace Reckon

/-- The binary operators. -/
inductive Operator where
  | subtract
  | add
  | divide
  | multiply
  | power
deriving DecidableEq

namespace Operator

/-- All operators, the loosest first. -/
def all : List Operator := [subtract, add, divide, multiply, power]

/-- How tightly an operator binds. -/
def level : Operator → Nat
  | subtract => 1
  | add => 2
  | divide => 3
  | multiply => 4
  | power => 5

/-- The level of the loosest operator. -/
def lowestLevel : Nat := 1

/-- The loosest level that may stand on the right of an operator: powers group to the right, all
others to the left. -/
def rightLevel : Operator → Nat
  | power => 5
  | op => op.level + 1

/-- The symbol of an operator. -/
def symbol : Operator → Symbol
  | subtract => .minus
  | add => .plus
  | divide => .slash
  | multiply => .star
  | power => .caret

/-- The operator as it is written. -/
def text (op : Operator) : String := op.symbol.char.toString

/-- The operator with the given symbol. -/
def ofSymbol? : Symbol → Option Operator
  | .minus => some subtract
  | .plus => some add
  | .slash => some divide
  | .star => some multiply
  | .caret => some power
  | _ => none

/-- The operator with the given text. -/
def ofText? (s : String) : Option Operator := all.find? (·.text == s)

end Operator

/-- The operator that a token stands for. -/
def Token.operator? (t : Token) : Option Operator :=
  match t.lexeme with
  | .symbol s => Operator.ofSymbol? s
  | _ => none

/-- Whether a token is the given symbol. -/
def Token.is (t : Token) (s : Symbol) : Bool :=
  match t.lexeme with
  | .symbol s' => s' == s
  | _ => false

theorem Token.is_iff {t : Token} {s : Symbol} : t.is s = true ↔ t.lexeme = .symbol s := by
  unfold Token.is
  split
  · rename_i h; simp [h]
  · rename_i h; simpa using h s

theorem Token.operator?_eq_some_iff {t : Token} {op : Operator} :
    t.operator? = some op ↔ t.lexeme = .symbol op.symbol := by
  unfold Token.operator?
  split
  · rename_i s h
    rw [h]
    cases s <;> cases op <;> simp [Operator.ofSymbol?, Operator.symbol]
  · rename_i h
    simpa using h op.symbol

end Reckon
