import Reckon.Unit.Token

/-!
# Unit expressions

Products, quotients and powers of unit names, such as `kg*m/s^2`. Powers bind tightest and group
to the right, then come signs, then products and quotients from left to right, and last sums, which
only numbers have. Two operands next to each other are multiplied.

`UnitExpr.climb` reads operators by their levels: it takes an operator only if that binds more
tightly than the one it was called for.
-/

namespace Reckon

/-- A unit expression. -/
inductive UnitExpr where
  | atom (a : UnitAtom)
  | sign (o : UnitOperator) (e : UnitExpr)
  | binary (a : UnitExpr) (o : UnitOperator) (b : UnitExpr)

/-- Why a text is no unit. -/
inductive UnitFault where
  /-- It is malformed, has a factor other than one, or holds an unknown name. -/
  | unrecognized
  /-- It cannot even be worked out. -/
  | abort (a : Abort)

namespace UnitExpr

/-- An expression with its height, which bounds how deep working it out goes. -/
structure Tree where
  /-- The expression. -/
  expr : UnitExpr
  /-- The number of levels. -/
  height : Nat

/-- Two expressions joined by an operator. -/
def Tree.join (a : Tree) (o : UnitOperator) (b : Tree) : Tree :=
  ⟨.binary a.expr o b.expr, max a.height b.height + 1⟩

/-- A sign before an expression. -/
def Tree.signed (o : UnitOperator) (a : Tree) : Tree := ⟨.sign o a.expr, a.height + 1⟩

/-- The expression on the left of a bracket or an operand, multiplied by it. -/
def Tree.juxtapose (left : Option Tree) (right : Tree) : Tree :=
  match left with
  | some left => left.join .multiply right
  | none => right

/-- How deep an expression may be nested. -/
def depthLimit : Nat := 950

/-- The outcome of reading a part of an expression from at most `n` words: the tree and the words
after it. -/
abbrev Reading (n : Nat) := Except UnitFault (Tree × { rest : List UnitToken // rest.length ≤ n })

/-- Goes on reading after `left`, up to a closing bracket or an operator that binds no more tightly
than `level`. A bracket right after an operand belongs to it whatever the level. -/
def climb (room level n : Nat) (left : Option Tree) (ts : List UnitToken) (h : ts.length ≤ n) :
    Reading n :=
  match room with
  | 0 => .error (.abort .tooDeep)
  | room + 1 =>
    match ts, left with
    | [], none | .closing :: _, none => .error .unrecognized
    | [], some left => .ok (left, ⟨[], Nat.zero_le n⟩)
    | .closing :: rest, some left => .ok (left, ⟨.closing :: rest, h⟩)
    | .curly _ :: rest, left => climb (room + 1) level n left rest (Nat.le_of_succ_le h)
    | .opening :: rest, left =>
      match climb room 0 rest.length none rest (Nat.le_refl _) with
      | .error e => .error e
      | .ok (inner, ⟨.closing :: after, ha⟩) =>
        climb (room + 1) level n (some (Tree.juxtapose left inner)) after
          (Nat.le_trans (Nat.le_of_succ_le ha) (Nat.le_of_succ_le h))
      | .ok _ => .error .unrecognized
    | .operator o :: rest, none =>
      match climb room UnitOperator.signLevel rest.length none rest (Nat.le_refl _) with
      | .error e => .error e
      | .ok (right, ⟨after, ha⟩) =>
        climb (room + 1) level n (some (right.signed o)) after
          (Nat.le_trans ha (Nat.le_of_succ_le h))
    | .operator o :: rest, some left =>
      if o.level ≤ level ∧ o ≠ .power then .ok (left, ⟨.operator o :: rest, h⟩)
      else
        match climb room o.level rest.length none rest (Nat.le_refl _) with
        | .error e => .error e
        | .ok (right, ⟨after, ha⟩) =>
          climb (room + 1) level n (some (left.join o right)) after
            (Nat.le_trans ha (Nat.le_of_succ_le h))
    | .atom a :: rest, none =>
      climb (room + 1) level n (some ⟨.atom a, 1⟩) rest (Nat.le_of_succ_le h)
    | .atom a :: rest, some left =>
      if UnitOperator.multiply.level ≤ level then .ok (left, ⟨.atom a :: rest, h⟩)
      else
        match climb room UnitOperator.multiply.level rest.length (some ⟨.atom a, 1⟩) rest
            (Nat.le_refl _) with
        | .error e => .error e
        | .ok (right, ⟨after, ha⟩) =>
          climb (room + 1) level n (some (left.join .multiply right)) after
            (Nat.le_trans ha (Nat.le_of_succ_le h))
termination_by ts.length
decreasing_by all_goals grind

/-- Reads a text as a unit expression. -/
def parse (text : String) : Except UnitFault UnitExpr :=
  match UnitToken.scan? (Wording.spellOut text.toList) with
  | none => .error .unrecognized
  | some ts =>
    if UnitToken.balance ts ≠ 0 then .error .unrecognized
    else
      match climb depthLimit 0 ts.length none ts (Nat.le_refl _) with
      | .error e => .error e
      | .ok (tree, ⟨[], _⟩) =>
        if depthLimit < tree.height then .error (.abort .tooDeep) else .ok tree.expr
      | .ok _ => .error .unrecognized

end UnitExpr

end Reckon
