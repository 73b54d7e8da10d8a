import Reckon.Statement

/-!
# The grammar of statements

Which lists of lexemes are statements, and of which tree. The trees are bare: they have no spans.
The grammar has one tier for each operator, a tier for signs and one for what stands alone:

* tier 1 is `E₁ := E₁ - E₂ | E₂`, tier 2 is `E₂ := E₂ + E₃ | E₃`, tier 3 is `E₃ := E₃ / E₄ | E₄`,
  tier 4 is `E₄ := E₄ * E₅ | E₅`, tier 5 is `E₅ := U ^ E₅ | U`;
* tier 6 is `U := + U | - U | P`;
* tier 7 is `P := NUMBER | NAME | NAME ( [E₁ {, E₁}] ) | ( E₁ )`.

Nothing here mentions how statements are read. The facts below let a reader treat all five operators
alike: `Phrase.loosen` goes down the tiers, and `Phrase.operation` joins two operands.
-/

namespace Reckon

deriving instance DecidableEq for Lexeme

mutual

/-- `Phrase k ls t`: the lexemes `ls` are an expression of tier `k`, and `t` is its tree. -/
inductive Phrase : Nat → List Lexeme → Node → Prop where
  | subtract {l r : List Lexeme} {a b : Node} : Phrase 1 l a → Phrase 2 r b →
      Phrase 1 (l ++ .symbol .minus :: r) (.binary a "-" b .nowhere)
  | ofSum {ls : List Lexeme} {t : Node} : Phrase 2 ls t → Phrase 1 ls t
  | add {l r : List Lexeme} {a b : Node} : Phrase 2 l a → Phrase 3 r b →
      Phrase 2 (l ++ .symbol .plus :: r) (.binary a "+" b .nowhere)
  | ofQuotient {ls : List Lexeme} {t : Node} : Phrase 3 ls t → Phrase 2 ls t
  | divide {l r : List Lexeme} {a b : Node} : Phrase 3 l a → Phrase 4 r b →
      Phrase 3 (l ++ .symbol .slash :: r) (.binary a "/" b .nowhere)
  | ofProduct {ls : List Lexeme} {t : Node} : Phrase 4 ls t → Phrase 3 ls t
  | multiply {l r : List Lexeme} {a b : Node} : Phrase 4 l a → Phrase 5 r b →
      Phrase 4 (l ++ .symbol .star :: r) (.binary a "*" b .nowhere)
  | ofPower {ls : List Lexeme} {t : Node} : Phrase 5 ls t → Phrase 4 ls t
  | power {l r : List Lexeme} {a b : Node} : Phrase 6 l a → Phrase 5 r b →
      Phrase 5 (l ++ .symbol .caret :: r) (.binary a "^" b .nowhere)
  | ofSigned {ls : List Lexeme} {t : Node} : Phrase 6 ls t → Phrase 5 ls t
  | plus {ls : List Lexeme} {t : Node} : Phrase 6 ls t →
      Phrase 6 (.symbol .plus :: ls) (.unary "+" t .nowhere)
  | minus {ls : List Lexeme} {t : Node} : Phrase 6 ls t →
      Phrase 6 (.symbol .minus :: ls) (.unary "-" t .nowhere)
  | ofPrimary {ls : List Lexeme} {t : Node} : Phrase 7 ls t → Phrase 6 ls t
  | number (value : Float) (unit : Option String) :
      Phrase 7 [.number value unit] (.number value unit .nowhere)
  | reference (name : String) : Phrase 7 [.name name] (.reference name .nowhere)
  | callOfNone (name : String) :
      Phrase 7 [.name name, .symbol .lparen, .symbol .rparen] (.call name [] .nowhere)
  | call (name : String) {ls : List Lexeme} {args : List Node} : Phrases ls args →
      Phrase 7 (.name name :: .symbol .lparen :: ls ++ [.symbol .rparen]) (.call name args .nowhere)
  | parens {ls : List Lexeme} {t : Node} : Phrase 1 ls t →
      Phrase 7 (.symbol .lparen :: ls ++ [.symbol .rparen]) t

/-- `Phrases ls ts`: the lexemes `ls` are one or more expressions with commas between them. -/
inductive Phrases : List Lexeme → List Node → Prop where
  | one {ls : List Lexeme} {t : Node} : Phrase 1 ls t → Phrases ls [t]
  | more {l ls : List Lexeme} {t : Node} {ts : List Node} : Phrase 1 l t → Phrases ls ts →
      Phrases (l ++ .symbol .comma :: ls) (t :: ts)

end

/-- `Names ls ns`: the lexemes `ls` are the names `ns`, one or more, with commas between them. -/
inductive Names : List Lexeme → List String → Prop where
  | one (name : String) : Names [.name name] [name]
  | more (name : String) {ls : List Lexeme} {ns : List String} : Names ls ns →
      Names (.name name :: .symbol .comma :: ls) (name :: ns)

/-- `Sentence ls t`: the lexemes `ls` are a statement, and `t` is its tree. -/
inductive Sentence : List Lexeme → Node → Prop where
  | definitionOfNone (name : String) {ls : List Lexeme} {body : Node} : Phrase 1 ls body →
      Sentence (.name name :: .symbol .lparen :: .symbol .rparen :: .symbol .assign :: ls)
        (.definition name [] body .nowhere)
  | definition (name : String) {ps ls : List Lexeme} {parameters : List String} {body : Node} :
      Names ps parameters → Phrase 1 ls body →
      Sentence (.name name :: .symbol .lparen :: ps ++ .symbol .rparen :: .symbol .assign :: ls)
        (.definition name parameters body .nowhere)
  | assignment (name : String) {ls : List Lexeme} {value : Node} : Phrase 1 ls value →
      Sentence (.name name :: .symbol .assign :: ls) (.assignment name value .nowhere)
  | expression {ls : List Lexeme} {t : Node} : Phrase 1 ls t → Sentence ls t

/-- The tier of what may stand on the left of an operator: powers take signed operands only, all
others take their own tier. -/
def Operator.leftTier : Operator → Nat
  | power => 6
  | op => op.level

theorem Operator.level_pos (op : Operator) : 1 ≤ op.level := by cases op <;> decide

theorem Operator.level_le_leftTier (op : Operator) : op.level ≤ op.leftTier := by
  cases op <;> decide

theorem Operator.level_le_rightLevel (op : Operator) : op.level ≤ op.rightLevel := by
  cases op <;> decide

theorem Operator.rightLevel_le (op : Operator) : op.rightLevel ≤ 5 := by cases op <;> decide

/-- What stops the right operand of an operator may follow the whole operation. -/
theorem Operator.leftTier_le_of_level_lt {op next : Operator} (h : next.level < op.rightLevel) :
    next.leftTier ≤ op.level := by
  revert h; cases op <;> cases next <;> decide

/-- What may follow an operation of tier `op.level` stops its right operand. -/
theorem Operator.level_lt_of_leftTier_le {op next : Operator} (h : next.leftTier ≤ op.level) :
    next.level < op.rightLevel := by
  revert h; cases op <;> cases next <;> decide

namespace Phrase

/-- A phrase of some tier is one of every looser tier. -/
theorem loosen {j k : Nat} {ls : List Lexeme} {t : Node} (hj : 1 ≤ j) (hjk : j ≤ k) :
    Phrase k ls t → Phrase j ls t := by
  induction hjk with
  | refl => exact id
  | @step k hjk ih =>
    intro h
    apply ih
    have hk : 1 ≤ k := Nat.le_trans hj hjk
    -- below tier 1 there is nothing to loosen, above tier 7 there are no phrases
    match k, h with
    | 1, h => exact .ofSum h
    | 2, h => exact .ofQuotient h
    | 3, h => exact .ofProduct h
    | 4, h => exact .ofPower h
    | 5, h => exact .ofSigned h
    | 6, h => exact .ofPrimary h

/-- Two operands of the right tiers with an operator between them are a phrase of its tier. -/
theorem operation (op : Operator) {l r : List Lexeme} {a b : Node}
    (ha : Phrase op.leftTier l a) (hb : Phrase op.rightLevel r b) :
    Phrase op.level (l ++ .symbol op.symbol :: r) (.binary a op.text b .nowhere) := by
  cases op with
  | subtract => exact .subtract ha hb
  | add => exact .add ha hb
  | divide => exact .divide ha hb
  | multiply => exact .multiply ha hb
  | power => exact .power ha hb

end Phrase

mutual

/-- No expression has an equals sign. -/
theorem Phrase.assign_not_mem : ∀ {k : Nat} {ls : List Lexeme} {t : Node}, Phrase k ls t →
    .symbol .assign ∉ ls
  | _, _, _, .subtract ha hb | _, _, _, .add ha hb | _, _, _, .divide ha hb
  | _, _, _, .multiply ha hb | _, _, _, .power ha hb => by
    have := ha.assign_not_mem
    have := hb.assign_not_mem
    simp_all
  | _, _, _, .ofSum h | _, _, _, .ofQuotient h | _, _, _, .ofProduct h | _, _, _, .ofPower h
  | _, _, _, .ofSigned h | _, _, _, .ofPrimary h => h.assign_not_mem
  | _, _, _, .plus h | _, _, _, .minus h | _, _, _, .parens h => by
    have := h.assign_not_mem
    simp_all
  | _, _, _, .number .. | _, _, _, .reference .. | _, _, _, .callOfNone .. => by simp
  | _, _, _, .call _ h => by
    have := h.assign_not_mem
    simp_all

/-- Nor has a list of expressions. -/
theorem Phrases.assign_not_mem : ∀ {ls : List Lexeme} {ts : List Node}, Phrases ls ts →
    .symbol .assign ∉ ls
  | _, _, .one h => h.assign_not_mem
  | _, _, .more h hs => by
    have := h.assign_not_mem
    have := hs.assign_not_mem
    simp_all

end

/-- An expression starts with a lexeme other than a closing parenthesis. -/
theorem Phrase.exists_cons : ∀ {k : Nat} {ls : List Lexeme} {t : Node}, Phrase k ls t →
    ∃ x xs, ls = x :: xs ∧ x ≠ .symbol .rparen
  | _, _, _, .subtract ha _ | _, _, _, .add ha _ | _, _, _, .divide ha _
  | _, _, _, .multiply ha _ | _, _, _, .power ha _ => by
    obtain ⟨x, xs, rfl, hx⟩ := ha.exists_cons
    exact ⟨x, _, rfl, hx⟩
  | _, _, _, .ofSum h | _, _, _, .ofQuotient h | _, _, _, .ofProduct h | _, _, _, .ofPower h
  | _, _, _, .ofSigned h | _, _, _, .ofPrimary h => h.exists_cons
  | _, _, _, .plus _ | _, _, _, .minus _ | _, _, _, .parens _ | _, _, _, .number ..
  | _, _, _, .reference .. | _, _, _, .callOfNone .. | _, _, _, .call .. => ⟨_, _, rfl, by simp⟩

theorem Phrases.exists_cons {ls : List Lexeme} {ts : List Node} (h : Phrases ls ts) :
    ∃ x xs, ls = x :: xs ∧ x ≠ .symbol .rparen := by
  cases h with
  | one h => exact h.exists_cons
  | more h _ =>
    obtain ⟨x, xs, rfl, hx⟩ := h.exists_cons
    exact ⟨x, _, rfl, hx⟩

end Reckon
