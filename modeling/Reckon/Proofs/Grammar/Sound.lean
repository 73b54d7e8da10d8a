import Reckon.Proofs.Grammar

/-!
# What is read is a phrase

Whatever expression is read from some tokens, the tokens that were used derive it in the grammar.
Precedence climbing keeps one invariant while it goes on after a left operand:

* the operand is a phrase of some tier `k`, and an operator that follows takes such a phrase on its
  left (`Admits k`);
* once no operator is taken any more, those that follow are looser than the level asked for
  (`Stops level`).
-/

namespace Reckon

/-- What the tokens say. -/
abbrev lexemes (ts : List Token) : List Lexeme := ts.map (·.lexeme)

/-- An operator at the start of `ts` may have a phrase of tier `k` on its left. -/
def Admits (k : Nat) (ts : List Token) : Prop :=
  ∀ t ∈ ts.head?, ∀ op, t.operator? = some op → op.leftTier ≤ k

/-- An operator at the start of `ts` is looser than the given level. -/
def Stops (level : Nat) (ts : List Token) : Prop :=
  ∀ t ∈ ts.head?, ∀ op, t.operator? = some op → op.level < level

theorem Stops.admits {op : Operator} {ts : List Token} (h : Stops op.rightLevel ts) :
    Admits op.level ts :=
  fun t ht _ hop => Operator.leftTier_le_of_level_lt (h t ht _ hop)

/-- Every operator takes a signed operand on its left. -/
theorem admits_signed (ts : List Token) : Admits 6 ts :=
  fun _ _ op _ => by cases op <;> decide

/-- The tokens that were used are a phrase of tier `k`, and the tree is what was read. -/
def Parsed.IsPhrase {ts : List Token} (k : Nat) (p : Parsed Node ts) : Prop :=
  ∃ used, ts = used ++ p.rest ∧ Phrase k (lexemes used) p.value.bare

/-- The tokens that were used are arguments and a closing parenthesis. -/
def Parsed.IsArguments {ts : List Token} (p : Parsed (List Node × Location) ts) : Prop :=
  ∃ used ls, ts = used ++ p.rest ∧ lexemes used = ls ++ [.symbol .rparen] ∧
    Phrases ls (Node.bareAll p.value.1)

theorem Node.bare_operation (left : Node) (op : Operator) (right : Node) :
    (left.operation op right).bare = .binary left.bare op.text right.bare .nowhere := by
  rw [Node.operation, Node.bare]

mutual

/-- **What is read as an expression is one**, of the tier asked for, and no operator of that tier
follows. -/
theorem parseExpression_sound {room level : Nat} {ts : List Token} {p : Parsed Node ts}
    (h : parseExpression room level ts = .ok p) (hpos : 1 ≤ level) (hle : level ≤ 5) :
    p.IsPhrase level ∧ Stops level p.rest := by
  rw [parseExpression.eq_def] at h
  match room with
  | 0 => cases h
  | room + 1 =>
    simp only at h
    split at h
    · cases h
    · rename_i left hleft
      have hshort := left.shorter
      obtain ⟨used, hts, hphrase⟩ := parseOperand_sound hleft
      exact parseOperations_sound h hts hphrase (by omega) (admits_signed _) hpos
termination_by (ts.length, 2)

theorem parseOperations_sound {room level : Nat} {ts : List Token} {left p : Parsed Node ts}
    (h : parseOperations room level left = .ok p) {used : List Token} {k : Nat}
    (hts : ts = used ++ left.rest) (hphrase : Phrase k (lexemes used) left.value.bare)
    (hk : level ≤ k) (hadmits : Admits k left.rest) (hpos : 1 ≤ level) :
    p.IsPhrase level ∧ Stops level p.rest := by
  rw [parseOperations.eq_def] at h
  have hleft : left.IsPhrase level := ⟨used, hts, hphrase.loosen hpos hk⟩
  split at h
  · rename_i hrest
    cases h
    exact ⟨hleft, by simp [Stops, hrest]⟩
  · rename_i t after hrest
    split at h
    · rename_i hop
      cases h
      exact ⟨hleft, by simp [Stops, hrest, hop]⟩
    · rename_i op hop
      split at h
      · rename_i hlt
        cases h
        refine ⟨hleft, ?_⟩
        simpa [Stops, hrest, hop] using hlt
      · rename_i hge
        split at h
        · cases h
        · rename_i right hright
          have hafter : after.length < left.rest.length := by simp [hrest]
          have hshort : right.rest.length < left.rest.length := Nat.lt_trans right.shorter hafter
          obtain ⟨⟨more, hmore, hr⟩, hstops⟩ :=
            parseExpression_sound hright (Nat.le_trans op.level_pos op.level_le_rightLevel)
              op.rightLevel_le
          have htier : op.leftTier ≤ k := hadmits t (by simp [hrest]) op hop
          have hl := hphrase.loosen (Nat.le_trans op.level_pos op.level_le_leftTier) htier
          have hlex := Token.operator?_eq_some_iff.1 hop
          -- the operation is a phrase of the operator's own tier
          have hall : ts = (used ++ t :: more) ++ right.rest :=
            hts.trans (by simpa [hrest] using hmore)
          have hwhole : Phrase op.level (lexemes (used ++ t :: more))
              (left.value.operation op right.value).bare := by
            rw [Node.bare_operation]
            simpa [hlex] using Phrase.operation op hl hr
          exact parseOperations_sound h hall hwhole (by omega) hstops.admits hpos
termination_by (left.rest.length, 0)

theorem parseOperand_sound {room : Nat} {ts : List Token} {p : Parsed Node ts}
    (h : parseOperand room ts = .ok p) : p.IsPhrase 6 := by
  rw [parseOperand.eq_def] at h
  split at h
  · cases h
  · rename_i t after
    split at h
    · rename_i value unit ht
      cases h
      exact ⟨[t], rfl, by simpa [ht, Node.bare] using .ofPrimary (.number value unit)⟩
    · rename_i name ht
      split at h
      · cases h
        exact ⟨[t], rfl, by simpa [ht, Node.bare] using .ofPrimary (.reference name)⟩
      · rename_i u inner
        split at h
        · rename_i hu
          rw [Token.is_iff] at hu
          split at h
          · cases h
          · rename_i args hargs
            cases h
            -- the arguments are read with the closing parenthesis
            obtain ⟨used, hts, hcall⟩ := parseArguments_sound hargs name
            refine ⟨t :: u :: used, by simpa using hts, ?_⟩
            simpa [ht, hu, Node.bare] using .ofPrimary hcall
        · cases h
          exact ⟨[t], rfl, by simpa [ht, Node.bare] using .ofPrimary (.reference name)⟩
    · rename_i s ht
      split at h
      · rename_i hs
        match room with
        | 0 => cases h
        | room + 1 =>
          simp only at h
          split at h
          · cases h
          · rename_i operand hoperand
            cases h
            obtain ⟨used, hts, hphrase⟩ := parseOperand_sound hoperand
            refine ⟨t :: used, by simpa using hts, ?_⟩
            rcases hs with rfl | rfl
            · simpa [ht, Node.bare] using .plus hphrase
            · simpa [ht, Node.bare] using .minus hphrase
      · split at h
        · rename_i hs
          subst hs
          split at h
          · cases h
          · rename_i inner hinner
            obtain ⟨⟨used, hts, hphrase⟩, -⟩ :=
              parseExpression_sound hinner (Nat.le_refl 1) (by decide)
            split at h
            · cases h
            · rename_i u rest hrest
              split at h
              · rename_i hu
                rw [Token.is_iff] at hu
                cases h
                refine ⟨t :: used ++ [u], by simp [hts, hrest], ?_⟩
                simpa [ht, hu] using .ofPrimary (.parens hphrase)
              · cases h
        · cases h
termination_by (ts.length, 1)

theorem parseArguments_sound {room : Nat} {ts : List Token}
    {p : Parsed (List Node × Location) ts} (h : parseArguments room ts = .ok p) (name : String) :
    ∃ used, ts = used ++ p.rest ∧ Phrase 7 (.name name :: .symbol .lparen :: lexemes used)
      (.call name (Node.bareAll p.value.1) .nowhere) := by
  rw [parseArguments.eq_def] at h
  split at h
  · obtain ⟨used, ls, hts, hls, hphrases⟩ := parseArgumentList_sound h
    exact ⟨used, hts, by rw [hls]; exact .call name hphrases⟩
  · rename_i t after
    split at h
    · rename_i ht
      rw [Token.is_iff] at ht
      cases h
      exact ⟨[t], rfl, by simpa [ht, Node.bareAll] using .callOfNone name⟩
    · obtain ⟨used, ls, hts, hls, hphrases⟩ := parseArgumentList_sound h
      exact ⟨used, hts, by rw [hls]; exact .call name hphrases⟩
termination_by (ts.length, 4)
decreasing_by all_goals grind

theorem parseArgumentList_sound {room : Nat} {ts : List Token}
    {p : Parsed (List Node × Location) ts} (h : parseArgumentList room ts = .ok p) :
    p.IsArguments := by
  rw [parseArgumentList.eq_def] at h
  split at h
  · cases h
  · rename_i first hfirst
    obtain ⟨⟨used, hts, hphrase⟩, -⟩ := parseExpression_sound hfirst (Nat.le_refl 1) (by decide)
    split at h
    · cases h
    · rename_i t rest hrest
      have hshort := first.length_lt_of_rest_eq hrest
      split at h
      · rename_i ht
        rw [Token.is_iff] at ht
        split at h
        · cases h
        · rename_i more hmore
          cases h
          obtain ⟨tail, ls, hrest', htail, hphrases⟩ := parseArgumentList_sound hmore
          refine ⟨used ++ t :: tail, lexemes used ++ .symbol .comma :: ls, ?_, ?_, ?_⟩
          · exact hts.trans (by simpa [hrest] using hrest')
          · simp [ht, htail]
          · simpa [Node.bareAll] using .more hphrase hphrases
      · split at h
        · rename_i ht
          rw [Token.is_iff] at ht
          cases h
          refine ⟨used ++ [t], lexemes used, ?_, ?_, ?_⟩
          · exact hts.trans (by simp [hrest])
          · simp [ht]
          · simpa [Node.bareAll] using .one hphrase
        · cases h
termination_by (ts.length, 3)

end

end Reckon
