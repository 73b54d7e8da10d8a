import Reckon.Proofs.Grammar.Sentence
import Reckon.Proofs.Node

/-!
# The tokens of a node

`ReadFrom ts n` says that the node `n` has been read from the tokens `ts`, and it says where the span
of the node comes from. It is the grammar once more, this time for trees with spans: what the tokens
say and how tightly operators bind is left to `Phrase`, and so is which of the trees is read.

* What is read is read from the tokens that were used (`readFrom_of_parseStatement`).
* Every part of a node has been read from some of the tokens of the node, and from all tokens between
  the first and the last of them (`ReadFrom.of_mem_parts`).
-/

namespace Reckon

mutual

/-- `ReadFrom ts n`: the node `n` has been read from the tokens `ts`, and from all of them. -/
inductive ReadFrom : List Token → Node → Prop where
  | number {t : Token} (value : Float) (unit : Option String) :
      ReadFrom [t] (.number value unit t.span)
  | reference {t : Token} (name : String) : ReadFrom [t] (.reference name t.span)
  | sign {t : Token} {ts : List Token} {n : Node} (operator : String) : ReadFrom ts n →
      ReadFrom (t :: ts) (.unary operator n ⟨t.span.start, n.span.stop⟩)
  | operation {t : Token} {ls rs : List Token} {left right : Node} (op : Operator) :
      ReadFrom ls left → ReadFrom rs right → ReadFrom (ls ++ t :: rs) (left.operation op right)
  | call {t opening closing : Token} {ts : List Token} {arguments : List Node} (name : String) :
      ReadFromAll ts arguments →
      ReadFrom (t :: opening :: (ts ++ [closing]))
        (.call name arguments ⟨t.span.start, closing.span.stop⟩)
  | parens {opening closing : Token} {ts : List Token} {n : Node} : ReadFrom ts n →
      ReadFrom (opening :: (ts ++ [closing])) n
  | assignment {head ts : List Token} {value : Node} (name : String) : head ≠ [] →
      ReadFrom ts value → ReadFrom (head ++ ts) (.assignment name value (spanOf (head ++ ts)))
  | definition {head ts : List Token} {body : Node} (name : String) (parameters : List String) :
      head ≠ [] → ReadFrom ts body →
      ReadFrom (head ++ ts) (.definition name parameters body (spanOf (head ++ ts)))

/-- `ReadFromAll ts ns`: the nodes `ns` have been read from the tokens `ts`, and between two of them
there is a token. -/
inductive ReadFromAll : List Token → List Node → Prop where
  | none : ReadFromAll [] []
  | one {ts : List Token} {n : Node} : ReadFrom ts n → ReadFromAll ts [n]
  | more {t : Token} {ts us : List Token} {n : Node} {ns : List Node} : ReadFrom ts n →
      ReadFromAll us ns → ReadFromAll (ts ++ t :: us) (n :: ns)

end

/-! ### What is read is read from the tokens that were used -/

/-- The value was read from the tokens that were used. -/
def Parsed.IsReading {ts : List Token} (p : Parsed Node ts) : Prop :=
  ∃ used, ts = used ++ p.rest ∧ ReadFrom used p.value

/-- The values were read from the tokens that were used, up to a last token, and the place is the end
of that one. -/
def Parsed.IsReadingOfAll {ts : List Token} (p : Parsed (List Node × Location) ts) : Prop :=
  ∃ used closing, ts = used ++ closing :: p.rest ∧ ReadFromAll used p.value.1 ∧
    p.value.2 = closing.span.stop

mutual

theorem parseExpression_isReading {room level : Nat} {ts : List Token} {p : Parsed Node ts}
    (h : parseExpression room level ts = .ok p) : p.IsReading := by
  rw [parseExpression.eq_def] at h
  match room with
  | 0 => cases h
  | room + 1 =>
    simp only at h
    split at h
    · cases h
    · rename_i left hleft
      have hshort := left.shorter
      exact parseOperations_isReading h (parseOperand_isReading hleft)
termination_by (ts.length, 2)

theorem parseOperations_isReading {room level : Nat} {ts : List Token} {left p : Parsed Node ts}
    (h : parseOperations room level left = .ok p) (hleft : left.IsReading) : p.IsReading := by
  rw [parseOperations.eq_def] at h
  split at h
  · cases h; exact hleft
  · rename_i t after hrest
    split at h
    · cases h; exact hleft
    · rename_i op _
      split at h
      · cases h; exact hleft
      · split at h
        · cases h
        · rename_i right hright
          have hafter : after.length < left.rest.length := by simp [hrest]
          have hshort : right.rest.length < left.rest.length := Nat.lt_trans right.shorter hafter
          obtain ⟨used, hts, hl⟩ := hleft
          obtain ⟨more, hmore, hr⟩ := parseExpression_isReading hright
          -- the operation has been read from both operands and the operator between them
          refine parseOperations_isReading h ⟨used ++ t :: more, ?_, .operation op hl hr⟩
          simpa [hrest, hmore] using hts
termination_by (left.rest.length, 0)

theorem parseOperand_isReading {room : Nat} {ts : List Token} {p : Parsed Node ts}
    (h : parseOperand room ts = .ok p) : p.IsReading := by
  rw [parseOperand.eq_def] at h
  split at h
  · cases h
  · rename_i t after
    split at h
    · rename_i value unit _
      cases h
      exact ⟨[t], rfl, .number value unit⟩
    · rename_i name _
      split at h
      · cases h
        exact ⟨[t], rfl, .reference name⟩
      · rename_i opening inner
        split at h
        · split at h
          · cases h
          · rename_i args hargs
            cases h
            obtain ⟨used, closing, hts, hread, hstop⟩ := parseArguments_isReading hargs
            refine ⟨t :: opening :: (used ++ [closing]), by simpa using hts, ?_⟩
            rw [hstop]
            exact .call name hread
        · cases h
          exact ⟨[t], rfl, .reference name⟩
    · rename_i s _
      split at h
      · match room with
        | 0 => cases h
        | room + 1 =>
          simp only at h
          split at h
          · cases h
          · rename_i operand hoperand
            cases h
            obtain ⟨used, hts, hread⟩ := parseOperand_isReading hoperand
            exact ⟨t :: used, by simpa using hts, .sign _ hread⟩
      · split at h
        · split at h
          · cases h
          · rename_i inner hinner
            obtain ⟨used, hts, hread⟩ := parseExpression_isReading hinner
            split at h
            · cases h
            · rename_i closing rest hrest
              split at h
              · cases h
                exact ⟨t :: (used ++ [closing]), by simp [hts, hrest], .parens hread⟩
              · cases h
        · cases h
termination_by (ts.length, 1)

theorem parseArguments_isReading {room : Nat} {ts : List Token}
    {p : Parsed (List Node × Location) ts} (h : parseArguments room ts = .ok p) :
    p.IsReadingOfAll := by
  rw [parseArguments.eq_def] at h
  split at h
  · exact parseArgumentList_isReading h
  · rename_i t after
    split at h
    · cases h
      exact ⟨[], t, rfl, .none, rfl⟩
    · exact parseArgumentList_isReading h
termination_by (ts.length, 4)
decreasing_by all_goals grind

theorem parseArgumentList_isReading {room : Nat} {ts : List Token}
    {p : Parsed (List Node × Location) ts} (h : parseArgumentList room ts = .ok p) :
    p.IsReadingOfAll := by
  rw [parseArgumentList.eq_def] at h
  split at h
  · cases h
  · rename_i first hfirst
    obtain ⟨used, hts, hread⟩ := parseExpression_isReading hfirst
    split at h
    · cases h
    · rename_i t rest hrest
      have hshort := first.length_lt_of_rest_eq hrest
      split at h
      · split at h
        · cases h
        · rename_i more hmore
          cases h
          -- the comma belongs to no argument
          obtain ⟨tail, closing, hrest', htail, hstop⟩ := parseArgumentList_isReading hmore
          refine ⟨used ++ t :: tail, closing, ?_, .more hread htail, hstop⟩
          exact hts.trans (by simpa [hrest] using hrest')
      · split at h
        · cases h
          exact ⟨used, t, hts.trans (by simp [hrest]), .one hread, rfl⟩
        · cases h
termination_by (ts.length, 3)

end

theorem readFrom_of_parseLast {room : Nat} {ts : List Token} {n : Node}
    (h : parseLast room ts = .ok n) : ReadFrom ts n := by
  unfold parseLast at h
  split at h
  · cases h
  · rename_i p hp
    split at h
    · rename_i hempty
      cases h
      obtain ⟨used, hts, hread⟩ := parseExpression_isReading hp
      rw [List.isEmpty_iff.1 hempty, List.append_nil] at hts
      exact hts ▸ hread
    · cases h

theorem readFrom_of_parseAssignment {room : Nat} {ts : List Token} {n : Node}
    (h : parseAssignment room ts = .ok n) : ReadFrom ts n := by
  obtain ⟨⟨name, afterName⟩, hname, h⟩ := bind_eq_ok_iff.1 h
  obtain ⟨afterEquals, hequals, h⟩ := bind_eq_ok_iff.1 h
  obtain ⟨value, hvalue, h⟩ := bind_eq_ok_iff.1 h
  cases h
  obtain ⟨t, rfl, -⟩ := parseName_eq_ok_iff.1 hname
  obtain ⟨u, rfl, -⟩ := parseSymbol_eq_ok_iff.1 hequals
  have hread : ReadFrom ([t, u] ++ afterEquals)
      (.assignment name value (spanOf ([t, u] ++ afterEquals))) :=
    .assignment name (List.cons_ne_nil _ _) (readFrom_of_parseLast hvalue)
  exact hread

theorem readFrom_of_parseDefinition {room : Nat} {ts : List Token} {n : Node}
    (h : parseDefinition room ts = .ok n) : ReadFrom ts n := by
  obtain ⟨⟨name, afterName⟩, hname, h⟩ := bind_eq_ok_iff.1 h
  obtain ⟨inner, hopening, h⟩ := bind_eq_ok_iff.1 h
  obtain ⟨⟨parameters, afterParameters⟩, hparameters, h⟩ := bind_eq_ok_iff.1 h
  obtain ⟨afterClosing, hclosing, h⟩ := bind_eq_ok_iff.1 h
  obtain ⟨afterEquals, hequals, h⟩ := bind_eq_ok_iff.1 h
  obtain ⟨body, hbody, h⟩ := bind_eq_ok_iff.1 h
  cases h
  obtain ⟨t, rfl, -⟩ := parseName_eq_ok_iff.1 hname
  obtain ⟨u, rfl, -⟩ := parseSymbol_eq_ok_iff.1 hopening
  obtain ⟨c, rfl, -⟩ := parseSymbol_eq_ok_iff.1 hclosing
  obtain ⟨q, rfl, -⟩ := parseSymbol_eq_ok_iff.1 hequals
  obtain ⟨used, rfl⟩ : ∃ used, inner = used ++ c :: q :: afterEquals := by
    rcases parseParameters_sound hparameters with ⟨-, h⟩ | ⟨used, h, -⟩
    · exact ⟨[], h⟩
    · exact ⟨used, h⟩
  let head := t :: u :: (used ++ [c, q])
  have hall : t :: u :: (used ++ c :: q :: afterEquals) = head ++ afterEquals := by simp [head]
  rw [hall]
  exact .definition name parameters (List.cons_ne_nil _ _) (readFrom_of_parseLast hbody)

/-- **A statement is read from all tokens.** -/
theorem readFrom_of_parseStatement {room : Nat} {ts : List Token} {n : Node}
    (h : parseStatement room ts = .ok n) : ReadFrom ts n := by
  have hform := form_of_parseStatement h
  simp only [forms, List.mem_cons, List.not_mem_nil, or_false] at hform
  rcases hform with h | h | h
  · exact readFrom_of_parseDefinition h.symm
  · exact readFrom_of_parseAssignment h.symm
  · exact readFrom_of_parseLast h.symm

/-! ### The tokens of a part -/

mutual

/-- **A child has been read from some of the tokens of its parent**, and from all tokens between the
first and the last of them. -/
theorem ReadFrom.of_mem_children : ∀ {ts : List Token} {n k : Node}, ReadFrom ts n →
    k ∈ n.children → ∃ us, us <:+: ts ∧ ReadFrom us k
  | _, _, _, .number .., hk | _, _, _, .reference .., hk => nomatch hk
  | _, _, k, .sign _ h, hk => by
    obtain rfl := List.mem_singleton.1 hk
    exact ⟨_, (List.suffix_cons _ _).isInfix, h⟩
  | _, _, k, .operation _ hl hr, hk => by
    simp only [Node.operation, Node.children, List.mem_cons, List.not_mem_nil, or_false] at hk
    rcases hk with rfl | rfl
    · exact ⟨_, (List.prefix_append _ _).isInfix, hl⟩
    · exact ⟨_, ((List.suffix_cons _ _).trans (List.suffix_append _ _)).isInfix, hr⟩
  | _, _, k, .call _ h, hk => by
    obtain ⟨us, hus, hread⟩ := h.of_mem hk
    exact ⟨us, hus.trans (List.infix_append' [_, _] _ [_]), hread⟩
  | _, _, k, .parens h, hk => by
    obtain ⟨us, hus, hread⟩ := h.of_mem_children hk
    exact ⟨us, hus.trans (List.infix_append' [_] _ [_]), hread⟩
  | _, _, k, .assignment _ _ h, hk | _, _, k, .definition _ _ _ h, hk => by
    obtain rfl := List.mem_singleton.1 hk
    exact ⟨_, (List.suffix_append _ _).isInfix, h⟩

theorem ReadFromAll.of_mem : ∀ {ts : List Token} {ns : List Node} {k : Node}, ReadFromAll ts ns →
    k ∈ ns → ∃ us, us <:+: ts ∧ ReadFrom us k
  | _, _, _, .none, hk => nomatch hk
  | _, _, k, .one h, hk => by
    obtain rfl := List.mem_singleton.1 hk
    exact ⟨_, List.infix_rfl, h⟩
  | _, _, k, .more h hs, hk => by
    rcases List.mem_cons.1 hk with rfl | hk
    · exact ⟨_, (List.prefix_append _ _).isInfix, h⟩
    · obtain ⟨us, hus, hread⟩ := hs.of_mem hk
      exact ⟨us, hus.trans ((List.suffix_cons _ _).trans (List.suffix_append _ _)).isInfix, hread⟩

end

/-- **So has every part.** -/
theorem ReadFrom.of_mem_parts {ts : List Token} {n m : Node} (h : ReadFrom ts n)
    (hm : m ∈ n.parts) : ∃ us, us <:+: ts ∧ ReadFrom us m := by
  have hstep : ∀ p : Node, (∃ us, us <:+: ts ∧ ReadFrom us p) →
      ∀ k ∈ p.children, ∃ us, us <:+: ts ∧ ReadFrom us k := by
    rintro p ⟨us, hus, hp⟩ k hk
    obtain ⟨vs, hvs, hread⟩ := hp.of_mem_children hk
    exact ⟨vs, hvs.trans hus, hread⟩
  exact Node.forall_mem_parts hstep n ⟨ts, List.infix_rfl, h⟩ m hm

end Reckon
