import Reckon.Proofs.Grammar.Sound

/-!
# Every phrase is read

Tokens that derive a tree are read as this tree, whatever follows them that could not go on with it.
The nesting limit is the only other outcome: `Reads` allows for it.

Reading goes from left to right and a phrase of a left-associative tier has its longest part on the
left, so `ReadsExpression` says what happens up to the point where the phrase has been read and the
reader looks for further operators.
-/

namespace Reckon

/-- The outcome satisfies `Q`, or there was no room for another level of nesting. -/
def Reads {α : Type} {ts : List Token} (outcome : Except ParseError (Parsed α ts))
    (Q : α → List Token → Prop) : Prop :=
  match outcome with
  | .ok p => Q p.value p.rest
  | .error e => e.reason = .tooDeep

/-- No opening parenthesis, which would make a call of a name before it. -/
def NoCall (ts : List Token) : Prop := ∀ t ∈ ts.head?, t.lexeme ≠ .symbol .lparen

/-- From tokens that say `ls` an operand `t` is read. -/
def ReadsOperand (ls : List Lexeme) (t : Node) : Prop :=
  ∀ ⦃room : Nat⦄ ⦃ts used rest : List Token⦄, ts = used ++ rest → lexemes used = ls → NoCall rest →
    Reads (parseOperand room ts) fun n r => n.bare = t ∧ r = rest

/-- From tokens that say `ls` a phrase `t` of tier `k` is read, and then the reader goes on with `t`
as left operand. -/
def ReadsExpression (k : Nat) (ls : List Lexeme) (t : Node) : Prop :=
  ∀ ⦃room level : Nat⦄ ⦃ts used rest : List Token⦄ ⦃Q : Node → List Token → Prop⦄,
    ts = used ++ rest → lexemes used = ls → NoCall rest → Admits k rest → level ≤ k →
    (∀ left : Parsed Node ts, left.value.bare = t → left.rest = rest →
      Reads (parseOperations room level left) Q) →
    Reads (parseExpression (room + 1) level ts) Q

theorem Admits.mono {j k : Nat} {ts : List Token} (hjk : j ≤ k) (h : Admits j ts) : Admits k ts :=
  fun t ht op hop => Nat.le_trans (h t ht op hop) hjk

theorem ReadsExpression.mono {j k : Nat} {ls : List Lexeme} {t : Node} (hjk : j ≤ k)
    (h : ReadsExpression k ls t) : ReadsExpression j ls t :=
  fun _ _ _ _ _ _ hts hls hcall hadmits hlevel hQ =>
    h hts hls hcall (hadmits.mono hjk) (Nat.le_trans hlevel hjk) hQ

theorem ReadsOperand.expression {k : Nat} {ls : List Lexeme} {t : Node} (h : ReadsOperand ls t) :
    ReadsExpression k ls t := by
  intro room level ts used rest Q hts hls hcall _ _ hQ
  have hoperand : Reads (parseOperand room ts) _ := h hts hls hcall
  rw [parseExpression.eq_def]
  simp only
  revert hoperand
  cases parseOperand room ts with
  | error e => exact id
  | ok left => exact fun hleft => hQ left hleft.1 hleft.2

/-- Where no operator of the level follows, the left operand is all. -/
theorem parseOperations_of_stops {room level : Nat} {ts : List Token} {left : Parsed Node ts}
    (h : Stops level left.rest) : parseOperations room level left = .ok left := by
  rw [parseOperations.eq_def]
  split
  · rfl
  · rename_i t after hrest
    split
    · rfl
    · rename_i op hop
      rw [if_pos (h t (by simp [hrest]) op hop)]

/-- Where such an operator follows, its right operand is read. -/
theorem reads_parseOperations {room level : Nat} {ts : List Token} {left : Parsed Node ts}
    {t : Token} {after : List Token} {op : Operator} {Q : Node → List Token → Prop}
    (hrest : left.rest = t :: after) (hop : t.operator? = some op) (hlevel : level ≤ op.level)
    (h : Reads (parseExpression room op.rightLevel after) fun n r =>
      ∀ left' : Parsed Node ts, left'.value = left.value.operation op n → left'.rest = r →
        Reads (parseOperations room level left') Q) :
    Reads (parseOperations room level left) Q := by
  rw [parseOperations.eq_def]
  split
  · rename_i hnil; rw [hrest] at hnil; cases hnil
  · rename_i t' after' hrest'
    obtain ⟨rfl, rfl⟩ : t' = t ∧ after' = after := by simpa using hrest'.symm.trans hrest
    rw [hop]
    simp only
    rw [if_neg (by omega)]
    revert h
    cases parseExpression room op.rightLevel after' with
    | error e => exact id
    | ok right => exact fun h => h _ rfl rfl

/-- Two operands with an operator between them are read one after the other. -/
theorem ReadsExpression.operation (op : Operator) {l r : List Lexeme} {a b : Node}
    (ha : ReadsExpression op.leftTier l a) (hb : ReadsExpression op.rightLevel r b) :
    ReadsExpression op.level (l ++ .symbol op.symbol :: r) (.binary a op.text b .nowhere) := by
  intro room level ts used rest Q hts hls hcall hadmits hlevel hQ
  obtain ⟨ul, more, rfl, hul, hmore⟩ := List.map_eq_append_iff.1 hls
  obtain ⟨t, ur, rfl, ht, hur⟩ := List.map_eq_cons_iff.1 hmore
  have hop := Token.operator?_eq_some_iff.2 ht
  have htier : Admits op.leftTier (t :: ur ++ rest) := by
    intro t' ht' op' hop'
    obtain rfl : t = t' := by simpa using ht'
    obtain rfl : op = op' := Option.some.inj (hop.symm.trans hop')
    exact Nat.le_refl _
  have hcall' : NoCall (t :: ur ++ rest) := by
    intro t' ht'
    obtain rfl : t = t' := by simpa using ht'
    rw [ht]; cases op <;> simp [Operator.symbol]
  have hts' : ts = ul ++ (t :: ur ++ rest) := hts.trans (by simp)
  apply ha hts' hul hcall' htier (Nat.le_trans hlevel op.level_le_leftTier)
  intro left hleft hrest
  apply reads_parseOperations hrest hop hlevel
  cases room with
  | zero => rw [parseExpression.eq_def]; rfl
  | succ room =>
    -- the right operand ends where the whole operation does
    have hstops : Stops op.rightLevel rest := fun t' ht' op' hop' =>
      Operator.level_lt_of_leftTier_le (hadmits t' ht' op' hop')
    apply hb rfl hur hcall (hadmits.mono op.level_le_rightLevel) (Nat.le_refl _)
    intro right hright hright'
    rw [parseOperations_of_stops (by rw [hright']; exact hstops)]
    intro left' hval hrest'
    apply hQ left' _ (hrest'.trans hright')
    rw [hval, Node.bare_operation, hleft, hright]

/-- A phrase that nothing can go on with is read to its end. -/
theorem ReadsExpression.whole {ls : List Lexeme} {t : Node} (h : ReadsExpression 1 ls t)
    {room : Nat} {ts used rest : List Token} (hts : ts = used ++ rest) (hls : lexemes used = ls)
    (hcall : NoCall rest) (hstops : Stops 1 rest) :
    Reads (parseExpression room Operator.lowestLevel ts) fun n r => n.bare = t ∧ r = rest := by
  cases room with
  | zero => rw [parseExpression.eq_def]; rfl
  | succ room =>
    have hadmits : Admits 1 rest := fun u hu op hop =>
      absurd (hstops u hu op hop) (Nat.not_lt.2 op.level_pos)
    apply h hts hls hcall hadmits (Nat.le_refl 1)
    intro left hleft hrest
    rw [parseOperations_of_stops (by rw [hrest]; exact hstops)]
    exact ⟨hleft, hrest⟩

/-- A closing parenthesis or a comma ends an expression. -/
theorem noCall_stops_of_lexeme {t : Token} {s : Symbol} (ht : t.lexeme = .symbol s)
    (hs : s = .rparen ∨ s = .comma) (rest : List Token) :
    NoCall (t :: rest) ∧ Stops 1 (t :: rest) := by
  constructor
  · intro t' ht'
    obtain rfl : t = t' := by simpa using ht'
    rcases hs with rfl | rfl <;> simp [ht]
  · intro t' ht' op hop
    obtain rfl : t = t' := by simpa using ht'
    rw [Token.operator?_eq_some_iff, ht] at hop
    rcases hs with rfl | rfl <;> cases op <;> simp [Operator.symbol] at hop

theorem readsOperand_number (value : Float) (unit : Option String) :
    ReadsOperand [.number value unit] (.number value unit .nowhere) := by
  intro room ts used rest hts hls _
  obtain ⟨t, rfl, ht⟩ := List.map_eq_singleton_iff.1 hls
  subst hts
  rw [List.cons_append, parseOperand.eq_def]
  simp only [ht]
  exact ⟨by rw [Node.bare], rfl⟩

theorem readsOperand_reference (name : String) :
    ReadsOperand [.name name] (.reference name .nowhere) := by
  intro room ts used rest hts hls hcall
  obtain ⟨t, rfl, ht⟩ := List.map_eq_singleton_iff.1 hls
  subst hts
  rw [List.cons_append, List.nil_append, parseOperand.eq_def]
  simp only [ht]
  split
  · exact ⟨by rw [Node.bare], rfl⟩
  · rename_i u inner
    have hu : ¬ u.is .lparen = true := fun h => hcall u (by simp) (Token.is_iff.1 h)
    rw [if_neg hu]
    exact ⟨by rw [Node.bare], rfl⟩

theorem readsOperand_sign {s : Symbol} (hs : s = .plus ∨ s = .minus) {ls : List Lexeme} {t : Node}
    (h : ReadsOperand ls t) :
    ReadsOperand (.symbol s :: ls) (.unary s.char.toString t .nowhere) := by
  intro room ts used rest hts hls hcall
  obtain ⟨sign, operand, rfl, hsign, hoperand⟩ := List.map_eq_cons_iff.1 hls
  subst hts
  rw [List.cons_append, parseOperand.eq_def]
  simp only [hsign]
  rw [if_pos hs]
  cases room with
  | zero => rfl
  | succ room =>
    have hread : Reads (parseOperand room (operand ++ rest)) _ := h rfl hoperand hcall
    revert hread
    simp only
    cases parseOperand room (operand ++ rest) with
    | error e => exact id
    | ok p =>
      rintro ⟨hp, hrest⟩
      exact ⟨by simp [Node.bare, hp], hrest⟩

theorem readsOperand_parens {ls : List Lexeme} {t : Node} (h : ReadsExpression 1 ls t) :
    ReadsOperand (.symbol .lparen :: ls ++ [.symbol .rparen]) t := by
  intro room ts used rest hts hls hcall
  obtain ⟨opening, more, rfl, hopening, hmore⟩ := List.map_eq_cons_iff.1 hls
  obtain ⟨inner, last, rfl, hinner, hlast⟩ := List.map_eq_append_iff.1 hmore
  obtain ⟨closing, rfl, hclosing⟩ := List.map_eq_singleton_iff.1 hlast
  subst hts
  rw [List.cons_append, parseOperand.eq_def]
  simp only [hopening]
  rw [if_neg (by simp), if_pos trivial]
  obtain ⟨hcall', hstops⟩ := noCall_stops_of_lexeme hclosing (.inl rfl) rest
  have hread : Reads (parseExpression room Operator.lowestLevel (inner ++ [closing] ++ rest)) _ :=
    h.whole (by simp) hinner hcall' hstops
  revert hread
  cases parseExpression room Operator.lowestLevel (inner ++ [closing] ++ rest) with
  | error e => exact id
  | ok p =>
    rintro ⟨hp, hrest⟩
    simp only
    split
    · rename_i hnil; rw [hnil] at hrest; cases hrest
    · rename_i u rest' hrest'
      obtain ⟨rfl, rfl⟩ : u = closing ∧ rest' = rest := by simpa using hrest'.symm.trans hrest
      rw [if_pos (Token.is_iff.2 hclosing)]
      exact ⟨hp, rfl⟩

/-- From tokens that say `ls` and a closing parenthesis, the arguments `args` are read. -/
def ReadsArguments (ls : List Lexeme) (args : List Node) : Prop :=
  ∀ ⦃room : Nat⦄ ⦃ts used rest : List Token⦄, ts = used ++ rest →
    lexemes used = ls ++ [.symbol .rparen] →
    Reads (parseArgumentList room ts) fun v r => Node.bareAll v.1 = args ∧ r = rest

theorem readsArguments_one {ls : List Lexeme} {t : Node} (h : ReadsExpression 1 ls t) :
    ReadsArguments ls [t] := by
  intro room ts used rest hts hls
  obtain ⟨first, last, rfl, hfirst, hlast⟩ := List.map_eq_append_iff.1 hls
  obtain ⟨closing, rfl, hclosing⟩ := List.map_eq_singleton_iff.1 hlast
  have hts' : ts = first ++ (closing :: rest) := hts.trans (by simp)
  obtain ⟨hcall, hstops⟩ := noCall_stops_of_lexeme hclosing (.inl rfl) rest
  have hread : Reads (parseExpression room Operator.lowestLevel ts) _ :=
    h.whole hts' hfirst hcall hstops
  rw [parseArgumentList.eq_def]
  revert hread
  cases parseExpression room Operator.lowestLevel ts with
  | error e => exact id
  | ok p =>
    rintro ⟨hp, hrest⟩
    simp only
    split
    · rename_i hnil; rw [hnil] at hrest; cases hrest
    · rename_i u rest' hrest'
      obtain ⟨rfl, rfl⟩ : u = closing ∧ rest' = rest := by simpa using hrest'.symm.trans hrest
      have hcomma : ¬ u.is .comma = true := by simp [Token.is_iff, hclosing]
      rw [if_neg hcomma, if_pos (Token.is_iff.2 hclosing)]
      exact ⟨by simp [Node.bareAll, hp], rfl⟩

theorem readsArguments_more {l ls : List Lexeme} {t : Node} {args : List Node}
    (h : ReadsExpression 1 l t) (hs : ReadsArguments ls args) :
    ReadsArguments (l ++ .symbol .comma :: ls) (t :: args) := by
  intro room ts used rest hts hls
  rw [List.append_assoc] at hls
  obtain ⟨first, more, rfl, hfirst, hmore⟩ := List.map_eq_append_iff.1 hls
  obtain ⟨comma, others, rfl, hcomma, hothers⟩ := List.map_eq_cons_iff.1 hmore
  have hts' : ts = first ++ (comma :: (others ++ rest)) := hts.trans (by simp)
  obtain ⟨hcall, hstops⟩ := noCall_stops_of_lexeme hcomma (.inr rfl) (others ++ rest)
  have hread : Reads (parseExpression room Operator.lowestLevel ts) _ :=
    h.whole hts' hfirst hcall hstops
  rw [parseArgumentList.eq_def]
  revert hread
  cases parseExpression room Operator.lowestLevel ts with
  | error e => exact id
  | ok p =>
    rintro ⟨hp, hrest⟩
    simp only
    split
    · rename_i hnil; rw [hnil] at hrest; cases hrest
    · rename_i u rest' hrest'
      obtain ⟨rfl, rfl⟩ : u = comma ∧ rest' = others ++ rest := by
        simpa using hrest'.symm.trans hrest
      rw [if_pos (Token.is_iff.2 hcomma)]
      have hread : Reads (parseArgumentList room (others ++ rest)) _ := hs rfl hothers
      revert hread
      cases parseArgumentList room (others ++ rest) with
      | error e => exact id
      | ok q =>
        rintro ⟨hq, hrest⟩
        exact ⟨by simp [Node.bareAll, hp, hq], hrest⟩

theorem readsOperand_callOfNone (name : String) :
    ReadsOperand [.name name, .symbol .lparen, .symbol .rparen] (.call name [] .nowhere) := by
  intro room ts used rest hts hls _
  obtain ⟨t, more, rfl, ht, hmore⟩ := List.map_eq_cons_iff.1 hls
  obtain ⟨opening, last, rfl, hopening, hlast⟩ := List.map_eq_cons_iff.1 hmore
  obtain ⟨closing, rfl, hclosing⟩ := List.map_eq_singleton_iff.1 hlast
  subst hts
  simp only [List.cons_append, List.nil_append]
  rw [parseOperand.eq_def]
  simp only [ht]
  rw [if_pos (Token.is_iff.2 hopening), parseArguments.eq_def]
  simp only
  rw [if_pos (Token.is_iff.2 hclosing)]
  exact ⟨by simp [Node.bare, Node.bareAll], rfl⟩

theorem readsOperand_call (name : String) {ls : List Lexeme} {args : List Node}
    (hphrases : Phrases ls args) (h : ReadsArguments ls args) :
    ReadsOperand (.name name :: .symbol .lparen :: ls ++ [.symbol .rparen])
      (.call name args .nowhere) := by
  intro room ts used rest hts hls _
  obtain ⟨t, more, rfl, ht, hmore⟩ := List.map_eq_cons_iff.1 hls
  obtain ⟨opening, inner, rfl, hopening, hinner⟩ := List.map_eq_cons_iff.1 hmore
  obtain ⟨x, xs, rfl, hx⟩ := hphrases.exists_cons
  obtain ⟨u, others, rfl, hu, -⟩ := List.map_eq_cons_iff.1 hinner
  subst hts
  simp only [List.cons_append]
  rw [parseOperand.eq_def]
  simp only [ht]
  have hclosing : ¬ u.is .rparen = true := by rw [Token.is_iff, hu]; exact hx
  rw [if_pos (Token.is_iff.2 hopening), parseArguments.eq_def]
  simp only
  rw [if_neg hclosing]
  have hread : Reads (parseArgumentList room (u :: (others ++ rest))) _ :=
    h List.cons_append.symm hinner
  revert hread
  cases parseArgumentList room (u :: (others ++ rest)) with
  | error e => exact id
  | ok p =>
    rintro ⟨hp, hrest⟩
    exact ⟨by simp [Node.bare, hp], hrest⟩

mutual

/-- **Every signed operand is read.** -/
theorem Phrase.readsOperand : ∀ {k : Nat} {ls : List Lexeme} {t : Node}, Phrase k ls t → 6 ≤ k →
    ReadsOperand ls t
  | _, _, _, .plus h, _ => readsOperand_sign (.inl rfl) (h.readsOperand (Nat.le_refl _))
  | _, _, _, .minus h, _ => readsOperand_sign (.inr rfl) (h.readsOperand (Nat.le_refl _))
  | _, _, _, .ofPrimary h, _ => h.readsOperand (by decide)
  | _, _, _, .number value unit, _ => readsOperand_number value unit
  | _, _, _, .reference name, _ => readsOperand_reference name
  | _, _, _, .callOfNone name, _ => readsOperand_callOfNone name
  | _, _, _, .call name h, _ => readsOperand_call name h h.readsArguments
  | _, _, _, .parens h, _ => readsOperand_parens h.readsExpression

/-- **Every expression is read.** -/
theorem Phrase.readsExpression : ∀ {k : Nat} {ls : List Lexeme} {t : Node}, Phrase k ls t →
    ReadsExpression k ls t
  | _, _, _, .subtract ha hb => ReadsExpression.operation .subtract ha.readsExpression hb.readsExpression
  | _, _, _, .add ha hb => ReadsExpression.operation .add ha.readsExpression hb.readsExpression
  | _, _, _, .divide ha hb => ReadsExpression.operation .divide ha.readsExpression hb.readsExpression
  | _, _, _, .multiply ha hb => ReadsExpression.operation .multiply ha.readsExpression hb.readsExpression
  | _, _, _, .power ha hb => ReadsExpression.operation .power ha.readsExpression hb.readsExpression
  | _, _, _, .ofSum h | _, _, _, .ofQuotient h | _, _, _, .ofProduct h | _, _, _, .ofPower h
  | _, _, _, .ofSigned h | _, _, _, .ofPrimary h => h.readsExpression.mono (Nat.le_succ _)
  | _, _, _, .plus h => (readsOperand_sign (.inl rfl) (h.readsOperand (by decide))).expression
  | _, _, _, .minus h => (readsOperand_sign (.inr rfl) (h.readsOperand (by decide))).expression
  | _, _, _, .number value unit => (readsOperand_number value unit).expression
  | _, _, _, .reference name => (readsOperand_reference name).expression
  | _, _, _, .callOfNone name => (readsOperand_callOfNone name).expression
  | _, _, _, .call name h => (readsOperand_call name h h.readsArguments).expression
  | _, _, _, .parens h => (readsOperand_parens h.readsExpression).expression

/-- **Every list of arguments is read.** -/
theorem Phrases.readsArguments : ∀ {ls : List Lexeme} {args : List Node}, Phrases ls args →
    ReadsArguments ls args
  | _, _, .one h => readsArguments_one h.readsExpression
  | _, _, .more h hs => readsArguments_more h.readsExpression hs.readsArguments

end

end Reckon
