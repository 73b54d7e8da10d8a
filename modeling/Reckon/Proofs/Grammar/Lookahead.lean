import Reckon.Proofs.Grammar.Viable

/-!
# Reading looks at nothing beyond the token it fails at

Take two lists of tokens with a common part, after which they go on with `r` and with `r'`. As long
as a reader has not got past the common part of the first list, it does the same on both
(`Alike`). So an attempt that fails within the common part of one list fails for the same reason on
the other, whatever completes it (`not_opensSentence_of_forms`).

The readers of expressions are compared by their own recursion. A form of statement is a row of
readers, each from where the one before ended; such rows are compared by `Follows.bind`.
-/

namespace Reckon

/-- The tokens from where an attempt ended: those after what was read, or the offending one and
those after it. -/
def remaining {α : Type} (rest : α → List Token) : Except ParseError α → List Token
  | .ok a => rest a
  | .error e => e.rest

/-- Of two attempts, the first one got past all tokens but `r`, or both ended in the same way before
`r` and `r'`, and the same tokens are left up to there. -/
inductive Alike (r r' : List Token) {α β : Type} (rest : α → List Token) (rest' : β → List Token) :
    Except ParseError α → Except ParseError β → Prop where
  | past {x : Except ParseError α} {y : Except ParseError β}
      (h : (remaining rest x).length ≤ r.length) : Alike r r' rest rest' x y
  | ok {a : α} {b : β} {t : Token} {q : List Token} (ha : rest a = t :: (q ++ r))
      (hb : rest' b = t :: (q ++ r')) : Alike r r' rest rest' (.ok a) (.ok b)
  | error {e e' : ParseError} {q : List Token} (hreason : e'.reason = e.reason)
      (he : e.rest = q ++ r) (he' : e'.rest = q ++ r') : Alike r r' rest rest' (.error e) (.error e')

/-- Where nothing of the common part is left, the first attempt got past it. -/
theorem Alike.of_append {r r' q : List Token} {α β : Type} {rest : α → List Token}
    {rest' : β → List Token} {a : α} {b : β} (ha : rest a = q ++ r) (hb : rest' b = q ++ r') :
    Alike r r' rest rest' (.ok a) (.ok b) := by
  cases q with
  | nil => exact .past (Nat.le_of_eq (congrArg List.length ha))
  | cons t q => exact .ok ha hb

/-- An attempt that fails at one of its tokens has not more tokens left than it had. -/
theorem remaining_le {α : Type} {ts : List Token} {x : Except ParseError (Parsed α ts)}
    {P : List Lexeme → Prop} (h : ∀ {e}, x = .error e → e.After ts P) :
    (remaining Parsed.rest x).length ≤ ts.length := by
  cases x with
  | ok p => exact Nat.le_of_lt p.shorter
  | error e => exact (h rfl).length_le

theorem parseOperations_remaining_le {room level : Nat} {ts : List Token} (left : Parsed Node ts) :
    (remaining Parsed.rest (parseOperations room level left)).length ≤ left.rest.length := by
  rw [parseOperations.eq_def]
  split
  · exact Nat.le_refl _
  · rename_i t after hrest
    have hafter : after.length < left.rest.length := by simp [hrest]
    split
    · exact Nat.le_refl _
    · rename_i op hop
      split
      · exact Nat.le_refl _
      · split
        · rename_i e herror
          have hright := Nat.le_trans op.level_pos op.level_le_rightLevel
          have hle := (parseExpression_opens herror hright op.rightLevel_le).length_le
          exact Nat.le_trans hle (Nat.le_of_lt hafter)
        · rename_i right _
          have hshort : right.rest.length < left.rest.length := Nat.lt_trans right.shorter hafter
          refine Nat.le_trans (parseOperations_remaining_le _) (Nat.le_of_lt hshort)
termination_by left.rest.length

/-- After a name, an operand ends at the next token or later. -/
theorem parseOperand_remaining_le_of_name {room : Nat} {t : Token} {after : List Token}
    {name : String} (ht : t.lexeme = .name name) :
    (remaining Parsed.rest (parseOperand room (t :: after))).length ≤ after.length := by
  cases h : parseOperand room (t :: after) with
  | ok p => exact Nat.le_of_lt_succ p.shorter
  | error e =>
    rw [parseOperand.eq_def] at h
    simp only [ht] at h
    split at h
    · cases h
    · rename_i u inner
      split at h
      · split at h
        · rename_i e' herror
          cases h
          exact Nat.le_succ_of_le (parseArguments_opens herror).length_le
        · cases h
      · cases h

section Common

variable {r r' : List Token}

mutual

theorem parseExpression_alike (room level : Nat) {ts us q : List Token} (hts : ts = q ++ r)
    (hus : us = q ++ r') : Alike r r' Parsed.rest Parsed.rest (parseExpression room level ts)
      (parseExpression room level us) := by
  rw [parseExpression.eq_def, parseExpression.eq_def room level us]
  match room with
  | 0 => exact .error rfl hts hus
  | room + 1 =>
    have hoperand := parseOperand_alike room hts hus
    simp only
    generalize parseOperand room ts = first at hoperand
    generalize parseOperand room us = second at hoperand
    cases hoperand with
    | past h =>
      cases first with
      | error e => exact .past h
      | ok left => exact .past (Nat.le_trans (parseOperations_remaining_le left) h)
    | error hreason he he' => exact .error hreason he he'
    | @ok left left' t q hleft hleft' =>
      have hshort := left.shorter
      exact parseOperations_alike room level left left' hleft hleft'
termination_by (ts.length, 2)

theorem parseOperations_alike (room level : Nat) {ts us : List Token} (left : Parsed Node ts)
    (left' : Parsed Node us) {q : List Token} {t : Token} (hrest : left.rest = t :: (q ++ r))
    (hrest' : left'.rest = t :: (q ++ r')) :
    Alike r r' Parsed.rest Parsed.rest (parseOperations room level left)
      (parseOperations room level left') := by
  have hdone : Alike r r' Parsed.rest Parsed.rest (.ok left) (.ok left') := .ok hrest hrest'
  rw [parseOperations.eq_def, parseOperations.eq_def room level left']
  obtain ⟨value, rest, shorter⟩ := left
  obtain ⟨value', rest', shorter'⟩ := left'
  subst hrest hrest'
  have hlength : (q ++ r).length < (t :: (q ++ r)).length := Nat.lt_succ_self _
  simp only
  rcases t.operator? with _ | op
  · exact hdone
  · simp only
    by_cases hlt : op.level < level
    · simp only [if_pos hlt]
      exact hdone
    · simp only [if_neg hlt]
      have hright := parseExpression_alike room op.rightLevel (rfl : q ++ r = _) (rfl : q ++ r' = _)
      generalize parseExpression room op.rightLevel (q ++ r) = first at hright
      generalize parseExpression room op.rightLevel (q ++ r') = second at hright
      cases hright with
      | past h =>
        cases first with
        | error e => exact .past h
        | ok right => exact .past (Nat.le_trans (parseOperations_remaining_le _) h)
      | error hreason he he' => exact .error hreason he he'
      | @ok right right' u q' hr hr' =>
        have hshort := Nat.lt_trans right.shorter hlength
        exact parseOperations_alike room level _ _ hr hr'
termination_by (left.rest.length, 0)
decreasing_by all_goals grind

theorem parseOperand_alike (room : Nat) {ts us q : List Token} (hts : ts = q ++ r)
    (hus : us = q ++ r') : Alike r r' Parsed.rest Parsed.rest (parseOperand room ts)
      (parseOperand room us) := by
  match q with
  | [] =>
    subst hts
    exact .past (remaining_le parseOperand_opens)
  | t :: q =>
    have hlength : (q ++ r).length < ts.length := by simp [hts]
    subst hts hus
    simp only [List.cons_append]
    rcases ht : t.lexeme with ⟨value, unit⟩ | name | s
    · rw [parseOperand.eq_def, parseOperand.eq_def room (t :: (q ++ r'))]
      simp only [ht]
      exact Alike.of_append rfl rfl
    -- whether a name starts a call is seen at the token after it
    · rcases hq : q with _ | ⟨u, inner⟩
      · exact .past (parseOperand_remaining_le_of_name ht)
      · have hinner : (inner ++ r).length < (q ++ r).length := by simp [hq]
        rw [parseOperand.eq_def, parseOperand.eq_def room (t :: (u :: inner ++ r'))]
        simp only [ht, List.cons_append]
        by_cases hu : u.is .lparen = true
        · simp only [if_pos hu]
          have harguments := parseArguments_alike room (rfl : inner ++ r = _) (rfl : inner ++ r' = _)
          generalize parseArguments room (inner ++ r) = first at harguments
          generalize parseArguments room (inner ++ r') = second at harguments
          cases harguments with
          | past h =>
            cases first with
            | error e => exact .past h
            | ok p => exact .past h
          | error hreason he he' => exact .error hreason he he'
          | ok hp hp' => exact .ok hp hp'
        · simp only [if_neg hu]
          exact .ok rfl rfl
    · rw [parseOperand.eq_def, parseOperand.eq_def room (t :: (q ++ r'))]
      simp only [ht]
      by_cases hsign : s = .plus ∨ s = .minus
      · simp only [if_pos hsign]
        match room with
        | 0 => exact .error rfl List.cons_append.symm List.cons_append.symm
        | room + 1 =>
          have hoperand := parseOperand_alike room (rfl : q ++ r = _) (rfl : q ++ r' = _)
          simp only
          generalize parseOperand room (q ++ r) = first at hoperand
          generalize parseOperand room (q ++ r') = second at hoperand
          cases hoperand with
          | past h =>
            cases first with
            | error e => exact .past h
            | ok p => exact .past h
          | error hreason he he' => exact .error hreason he he'
          | ok hp hp' => exact .ok hp hp'
      · simp only [if_neg hsign]
        by_cases hparen : s = .lparen
        · simp only [if_pos hparen]
          have hinner := parseExpression_alike room Operator.lowestLevel (rfl : q ++ r = _)
            (rfl : q ++ r' = _)
          generalize parseExpression room Operator.lowestLevel (q ++ r) = first at hinner
          generalize parseExpression room Operator.lowestLevel (q ++ r') = second at hinner
          cases hinner with
          | past h =>
            rcases first with e | ⟨value, _ | ⟨u, rest⟩, shorter⟩
            · exact .past h
            · exact .past h
            · simp only
              split
              · exact .past (Nat.le_of_succ_le h)
              · exact .past h
          | error hreason he he' => exact .error hreason he he'
          | @ok p p' u q' hp hp' =>
            obtain ⟨value, rest, shorter⟩ := p
            obtain ⟨value', rest', shorter'⟩ := p'
            subst hp hp'
            simp only
            by_cases hu : u.is .rparen = true
            · simp only [if_pos hu]
              exact Alike.of_append rfl rfl
            · simp only [if_neg hu]
              exact .error rfl List.cons_append.symm List.cons_append.symm
        · simp only [if_neg hparen]
          exact .error rfl List.cons_append.symm List.cons_append.symm
termination_by (ts.length, 1)
decreasing_by all_goals grind

theorem parseArguments_alike (room : Nat) {ts us q : List Token} (hts : ts = q ++ r)
    (hus : us = q ++ r') : Alike r r' Parsed.rest Parsed.rest (parseArguments room ts)
      (parseArguments room us) := by
  match q with
  | [] =>
    subst hts
    exact .past (remaining_le parseArguments_opens)
  | t :: q =>
    have hlist := parseArgumentList_alike room hts hus
    subst hts hus
    rw [parseArguments.eq_def, parseArguments.eq_def room (t :: q ++ r')]
    simp only [List.cons_append]
    by_cases ht : t.is .rparen = true
    · simp only [if_pos ht]
      exact Alike.of_append rfl rfl
    · simp only [if_neg ht]
      exact hlist
termination_by (ts.length, 4)
decreasing_by all_goals grind

theorem parseArgumentList_alike (room : Nat) {ts us q : List Token} (hts : ts = q ++ r)
    (hus : us = q ++ r') : Alike r r' Parsed.rest Parsed.rest (parseArgumentList room ts)
      (parseArgumentList room us) := by
  rw [parseArgumentList.eq_def, parseArgumentList.eq_def room us]
  have hfirst := parseExpression_alike room Operator.lowestLevel hts hus
  generalize parseExpression room Operator.lowestLevel ts = first at hfirst
  generalize parseExpression room Operator.lowestLevel us = second at hfirst
  cases hfirst with
  | past h =>
    rcases first with e | ⟨value, _ | ⟨t, rest⟩, shorter⟩
    · exact .past h
    · exact .past h
    -- the first attempt is past the common part, and goes on from there
    · have hrest : rest.length ≤ r.length := Nat.le_of_succ_le h
      simp only
      split
      · have hmore : (remaining Parsed.rest (parseArgumentList room rest)).length ≤ r.length :=
          Nat.le_trans (remaining_le parseArgumentList_opens) hrest
        generalize parseArgumentList room rest = more at hmore
        cases more with
        | error e => exact .past hmore
        | ok p => exact .past hmore
      · split
        · exact .past hrest
        · exact .past h
  | error hreason he he' => exact .error hreason he he'
  | @ok p p' t q' hp hp' =>
    have hshort := p.length_lt_of_rest_eq hp
    obtain ⟨value, rest, shorter⟩ := p
    obtain ⟨value', rest', shorter'⟩ := p'
    subst hp hp'
    simp only
    by_cases hcomma : t.is .comma = true
    · simp only [if_pos hcomma]
      have hmore := parseArgumentList_alike room (rfl : q' ++ r = _) (rfl : q' ++ r' = _)
      generalize parseArgumentList room (q' ++ r) = first at hmore
      generalize parseArgumentList room (q' ++ r') = second at hmore
      cases hmore with
      | past h =>
        cases first with
        | error e => exact .past h
        | ok p => exact .past h
      | error hreason he he' => exact .error hreason he he'
      | ok hp hp' => exact .ok hp hp'
    · simp only [if_neg hcomma]
      by_cases hparen : t.is .rparen = true
      · simp only [if_pos hparen]
        exact Alike.of_append rfl rfl
      · simp only [if_neg hparen]
        exact .error rfl List.cons_append.symm List.cons_append.symm
termination_by (ts.length, 3)
decreasing_by all_goals grind

end

/-! ### Forms of statements -/

/-- The attempts `x` from the tokens `ts` and `y` from the tokens `us` end no earlier than they
started, and if the tokens have a part in common, the attempts are alike. -/
structure Follows (r r' ts us : List Token) {α : Type} (rest : α → List Token)
    (x y : Except ParseError α) : Prop where
  remaining_le : (remaining rest x).length ≤ ts.length
  alike : ∀ q, ts = q ++ r → us = q ++ r' → Alike r r' rest rest x y

/-- What follows an attempt that follows another one follows both. -/
theorem Follows.bind {ts us : List Token} {α β : Type} {rest : α → List Token}
    {rest' : β → List Token} {x y : Except ParseError α} {g h : α → Except ParseError β}
    (hxy : Follows r r' ts us rest x y)
    (hgh : ∀ a b, Follows r r' (rest a) (rest b) rest' (g a) (h b)) :
    Follows r r' ts us rest' (x >>= g) (y >>= h) where
  remaining_le := by
    cases x with
    | error e => exact hxy.remaining_le
    | ok a => exact Nat.le_trans (hgh a a).remaining_le hxy.remaining_le
  alike q hts hus := by
    cases hxy.alike q hts hus with
    | past hpast =>
      cases x with
      | error e => exact .past hpast
      | ok a => exact .past (Nat.le_trans (hgh a a).remaining_le hpast)
    | error hreason he he' => exact .error hreason he he'
    | @ok a b t q ha hb => exact (hgh a b).alike (t :: q) ha hb

/-- Where the first attempt looks at nothing behind the common part, it got past it. -/
theorem Follows.of_cons {ts us : List Token} {α : Type} {rest : α → List Token}
    {x y : Except ParseError α} (hle : (remaining rest x).length ≤ ts.length)
    (h : ∀ t q, ts = t :: (q ++ r) → us = t :: (q ++ r') → Alike r r' rest rest x y) :
    Follows r r' ts us rest x y where
  remaining_le := hle
  alike q hts hus := by
    cases q with
    | nil => exact .past (by rwa [hts] at hle)
    | cons t q => exact h t q hts hus

theorem parseName_follows (what : Expected) (ts us : List Token) :
    Follows r r' ts us Prod.snd (parseName what ts) (parseName what us) := by
  refine Follows.of_cons ?_ ?_
  · cases h : parseName what ts with
    | error e => rw [parseName_error h]; exact Nat.le_refl _
    | ok p =>
      obtain ⟨t, rfl, -⟩ := parseName_eq_ok_iff.1 h
      exact Nat.le_succ _
  · rintro t q rfl rfl
    unfold parseName
    simp only
    rcases t.lexeme with ⟨value, unit⟩ | name | s
    · exact .error rfl List.cons_append.symm List.cons_append.symm
    · exact Alike.of_append rfl rfl
    · exact .error rfl List.cons_append.symm List.cons_append.symm

theorem parseSymbol_follows (s : Symbol) (what : Expected) (ts us : List Token) :
    Follows r r' ts us id (parseSymbol s what ts) (parseSymbol s what us) := by
  refine Follows.of_cons ?_ ?_
  · cases h : parseSymbol s what ts with
    | error e => rw [parseSymbol_error h]; exact Nat.le_refl _
    | ok rest =>
      obtain ⟨t, rfl, -⟩ := parseSymbol_eq_ok_iff.1 h
      exact Nat.le_succ _
  · rintro t q rfl rfl
    unfold parseSymbol
    simp only
    split
    · exact Alike.of_append rfl rfl
    · exact .error rfl List.cons_append.symm List.cons_append.symm

theorem parseMoreParameters_remaining_le (ts : List Token) :
    (remaining Prod.snd (parseMoreParameters ts)).length ≤ ts.length := by
  cases h : parseMoreParameters ts with
  | error e =>
    obtain ⟨c, rest, rfl, -, hopens⟩ := parseMoreParameters_opens h
    exact Nat.le_succ_of_le hopens.length_le
  | ok p =>
    rcases parseMoreParameters_sound h with ⟨-, rfl⟩ | ⟨c, used, rfl, -, -⟩
    · exact Nat.le_refl _
    · rw [List.length_append]
      exact Nat.le_add_left _ _

/-- A comma is used up. -/
theorem parseMoreParameters_remaining_le_of_comma {comma : Token} (hcomma : comma.is .comma = true)
    (ts : List Token) :
    (remaining Prod.snd (parseMoreParameters (comma :: ts))).length ≤ ts.length := by
  rw [parseMoreParameters.eq_def]
  simp only [if_pos hcomma]
  rcases ts with _ | ⟨t, rest⟩
  · exact Nat.le_refl _
  · simp only
    rcases t.lexeme with ⟨value, unit⟩ | name | s
    · exact Nat.le_refl _
    · have hrest := Nat.le_succ_of_le (parseMoreParameters_remaining_le rest)
      simp only
      generalize parseMoreParameters rest = more at hrest
      cases more with
      | error e => exact hrest
      | ok p => exact hrest
    · exact Nat.le_refl _

theorem parseMoreParameters_alike : ∀ q : List Token,
    Alike r r' Prod.snd Prod.snd (parseMoreParameters (q ++ r)) (parseMoreParameters (q ++ r'))
  | [] => .past (parseMoreParameters_remaining_le r)
  | [comma] => by
    by_cases hcomma : comma.is .comma = true
    · exact .past (parseMoreParameters_remaining_le_of_comma hcomma r)
    · have hstop : ∀ ts, parseMoreParameters (comma :: ts) = .ok ([], comma :: ts) := fun ts =>
        parseMoreParameters_of_not_comma (by simpa [Token.is_iff] using hcomma)
      rw [List.cons_append, List.cons_append, hstop, hstop]
      exact .ok List.cons_append.symm List.cons_append.symm
  | comma :: t :: q => by
    simp only [List.cons_append, parseMoreParameters]
    by_cases hcomma : comma.is .comma = true
    · simp only [if_pos hcomma]
      rcases t.lexeme with ⟨value, unit⟩ | name | s
      · exact .error rfl List.cons_append.symm List.cons_append.symm
      · have hmore := parseMoreParameters_alike q
        simp only
        generalize parseMoreParameters (q ++ r) = first at hmore
        generalize parseMoreParameters (q ++ r') = second at hmore
        cases hmore with
        | past h =>
          cases first with
          | error e => exact .past h
          | ok p => exact .past h
        | error hreason he he' => exact .error hreason he he'
        | ok ha hb => exact .ok ha hb
      · exact .error rfl List.cons_append.symm List.cons_append.symm
    · simp only [if_neg hcomma]
      have hrest : ∀ more, comma :: t :: (q ++ more) = comma :: (t :: q ++ more) := fun _ => rfl
      exact .ok (hrest r) (hrest r')

theorem parseMoreParameters_follows (ts us : List Token) :
    Follows r r' ts us Prod.snd (parseMoreParameters ts) (parseMoreParameters us) where
  remaining_le := parseMoreParameters_remaining_le ts
  alike q hts hus := by
    subst hts hus
    exact parseMoreParameters_alike q

theorem parseParameters_follows (ts us : List Token) :
    Follows r r' ts us Prod.snd (parseParameters ts) (parseParameters us) := by
  have hread : ∀ ts us : List Token, Follows r r' ts us Prod.snd
      (do
        let first ← parseName .parameterName ts
        let more ← parseMoreParameters first.2
        return (first.1 :: more.1, more.2))
      (do
        let first ← parseName .parameterName us
        let more ← parseMoreParameters first.2
        return (first.1 :: more.1, more.2)) := by
    intro ts us
    refine (parseName_follows _ ts us).bind fun first first' => ?_
    refine (parseMoreParameters_follows first.2 first'.2).bind fun more more' => ?_
    exact ⟨Nat.le_refl _, fun q hrest hrest' => Alike.of_append hrest hrest'⟩
  unfold parseParameters
  refine Follows.of_cons ?_ ?_
  · split
    · exact Nat.le_refl _
    · exact (hread ts us).remaining_le
  · intro t q hts hus
    have hhead : us.head? = ts.head? := by rw [hts, hus]; rfl
    rw [hhead]
    split
    · exact .ok hts hus
    · exact (hread ts us).alike (t :: q) hts hus

/-- An expression that the line ends with leaves nothing. -/
theorem parseLast_follows (room : Nat) (ts us : List Token) :
    Follows r r' ts us (fun _ => []) (parseLast room ts) (parseLast room us) where
  remaining_le := by
    cases h : parseLast room ts with
    | ok n => exact Nat.zero_le _
    | error e => exact (parseLast_opens h).length_le
  alike q hts hus := by
    have h := parseExpression_alike room Operator.lowestLevel hts hus
    unfold parseLast
    generalize parseExpression room Operator.lowestLevel ts = first at h
    generalize parseExpression room Operator.lowestLevel us = second at h
    cases h with
    | past h =>
      cases first with
      | error e => exact .past h
      | ok p =>
        simp only
        split
        · exact .past (Nat.zero_le _)
        · exact .past h
    | error hreason he he' => exact .error hreason he he'
    | ok hp hp' =>
      simp only [hp, hp']
      exact .error rfl List.cons_append.symm List.cons_append.symm

/-- A statement leaves nothing either. -/
theorem follows_pure (n n' : Node) (ts us : List Token) :
    Follows r r' ts us (fun _ => []) (pure n) (pure n') :=
  ⟨Nat.zero_le _, fun _ _ _ => .past (Nat.zero_le _)⟩

theorem parseAssignment_follows (room : Nat) (ts us : List Token) :
    Follows r r' ts us (fun _ => []) (parseAssignment room ts) (parseAssignment room us) := by
  refine (parseName_follows _ ts us).bind ?_
  rintro ⟨name, rest⟩ ⟨name', rest'⟩
  refine (parseSymbol_follows _ _ rest rest').bind ?_
  intro rest rest'
  refine (parseLast_follows room rest rest').bind ?_
  intro value value'
  exact follows_pure _ _ _ _

theorem parseDefinition_follows (room : Nat) (ts us : List Token) :
    Follows r r' ts us (fun _ => []) (parseDefinition room ts) (parseDefinition room us) := by
  refine (parseName_follows _ ts us).bind ?_
  rintro ⟨name, rest⟩ ⟨name', rest'⟩
  refine (parseSymbol_follows _ _ rest rest').bind ?_
  intro rest rest'
  refine (parseParameters_follows rest rest').bind ?_
  rintro ⟨parameters, rest⟩ ⟨parameters', rest'⟩
  refine (parseSymbol_follows _ _ rest rest').bind ?_
  intro rest rest'
  refine (parseSymbol_follows _ _ rest rest').bind ?_
  intro rest rest'
  refine (parseLast_follows room rest rest').bind ?_
  intro body body'
  exact follows_pure _ _ _ _

/-- An attempt that failed within the common part failed on the other list as well. -/
theorem Follows.rejected {q : List Token} {x y : Except ParseError Node}
    (h : Follows r r' (q ++ r) (q ++ r') (fun _ => []) x y) {e : ParseError} (hx : x = .error e)
    (hdeep : e.reason ≠ .tooDeep) (hlength : r.length < e.rest.length) : Rejected y := by
  subst hx
  cases h.alike q rfl rfl with
  | past hpast => exact absurd hpast (Nat.not_le.2 hlength)
  | @error _ e' _ hreason => exact ⟨e', rfl, by rwa [hreason]⟩

end Common

/-- **Tokens that fail before `r` are the start of no statement**: whatever stands in place of `r`,
every form fails again. -/
theorem not_opensSentence_of_forms {room : Nat} {q r : List Token}
    (h : ∀ form ∈ forms room (q ++ r), ∃ e, form = .error e ∧ e.reason ≠ .tooDeep ∧
      r.length < e.rest.length) : ¬OpensSentence (lexemes q) := by
  rintro ⟨more, t, hsentence⟩
  -- tokens that say what the completion says
  obtain ⟨r', rfl⟩ : ∃ r', lexemes r' = more :=
    ⟨more.map (⟨·, "", .nowhere⟩), List.map_map.trans (List.map_id more)⟩
  rw [lexemes, lexemes, ← List.map_append] at hsentence
  obtain ⟨form, hform, hread⟩ := hsentence.readsAs room
  simp only [forms, List.mem_cons, List.not_mem_nil, or_false, forall_eq_or_imp, forall_eq] at h hform
  obtain ⟨⟨e₁, he₁, hdeep₁, hlt₁⟩, ⟨e₂, he₂, hdeep₂, hlt₂⟩, ⟨e₃, he₃, hdeep₃, hlt₃⟩⟩ := h
  apply hread.not_rejected
  rcases hform with rfl | rfl | rfl
  · exact (parseDefinition_follows room _ _).rejected he₁ hdeep₁ hlt₁
  · exact (parseAssignment_follows room _ _).rejected he₂ hdeep₂ hlt₂
  · exact (parseLast_follows room _ _).rejected he₃ hdeep₃ hlt₃

end Reckon
