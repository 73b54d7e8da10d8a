import Reckon.Proofs.Grammar.Sentence

/-!
# What was read before an error can be completed

An attempt at reading tokens fails only at a token that cannot stand there: whatever was read before
it is the start of some phrase. A start of a phrase is described by its completion (`Opens k`,
`OpensList`, `OpensNames`, `OpensSentence`), and each of these is closed under the contexts of the
grammar. So the readers need one fact each: at an error, the tokens read so far open what was asked
for. The reading of a statement ends the chain with `forms_opens`.
-/

namespace Reckon

/-- Some expression of tier `k` starts with the lexemes `ls`. -/
def Opens (k : Nat) (ls : List Lexeme) : Prop := ∃ more t, Phrase k (ls ++ more) t

/-- Some list of expressions starts with the lexemes `ls`. -/
def OpensList (ls : List Lexeme) : Prop := ∃ more ts, Phrases (ls ++ more) ts

/-- Some list of names starts with the lexemes `ls`. -/
def OpensNames (ls : List Lexeme) : Prop := ∃ more names, Names (ls ++ more) names

/-- Some statement starts with the lexemes `ls`. -/
def OpensSentence (ls : List Lexeme) : Prop := ∃ more t, Sentence (ls ++ more) t

theorem Phrase.opens {k : Nat} {ls : List Lexeme} {t : Node} (h : Phrase k ls t) : Opens k ls :=
  ⟨[], t, by rwa [List.append_nil]⟩

theorem opens_nil {k : Nat} (hpos : 1 ≤ k) (hle : k ≤ 7) : Opens k [] :=
  ⟨[.number 0 none], _, (Phrase.number 0 none).loosen hpos hle⟩

namespace Opens

variable {j k : Nat} {l ls : List Lexeme} {t : Node}

theorem loosen (h : Opens k ls) (hj : 1 ≤ j) (hjk : j ≤ k) : Opens j ls := by
  obtain ⟨more, t, h⟩ := h
  exact ⟨more, t, h.loosen hj hjk⟩

/-- The start of a right operand, after the left one and the operator. -/
theorem operation {op : Operator} (hl : Phrase op.leftTier l t) (h : Opens op.rightLevel ls) :
    Opens op.level (l ++ .symbol op.symbol :: ls) := by
  obtain ⟨more, t', h⟩ := h
  have hall := Phrase.operation op hl h
  exact ⟨more, _, by rwa [List.append_assoc, List.cons_append]⟩

theorem sign {s : Symbol} (hs : s = .plus ∨ s = .minus) (h : Opens 6 ls) :
    Opens 6 (.symbol s :: ls) := by
  obtain ⟨more, t, h⟩ := h
  rcases hs with rfl | rfl
  · exact ⟨more, _, .plus h⟩
  · exact ⟨more, _, .minus h⟩

theorem parens (h : Opens 1 ls) : Opens 7 (.symbol .lparen :: ls) := by
  obtain ⟨more, t, h⟩ := h
  have hall := Phrase.parens h
  rw [List.cons_append, List.append_assoc] at hall
  exact ⟨more ++ [.symbol .rparen], t, hall⟩

theorem list (h : Opens 1 ls) : OpensList ls := by
  obtain ⟨more, t, h⟩ := h
  exact ⟨more, [t], .one h⟩

end Opens

theorem OpensList.more {l ls : List Lexeme} {t : Node} (hl : Phrase 1 l t) (h : OpensList ls) :
    OpensList (l ++ .symbol .comma :: ls) := by
  obtain ⟨more, ts, h⟩ := h
  refine ⟨more, t :: ts, ?_⟩
  rw [List.append_assoc, List.cons_append]
  exact .more hl h

theorem OpensList.call {ls : List Lexeme} (h : OpensList ls) (name : String) :
    Opens 7 (.name name :: .symbol .lparen :: ls) := by
  obtain ⟨more, args, h⟩ := h
  have hall := Phrase.call name h
  rw [List.cons_append, List.cons_append, List.append_assoc] at hall
  exact ⟨more ++ [.symbol .rparen], _, hall⟩

theorem OpensNames.more {ls : List Lexeme} (h : OpensNames ls) (name : String) :
    OpensNames (.name name :: .symbol .comma :: ls) := by
  obtain ⟨more, names, h⟩ := h
  exact ⟨more, name :: names, .more name h⟩

/-- The tokens before the offending one satisfy `P`. -/
def ParseError.After (e : ParseError) (ts : List Token) (P : List Lexeme → Prop) : Prop :=
  ∃ used, ts = used ++ e.rest ∧ P (lexemes used)

/-- An attempt that failed at the very first token has read nothing. -/
theorem ParseError.after_nil {r : Rejection} {ts : List Token} {P : List Lexeme → Prop}
    (h : P []) : ParseError.After ⟨r, ts⟩ ts P :=
  ⟨[], rfl, h⟩

/-- What was read before, then what was read up to the error. -/
theorem ParseError.After.append {e : ParseError} {ts rest : List Token} {P Q : List Lexeme → Prop}
    (h : e.After rest P) (before : List Token) (hts : ts = before ++ rest)
    (hPQ : ∀ ls, P ls → Q (lexemes before ++ ls)) : e.After ts Q := by
  obtain ⟨used, rfl, hP⟩ := h
  refine ⟨before ++ used, by rw [hts, List.append_assoc], ?_⟩
  rw [lexemes, List.map_append]
  exact hPQ _ hP

theorem ParseError.After.length_le {e : ParseError} {ts : List Token} {P : List Lexeme → Prop}
    (h : e.After ts P) : e.rest.length ≤ ts.length := by
  obtain ⟨used, rfl, -⟩ := h
  simp

mutual

/-- **Up to an error, the start of an expression was read.** -/
theorem parseExpression_opens {room level : Nat} {ts : List Token} {e : ParseError}
    (h : parseExpression room level ts = .error e) (hpos : 1 ≤ level) (hle : level ≤ 5) :
    e.After ts (Opens level) := by
  rw [parseExpression.eq_def] at h
  match room with
  | 0 =>
    cases h
    exact ParseError.after_nil (opens_nil hpos (by omega))
  | room + 1 =>
    simp only at h
    split at h
    · rename_i e' hoperand
      cases h
      obtain ⟨used, hts, hopens⟩ := parseOperand_opens hoperand
      exact ⟨used, hts, hopens.loosen hpos (by omega)⟩
    · rename_i left hleft
      have hshort := left.shorter
      obtain ⟨used, hts, hphrase⟩ := parseOperand_sound hleft
      exact parseOperations_opens h hts hphrase (by omega) (admits_signed _) hpos
termination_by (ts.length, 2)

theorem parseOperations_opens {room level : Nat} {ts : List Token} {left : Parsed Node ts}
    {e : ParseError} (h : parseOperations room level left = .error e) {used : List Token} {k : Nat}
    (hts : ts = used ++ left.rest) (hphrase : Phrase k (lexemes used) left.value.bare)
    (hk : level ≤ k) (hadmits : Admits k left.rest) (hpos : 1 ≤ level) :
    e.After ts (Opens level) := by
  rw [parseOperations.eq_def] at h
  split at h
  · cases h
  · rename_i t after hrest
    split at h
    · cases h
    · rename_i op hop
      split at h
      · cases h
      · rename_i hge
        have hafter : after.length < left.rest.length := by simp [hrest]
        have hlex := Token.operator?_eq_some_iff.1 hop
        have hright := Nat.le_trans op.level_pos op.level_le_rightLevel
        have htier : op.leftTier ≤ k := hadmits t (by simp [hrest]) op hop
        have hl := hphrase.loosen (Nat.le_trans op.level_pos op.level_le_leftTier) htier
        split at h
        · rename_i e' herror
          cases h
          -- the left operand and the operator, then the start of a right operand
          refine (parseExpression_opens herror hright op.rightLevel_le).append
            (used ++ [t]) (by simp [hts, hrest]) fun ls hls => ?_
          have hopens := Opens.operation hl hls
          simpa [hlex] using hopens.loosen hpos (by omega)
        · rename_i right hparse
          have hshort : right.rest.length < left.rest.length := Nat.lt_trans right.shorter hafter
          obtain ⟨⟨more, hmore, hr⟩, hstops⟩ := parseExpression_sound hparse hright op.rightLevel_le
          have hall : ts = (used ++ t :: more) ++ right.rest :=
            hts.trans (by simpa [hrest] using hmore)
          have hwhole : Phrase op.level (lexemes (used ++ t :: more))
              (left.value.operation op right.value).bare := by
            rw [Node.bare_operation]
            simpa [hlex] using Phrase.operation op hl hr
          exact parseOperations_opens h hall hwhole (by omega) hstops.admits hpos
termination_by (left.rest.length, 0)

theorem parseOperand_opens {room : Nat} {ts : List Token} {e : ParseError}
    (h : parseOperand room ts = .error e) : e.After ts (Opens 6) := by
  have hnil : Opens 6 [] := opens_nil (by decide) (by decide)
  rw [parseOperand.eq_def] at h
  split at h
  · cases h
    exact ParseError.after_nil hnil
  · rename_i t after
    split at h
    · cases h
    · rename_i name ht
      split at h
      · cases h
      · rename_i u inner
        split at h
        · rename_i hu
          rw [Token.is_iff] at hu
          split at h
          · rename_i e' herror
            cases h
            -- the name and the parenthesis are the start of a call
            refine (parseArguments_opens herror).append [t, u] rfl fun ls hls => ?_
            have hopens := hls.call name
            simpa [ht, hu] using hopens.loosen (by decide) (by decide)
          · cases h
        · cases h
    · rename_i s ht
      split at h
      · rename_i hs
        match room with
        | 0 =>
          cases h
          exact ParseError.after_nil hnil
        | room + 1 =>
          simp only at h
          split at h
          · rename_i e' herror
            cases h
            refine (parseOperand_opens herror).append [t] rfl fun ls hls => ?_
            simpa [ht] using Opens.sign hs hls
          · cases h
      · split at h
        · rename_i hs
          subst hs
          split at h
          · rename_i e' herror
            cases h
            refine (parseExpression_opens herror (Nat.le_refl 1) (by decide)).append
              [t] rfl fun ls hls => ?_
            simpa [ht] using hls.parens.loosen (by decide) (by decide)
          · rename_i inner hinner
            -- the expression is complete, and its parenthesis is missing
            obtain ⟨⟨used, hts, hphrase⟩, -⟩ :=
              parseExpression_sound hinner (Nat.le_refl 1) (by decide)
            have hopens : Opens 6 (lexemes (t :: used)) := by
              simpa [ht] using hphrase.opens.parens.loosen (by decide) (by decide)
            split at h
            · rename_i hrest
              cases h
              exact ⟨t :: used, by simp [hts, hrest], hopens⟩
            · rename_i u rest hrest
              split at h
              · cases h
              · cases h
                exact ⟨t :: used, by simp [hts, hrest], hopens⟩
        · cases h
          exact ParseError.after_nil hnil
termination_by (ts.length, 1)

theorem parseArguments_opens {room : Nat} {ts : List Token} {e : ParseError}
    (h : parseArguments room ts = .error e) : e.After ts OpensList := by
  rw [parseArguments.eq_def] at h
  split at h
  · exact parseArgumentList_opens h
  · split at h
    · cases h
    · exact parseArgumentList_opens h
termination_by (ts.length, 4)
decreasing_by all_goals grind

theorem parseArgumentList_opens {room : Nat} {ts : List Token} {e : ParseError}
    (h : parseArgumentList room ts = .error e) : e.After ts OpensList := by
  rw [parseArgumentList.eq_def] at h
  split at h
  · rename_i e' herror
    cases h
    obtain ⟨used, hts, hopens⟩ := parseExpression_opens herror (Nat.le_refl 1) (by decide)
    exact ⟨used, hts, hopens.list⟩
  · rename_i first hfirst
    obtain ⟨⟨used, hts, hphrase⟩, -⟩ := parseExpression_sound hfirst (Nat.le_refl 1) (by decide)
    split at h
    · rename_i hrest
      cases h
      exact ⟨used, by rw [hts, hrest], hphrase.opens.list⟩
    · rename_i t rest hrest
      have hshort := first.length_lt_of_rest_eq hrest
      split at h
      · rename_i ht
        rw [Token.is_iff] at ht
        split at h
        · rename_i e' herror
          cases h
          refine (parseArgumentList_opens herror).append
            (used ++ [t]) (by simp [hts, hrest]) fun ls hls => ?_
          simpa [ht] using hls.more hphrase
        · cases h
      · split at h
        · cases h
        · cases h
          exact ⟨used, by rw [hts, hrest], hphrase.opens.list⟩
termination_by (ts.length, 3)

end

/-! ### Statements -/

/-- A definition, with or without parameters. -/
theorem Sentence.ofParameters (name : String) {ps ls : List Lexeme} {parameters : List String}
    {body : Node} (hps : parameters = [] ∧ ps = [] ∨ Names ps parameters) (h : Phrase 1 ls body) :
    Sentence (.name name :: .symbol .lparen :: ps ++ .symbol .rparen :: .symbol .assign :: ls)
      (.definition name parameters body .nowhere) := by
  rcases hps with ⟨rfl, rfl⟩ | hnames
  · exact .definitionOfNone name h
  · exact .definition name hnames h

theorem Opens.sentence {ls : List Lexeme} (h : Opens 1 ls) : OpensSentence ls := by
  obtain ⟨more, t, h⟩ := h
  exact ⟨more, t, .expression h⟩

theorem Opens.assignment {ls : List Lexeme} (h : Opens 1 ls) (name : String) :
    OpensSentence (.name name :: .symbol .assign :: ls) := by
  obtain ⟨more, t, h⟩ := h
  exact ⟨more, _, .assignment name h⟩

theorem Opens.definition {ps ls : List Lexeme} {parameters : List String} (h : Opens 1 ls)
    (name : String) (hps : parameters = [] ∧ ps = [] ∨ Names ps parameters) :
    OpensSentence
      (.name name :: .symbol .lparen :: ps ++ .symbol .rparen :: .symbol .assign :: ls) := by
  obtain ⟨more, t, h⟩ := h
  have hall := Sentence.ofParameters name hps h
  exact ⟨more, _, by simpa using hall⟩

/-- A start of something longer is a start of what that starts. -/
theorem OpensSentence.of_append {ls : List Lexeme} (more : List Lexeme)
    (h : OpensSentence (ls ++ more)) : OpensSentence ls := by
  obtain ⟨rest, t, h⟩ := h
  exact ⟨more ++ rest, t, by rwa [← List.append_assoc]⟩

theorem OpensNames.definition {ps : List Lexeme} (h : OpensNames ps) (name : String) :
    OpensSentence (.name name :: .symbol .lparen :: ps) := by
  obtain ⟨more, parameters, h⟩ := h
  have hall := (opens_nil (Nat.le_refl 1) (by decide)).definition name (.inr h)
  refine OpensSentence.of_append (more ++ [.symbol .rparen, .symbol .assign]) ?_
  simpa using hall

theorem opensSentence_nil : OpensSentence [] :=
  (opens_nil (Nat.le_refl 1) (by decide)).sentence

theorem opensSentence_name (name : String) : OpensSentence [.name name] :=
  ((Phrase.reference name).loosen (Nat.le_refl 1) (by decide)).opens.sentence

theorem parseName_error {what : Expected} {ts : List Token} {e : ParseError}
    (h : parseName what ts = .error e) : e = ⟨.expected what, ts⟩ := by
  unfold parseName at h
  grind

theorem parseSymbol_error {s : Symbol} {what : Expected} {ts : List Token} {e : ParseError}
    (h : parseSymbol s what ts = .error e) : e = ⟨.expected what, ts⟩ := by
  unfold parseSymbol at h
  grind

theorem opensNames_nil : OpensNames [] := ⟨[.name "x"], _, .one "x"⟩

/-- Where names after commas cannot be read, a comma and the start of names have been read. -/
theorem parseMoreParameters_opens {ts : List Token} {e : ParseError}
    (h : parseMoreParameters ts = .error e) :
    ∃ c rest, ts = c :: rest ∧ c.lexeme = .symbol .comma ∧ e.After rest OpensNames := by
  fun_induction parseMoreParameters ts with
  | case1 => cases h
  | case2 c hc =>
    cases h
    exact ⟨c, [], rfl, Token.is_iff.1 hc, ParseError.after_nil opensNames_nil⟩
  | case3 => cases h
  | case4 c hc t ts name ht e' herror ih =>
    cases h
    obtain ⟨c', rest, rfl, hc', hopens⟩ := ih herror
    refine ⟨c, _, rfl, Token.is_iff.1 hc, hopens.append [t, c'] rfl fun ls hls => ?_⟩
    simpa [ht, hc'] using hls.more name
  | case5 c hc t ts =>
    cases h
    exact ⟨c, _, rfl, Token.is_iff.1 hc, ParseError.after_nil opensNames_nil⟩
  | case6 => cases h

theorem parseParameters_opens {ts : List Token} {e : ParseError}
    (h : parseParameters ts = .error e) : e.After ts OpensNames := by
  unfold parseParameters at h
  split at h
  · cases h
  · rcases bind_eq_error_iff.1 h with hname | ⟨⟨name, rest⟩, hname, hmore⟩
    · rw [parseName_error hname]
      exact ParseError.after_nil opensNames_nil
    · obtain ⟨t, rfl, ht⟩ := parseName_eq_ok_iff.1 hname
      rcases bind_eq_error_iff.1 hmore with hmore | ⟨_, _, hmore⟩
      · obtain ⟨c, rest, rfl, hc, hopens⟩ := parseMoreParameters_opens hmore
        refine hopens.append [t, c] rfl fun ls hls => ?_
        simpa [ht, hc] using hls.more name
      · cases hmore

theorem parseLast_opens {room : Nat} {ts : List Token} {e : ParseError}
    (h : parseLast room ts = .error e) : e.After ts (Opens 1) := by
  unfold parseLast at h
  split at h
  · rename_i e' herror
    cases h
    exact parseExpression_opens herror (Nat.le_refl 1) (by decide)
  · rename_i p hp
    split at h
    · cases h
    · cases h
      obtain ⟨⟨used, hts, hphrase⟩, -⟩ := parseExpression_sound hp (Nat.le_refl 1) (by decide)
      exact ⟨used, hts, hphrase.opens⟩

theorem parseAssignment_opens {room : Nat} {ts : List Token} {e : ParseError}
    (h : parseAssignment room ts = .error e) : e.After ts OpensSentence := by
  rcases bind_eq_error_iff.1 h with h | ⟨⟨name, rest⟩, hname, h⟩
  · rw [parseName_error h]
    exact ParseError.after_nil opensSentence_nil
  obtain ⟨t, rfl, ht⟩ := parseName_eq_ok_iff.1 hname
  rcases bind_eq_error_iff.1 h with h | ⟨rest, hequals, h⟩
  · rw [parseSymbol_error h]
    exact ⟨[t], rfl, by simpa [ht] using opensSentence_name name⟩
  obtain ⟨q, rfl, hq⟩ := parseSymbol_eq_ok_iff.1 hequals
  rcases bind_eq_error_iff.1 h with h | ⟨_, _, h⟩
  · refine (parseLast_opens h).append [t, q] rfl fun ls hls => ?_
    simpa [ht, hq] using hls.assignment name
  · cases h

theorem parseDefinition_opens {room : Nat} {ts : List Token} {e : ParseError}
    (h : parseDefinition room ts = .error e) : e.After ts OpensSentence := by
  rcases bind_eq_error_iff.1 h with h | ⟨⟨name, rest⟩, hname, h⟩
  · rw [parseName_error h]
    exact ParseError.after_nil opensSentence_nil
  obtain ⟨t, rfl, ht⟩ := parseName_eq_ok_iff.1 hname
  rcases bind_eq_error_iff.1 h with h | ⟨inner, hopening, h⟩
  · rw [parseSymbol_error h]
    exact ⟨[t], rfl, by simpa [ht] using opensSentence_name name⟩
  obtain ⟨u, rfl, hu⟩ := parseSymbol_eq_ok_iff.1 hopening
  rcases bind_eq_error_iff.1 h with h | ⟨⟨parameters, rest⟩, hparameters, h⟩
  · refine (parseParameters_opens h).append [t, u] rfl fun ls hls => ?_
    simpa [ht, hu] using hls.definition name
  -- from here on the parameters are known, and a whole definition continues what was read
  obtain ⟨used, hinner, hps⟩ : ∃ used, inner = used ++ rest ∧
      (parameters = [] ∧ lexemes used = [] ∨ Names (lexemes used) parameters) := by
    rcases parseParameters_sound hparameters with ⟨hnil, rfl⟩ | ⟨used, hts, hnames⟩
    · exact ⟨[], rfl, .inl ⟨hnil, rfl⟩⟩
    · exact ⟨used, hts, .inr hnames⟩
  subst hinner
  have hwhole : ∀ ls, Opens 1 ls → OpensSentence (.name name :: .symbol .lparen :: lexemes used ++
      .symbol .rparen :: .symbol .assign :: ls) := fun ls hls => hls.definition name hps
  have hstart := hwhole [] (opens_nil (Nat.le_refl 1) (by decide))
  rcases bind_eq_error_iff.1 h with h | ⟨rest, hclosing, h⟩
  · rw [parseSymbol_error h]
    refine ⟨t :: u :: used, rfl, ?_⟩
    simpa [ht, hu] using hstart.of_append [.symbol .rparen, .symbol .assign]
  obtain ⟨c, rfl, hc⟩ := parseSymbol_eq_ok_iff.1 hclosing
  rcases bind_eq_error_iff.1 h with h | ⟨rest, hequals, h⟩
  · rw [parseSymbol_error h]
    refine ⟨t :: u :: used ++ [c], by simp, ?_⟩
    refine OpensSentence.of_append [.symbol .assign] ?_
    simpa [ht, hu, hc] using hstart
  obtain ⟨q, rfl, hq⟩ := parseSymbol_eq_ok_iff.1 hequals
  rcases bind_eq_error_iff.1 h with h | ⟨_, _, h⟩
  · refine (parseLast_opens h).append (t :: u :: used ++ [c, q]) (by simp) fun ls hls => ?_
    simpa [ht, hu, hc, hq] using hwhole ls hls
  · cases h

/-- **Whichever form of statement fails, the start of a statement was read.** -/
theorem forms_opens {room : Nat} {ts : List Token} {e : ParseError}
    (h : .error e ∈ forms room ts) : e.After ts OpensSentence := by
  simp only [forms, List.mem_cons, List.not_mem_nil, or_false] at h
  rcases h with h | h | h
  · exact parseDefinition_opens h.symm
  · exact parseAssignment_opens h.symm
  · obtain ⟨used, hts, hopens⟩ := parseLast_opens h.symm
    exact ⟨used, hts, hopens.sentence⟩

end Reckon
