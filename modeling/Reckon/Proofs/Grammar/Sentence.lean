import Reckon.Line
import Reckon.Proofs.Grammar.Complete

/-!
# Statements and their grammar

* `parseExpression_room`: every level of nesting takes a token, so the nesting limit cannot be hit
  where there is room for as many levels as there are tokens.
-/

namespace Reckon

mutual

/-- **Every level of nesting takes a token.** -/
theorem parseExpression_room {room level : Nat} {ts : List Token} {e : ParseError}
    (h : parseExpression room level ts = .error e) (he : e.reason = .tooDeep) :
    room ≤ ts.length := by
  rw [parseExpression.eq_def] at h
  match room with
  | 0 => exact Nat.zero_le _
  | room + 1 =>
    simp only at h
    split at h
    · rename_i e' he'
      cases h
      exact parseOperand_room he' he
    · rename_i left _
      have hshort := left.shorter
      have := parseOperations_room h he
      omega
termination_by (ts.length, 2)

theorem parseOperations_room {room level : Nat} {ts : List Token} {left : Parsed Node ts}
    {e : ParseError} (h : parseOperations room level left = .error e) (he : e.reason = .tooDeep) :
    room < left.rest.length := by
  rw [parseOperations.eq_def] at h
  split at h
  · cases h
  · rename_i t after hrest
    have hafter : after.length < left.rest.length := by simp [hrest]
    split at h
    · cases h
    · split at h
      · cases h
      · split at h
        · rename_i e' he'
          cases h
          have := parseExpression_room he' he
          omega
        · rename_i right _
          have hshort : right.rest.length < left.rest.length := Nat.lt_trans right.shorter hafter
          have hroom := parseOperations_room h he
          simp only at hroom
          omega
termination_by (left.rest.length, 0)

theorem parseOperand_room {room : Nat} {ts : List Token} {e : ParseError}
    (h : parseOperand room ts = .error e) (he : e.reason = .tooDeep) : room < ts.length := by
  rw [parseOperand.eq_def] at h
  split at h
  · cases h; cases he
  · rename_i t after
    split at h
    · cases h
    · split at h
      · cases h
      · split at h
        · split at h
          · rename_i he'
            cases h
            have := parseArguments_room he' he
            simp only [List.length_cons]; omega
          · cases h
        · cases h
    · split at h
      · match room with
        | 0 => simp
        | room + 1 =>
          simp only at h
          split at h
          · rename_i he'
            cases h
            have := parseOperand_room he' he
            simp only [List.length_cons]; omega
          · cases h
      · split at h
        · split at h
          · rename_i he'
            cases h
            have := parseExpression_room he' he
            simp only [List.length_cons]; omega
          · split at h
            · cases h; cases he
            · split at h
              · cases h
              · cases h; cases he
        · cases h; cases he
termination_by (ts.length, 1)

theorem parseArguments_room {room : Nat} {ts : List Token} {e : ParseError}
    (h : parseArguments room ts = .error e) (he : e.reason = .tooDeep) : room ≤ ts.length := by
  rw [parseArguments.eq_def] at h
  split at h
  · exact parseArgumentList_room h he
  · split at h
    · cases h
    · exact parseArgumentList_room h he
termination_by (ts.length, 4)
decreasing_by all_goals grind

theorem parseArgumentList_room {room : Nat} {ts : List Token} {e : ParseError}
    (h : parseArgumentList room ts = .error e) (he : e.reason = .tooDeep) : room ≤ ts.length := by
  rw [parseArgumentList.eq_def] at h
  split at h
  · rename_i he'
    cases h
    exact parseExpression_room he' he
  · rename_i first _
    split at h
    · cases h; cases he
    · rename_i t rest hrest
      have hshort := first.length_lt_of_rest_eq hrest
      split at h
      · split at h
        · rename_i he'
          cases h
          have := parseArgumentList_room he' he
          omega
        · cases h
      · split at h
        · cases h
        · cases h; cases he
termination_by (ts.length, 3)

end

theorem bind_eq_ok_iff {ε α β : Type} {x : Except ε α} {f : α → Except ε β} {b : β} :
    x >>= f = .ok b ↔ ∃ a, x = .ok a ∧ f a = .ok b := by
  cases x <;> simp [bind, Except.bind]

theorem parseName_eq_ok_iff {what : Expected} {ts rest : List Token} {name : String} :
    parseName what ts = .ok (name, rest) ↔ ∃ t, ts = t :: rest ∧ t.lexeme = .name name := by
  cases ts with
  | nil => simp [parseName]
  | cons t ts =>
    unfold parseName
    split
    · rename_i h; grind
    · rename_i h; grind

theorem parseSymbol_eq_ok_iff {s : Symbol} {what : Expected} {ts rest : List Token} :
    parseSymbol s what ts = .ok rest ↔ ∃ t, ts = t :: rest ∧ t.lexeme = .symbol s := by
  cases ts with
  | nil => simp [parseSymbol]
  | cons t ts =>
    simp only [parseSymbol]
    by_cases h : t.is s = true
    · rw [if_pos h]; rw [Token.is_iff] at h; grind
    · rw [if_neg h]; rw [Token.is_iff] at h; grind

/-- Names after commas are read up to the token that is no comma. -/
theorem parseMoreParameters_sound {ts rest : List Token} {names : List String}
    (h : parseMoreParameters ts = .ok (names, rest)) :
    (names = [] ∧ ts = rest) ∨
      ∃ c used, ts = c :: used ++ rest ∧ c.lexeme = .symbol .comma ∧ Names (lexemes used) names := by
  fun_induction parseMoreParameters ts generalizing names rest with
  | case1 => simp_all
  | case2 => cases h
  | case3 c hc t ts name ht names' rest' hmore ih =>
    cases h
    rw [Token.is_iff] at hc
    rcases ih hmore with ⟨rfl, rfl⟩ | ⟨c', used, rfl, hc', hnames⟩
    · exact .inr ⟨c, [t], rfl, hc, by simpa [ht] using .one name⟩
    · exact .inr ⟨c, t :: c' :: used, rfl, hc, by simpa [ht, hc'] using .more name hnames⟩
  | case4 => cases h
  | case5 => cases h
  | case6 => cases h; exact .inl ⟨rfl, rfl⟩

theorem parseMoreParameters_of_not_comma {ts : List Token}
    (h : ∀ t ∈ ts.head?, t.lexeme ≠ .symbol .comma) : parseMoreParameters ts = .ok ([], ts) := by
  cases ts with
  | nil => rfl
  | cons t ts =>
    have ht : ¬ t.is .comma = true := fun hc => h t (by simp) (Token.is_iff.1 hc)
    rw [parseMoreParameters.eq_def]
    simp only
    rw [if_neg ht]

theorem parseMoreParameters_of_names {ls : List Lexeme} {names : List String} (h : Names ls names) :
    ∀ {c : Token} {used rest : List Token}, c.lexeme = .symbol .comma → lexemes used = ls →
      (∀ t ∈ rest.head?, t.lexeme ≠ .symbol .comma) →
      parseMoreParameters (c :: used ++ rest) = .ok (names, rest) := by
  induction h with
  | one name =>
    intro c used rest hc hused hrest
    obtain ⟨t, rfl, ht⟩ := List.map_eq_singleton_iff.1 hused
    simp only [List.cons_append, List.nil_append]
    rw [parseMoreParameters.eq_def]
    simp only [ht]
    rw [if_pos (Token.is_iff.2 hc), parseMoreParameters_of_not_comma hrest]
  | more name _ ih =>
    intro c used rest hc hused hrest
    obtain ⟨t, more, rfl, ht, hmore⟩ := List.map_eq_cons_iff.1 hused
    obtain ⟨c', used', rfl, hc', hused'⟩ := List.map_eq_cons_iff.1 hmore
    simp only [List.cons_append]
    rw [parseMoreParameters.eq_def]
    simp only [ht]
    have := ih hc' hused' hrest
    rw [List.cons_append] at this
    rw [if_pos (Token.is_iff.2 hc), this]

/-- What is read as parameters are names, or nothing before the closing parenthesis. -/
theorem parseParameters_sound {ts rest : List Token} {names : List String}
    (h : parseParameters ts = .ok (names, rest)) :
    (names = [] ∧ ts = rest) ∨ ∃ used, ts = used ++ rest ∧ Names (lexemes used) names := by
  unfold parseParameters at h
  split at h
  · cases h; exact .inl ⟨rfl, rfl⟩
  · obtain ⟨⟨first, ts'⟩, hfirst, h⟩ := bind_eq_ok_iff.1 h
    obtain ⟨⟨more, rest'⟩, hmore, h⟩ := bind_eq_ok_iff.1 h
    cases h
    obtain ⟨t, rfl, ht⟩ := parseName_eq_ok_iff.1 hfirst
    rcases parseMoreParameters_sound hmore with ⟨rfl, rfl⟩ | ⟨c, used, rfl, hc, hnames⟩
    · exact .inr ⟨[t], rfl, by simpa [ht] using .one first⟩
    · exact .inr ⟨t :: c :: used, rfl, by simpa [ht, hc] using .more first hnames⟩

theorem parseParameters_of_rparen {t : Token} {rest : List Token}
    (ht : t.lexeme = .symbol .rparen) : parseParameters (t :: rest) = .ok ([], t :: rest) := by
  unfold parseParameters
  rw [if_pos (by simpa using Token.is_iff.2 ht)]

theorem parseParameters_of_names {ls : List Lexeme} {names : List String} (h : Names ls names)
    {used rest : List Token} (hused : lexemes used = ls)
    (hrest : ∀ t ∈ rest.head?, t.lexeme ≠ .symbol .comma) :
    parseParameters (used ++ rest) = .ok (names, rest) := by
  -- the first name, and the names after it
  obtain ⟨t, more, name, names', rfl, ht, rfl, hmore⟩ : ∃ t more name names', used = t :: more ∧
      t.lexeme = .name name ∧ names = name :: names' ∧
      parseMoreParameters (more ++ rest) = .ok (names', rest) := by
    cases h with
    | one name =>
      obtain ⟨t, rfl, ht⟩ := List.map_eq_singleton_iff.1 hused
      exact ⟨t, [], name, [], rfl, ht, rfl, parseMoreParameters_of_not_comma hrest⟩
    | more name h =>
      obtain ⟨t, more, rfl, ht, hmore⟩ := List.map_eq_cons_iff.1 hused
      obtain ⟨c, used', rfl, hc, hused'⟩ := List.map_eq_cons_iff.1 hmore
      exact ⟨t, _, name, _, rfl, ht, rfl, parseMoreParameters_of_names h hc hused' hrest⟩
  have hname : parseName .parameterName (t :: more ++ rest) = .ok (name, more ++ rest) :=
    parseName_eq_ok_iff.2 ⟨t, rfl, ht⟩
  unfold parseParameters
  rw [if_neg (by simp [Token.is_iff, ht]), hname]
  simp only [bind, Except.bind, hmore]
  rfl

/-- The outcome is the tree `t`, or there was no room for another level of nesting. -/
def ReadsAs (outcome : Except ParseError Node) (t : Node) : Prop :=
  match outcome with
  | .ok n => n.bare = t
  | .error e => e.reason = .tooDeep

/-- There was no room for another level of nesting. -/
def HitsLimit (outcome : Except ParseError Node) : Prop :=
  ∃ e, outcome = .error e ∧ e.reason = .tooDeep

/-- The tokens are no statement of this form. -/
def Rejected (outcome : Except ParseError Node) : Prop :=
  ∃ e, outcome = .error e ∧ e.reason ≠ .tooDeep

theorem ReadsAs.not_rejected {outcome : Except ParseError Node} {t : Node}
    (h : ReadsAs outcome t) : ¬ Rejected outcome := by
  rintro ⟨e, rfl, he⟩
  exact he h

theorem rejected_of_not_ok {outcome : Except ParseError Node} (h : ¬ HitsLimit outcome)
    (hok : ∀ n, outcome ≠ .ok n) : Rejected outcome := by
  cases outcome with
  | ok n => exact absurd rfl (hok n)
  | error e => exact ⟨e, rfl, fun he => h ⟨e, rfl, he⟩⟩

theorem parseLast_sound {room : Nat} {ts : List Token} {n : Node} (h : parseLast room ts = .ok n) :
    Phrase 1 (lexemes ts) n.bare := by
  unfold parseLast at h
  split at h
  · cases h
  · rename_i p hp
    split at h
    · rename_i hempty
      cases h
      obtain ⟨⟨used, hts, hphrase⟩, -⟩ := parseExpression_sound hp (Nat.le_refl 1) (by decide)
      rw [List.isEmpty_iff.1 hempty, List.append_nil] at hts
      exact hts ▸ hphrase
    · cases h

theorem parseLast_complete {ts : List Token} {t : Node} (h : Phrase 1 (lexemes ts) t)
    (room : Nat) : ReadsAs (parseLast room ts) t := by
  have hread : Reads (parseExpression room Operator.lowestLevel ts) _ :=
    h.readsExpression.whole (List.append_nil ts).symm rfl (by simp [NoCall]) (by simp [Stops])
  unfold parseLast
  revert hread
  cases parseExpression room Operator.lowestLevel ts with
  | error e => exact id
  | ok p =>
    rintro ⟨hp, hrest⟩
    simp only
    rw [if_pos (List.isEmpty_iff.2 hrest)]
    exact hp

/-- What is read as an assignment is one. -/
theorem parseAssignment_sound {room : Nat} {ts : List Token} {n : Node}
    (h : parseAssignment room ts = .ok n) :
    ∃ name ls value, lexemes ts = .name name :: .symbol .assign :: ls ∧ Phrase 1 ls value ∧
      n.bare = .assignment name value .nowhere := by
  obtain ⟨⟨name, afterName⟩, hname, h⟩ := bind_eq_ok_iff.1 h
  obtain ⟨afterEquals, hequals, h⟩ := bind_eq_ok_iff.1 h
  obtain ⟨value, hvalue, h⟩ := bind_eq_ok_iff.1 h
  cases h
  obtain ⟨t, rfl, ht⟩ := parseName_eq_ok_iff.1 hname
  obtain ⟨u, rfl, hu⟩ := parseSymbol_eq_ok_iff.1 hequals
  exact ⟨name, _, _, by simp [ht, hu], parseLast_sound hvalue, by rw [Node.bare]⟩

/-- What is read as a definition is one. -/
theorem parseDefinition_sound {room : Nat} {ts : List Token} {n : Node}
    (h : parseDefinition room ts = .ok n) :
    ∃ name ls, lexemes ts = .name name :: .symbol .lparen :: ls ∧ .symbol .assign ∈ ls ∧
      Sentence (lexemes ts) n.bare := by
  obtain ⟨⟨name, afterName⟩, hname, h⟩ := bind_eq_ok_iff.1 h
  obtain ⟨inner, hopening, h⟩ := bind_eq_ok_iff.1 h
  obtain ⟨⟨parameters, afterParameters⟩, hparameters, h⟩ := bind_eq_ok_iff.1 h
  obtain ⟨afterClosing, hclosing, h⟩ := bind_eq_ok_iff.1 h
  obtain ⟨afterEquals, hequals, h⟩ := bind_eq_ok_iff.1 h
  obtain ⟨body, hbody, h⟩ := bind_eq_ok_iff.1 h
  cases h
  obtain ⟨t, rfl, ht⟩ := parseName_eq_ok_iff.1 hname
  obtain ⟨u, rfl, hu⟩ := parseSymbol_eq_ok_iff.1 hopening
  obtain ⟨c, rfl, hc⟩ := parseSymbol_eq_ok_iff.1 hclosing
  obtain ⟨q, rfl, hq⟩ := parseSymbol_eq_ok_iff.1 hequals
  have hphrase := parseLast_sound hbody
  rw [Node.bare]
  rcases parseParameters_sound hparameters with ⟨rfl, rfl⟩ | ⟨used, rfl, hnames⟩
  · refine ⟨name, lexemes (c :: q :: afterEquals), by simp [ht, hu], by simp [hq], ?_⟩
    simpa [ht, hu, hc, hq] using .definitionOfNone name hphrase
  · refine ⟨name, lexemes (used ++ c :: q :: afterEquals), by simp [ht, hu], by simp [hq], ?_⟩
    simpa [ht, hu, hc, hq] using .definition name hnames hphrase

theorem parseAssignment_complete {ts : List Token} {name : String} {ls : List Lexeme} {value : Node}
    (hts : lexemes ts = .name name :: .symbol .assign :: ls) (h : Phrase 1 ls value) (room : Nat) :
    ReadsAs (parseAssignment room ts) (.assignment name value .nowhere) := by
  obtain ⟨t, more, rfl, ht, hmore⟩ := List.map_eq_cons_iff.1 hts
  obtain ⟨u, rest, rfl, hu, rfl⟩ := List.map_eq_cons_iff.1 hmore
  unfold parseAssignment
  rw [parseName_eq_ok_iff.2 ⟨t, rfl, ht⟩]
  simp only [bind, Except.bind]
  rw [parseSymbol_eq_ok_iff.2 ⟨u, rfl, hu⟩]
  have hread := parseLast_complete h room
  revert hread
  simp only
  cases parseLast room rest with
  | error e => exact id
  | ok n =>
    intro hn
    show (Node.assignment name n _).bare = _
    rw [Node.bare, show n.bare = value from hn]

/-- A definition is read, given that its parameters are. -/
theorem parseDefinition_complete {ts inner : List Token} {t u c q : Token} {rest : List Token}
    {name : String} {parameters : List String} {body : Node}
    (hts : ts = t :: u :: inner) (ht : t.lexeme = .name name) (hu : u.lexeme = .symbol .lparen)
    (hparameters : parseParameters inner = .ok (parameters, c :: q :: rest))
    (hc : c.lexeme = .symbol .rparen) (hq : q.lexeme = .symbol .assign)
    (h : Phrase 1 (lexemes rest) body) (room : Nat) :
    ReadsAs (parseDefinition room ts) (.definition name parameters body .nowhere) := by
  unfold parseDefinition
  rw [parseName_eq_ok_iff.2 ⟨t, hts, ht⟩]
  simp only [bind, Except.bind]
  rw [parseSymbol_eq_ok_iff.2 ⟨u, rfl, hu⟩]
  simp only [hparameters]
  rw [parseSymbol_eq_ok_iff.2 ⟨c, rfl, hc⟩]
  simp only
  rw [parseSymbol_eq_ok_iff.2 ⟨q, rfl, hq⟩]
  have hread := parseLast_complete h room
  revert hread
  simp only
  cases parseLast room rest with
  | error e => exact id
  | ok n =>
    intro hn
    show (Node.definition name parameters n _).bare = _
    rw [Node.bare, show n.bare = body from hn]

/-- The forms of statements in the order in which they are tried. -/
def forms (room : Nat) (ts : List Token) : List (Except ParseError Node) :=
  [parseDefinition room ts, parseAssignment room ts, parseLast room ts]

/-- **Every sentence is read by one of the forms.** -/
theorem Sentence.readsAs {ts : List Token} {t : Node} (h : Sentence (lexemes ts) t) (room : Nat) :
    ∃ form ∈ forms room ts, ReadsAs form t := by
  generalize hls : lexemes ts = ls at h
  cases h with
  | definitionOfNone name h =>
    obtain ⟨t, _, rfl, ht, hmore⟩ := List.map_eq_cons_iff.1 hls
    obtain ⟨u, _, rfl, hu, hmore⟩ := List.map_eq_cons_iff.1 hmore
    obtain ⟨c, _, rfl, hc, hmore⟩ := List.map_eq_cons_iff.1 hmore
    obtain ⟨q, rest, rfl, hq, rfl⟩ := List.map_eq_cons_iff.1 hmore
    exact ⟨_, List.mem_cons_self, parseDefinition_complete rfl ht hu (parseParameters_of_rparen hc)
      hc hq h room⟩
  | definition name hnames h =>
    obtain ⟨t, _, rfl, ht, hmore⟩ := List.map_eq_cons_iff.1 hls
    obtain ⟨u, _, rfl, hu, hmore⟩ := List.map_eq_cons_iff.1 hmore
    obtain ⟨used, _, rfl, hused, hmore⟩ := List.map_eq_append_iff.1 hmore
    obtain ⟨c, _, rfl, hc, hmore⟩ := List.map_eq_cons_iff.1 hmore
    obtain ⟨q, rest, rfl, hq, rfl⟩ := List.map_eq_cons_iff.1 hmore
    have hparameters : parseParameters (used ++ c :: q :: rest) = _ :=
      parseParameters_of_names hnames hused (by simp [hc])
    exact ⟨_, List.mem_cons_self, parseDefinition_complete rfl ht hu hparameters hc hq h room⟩
  | assignment name h => exact ⟨_, by simp [forms], parseAssignment_complete hls h room⟩
  | expression h => exact ⟨_, by simp [forms], parseLast_complete (hls ▸ h) room⟩

/-- **What a form reads is a sentence.** -/
theorem sentence_of_form {room : Nat} {ts : List Token} {form : Except ParseError Node} {n : Node}
    (hform : form ∈ forms room ts) (h : form = .ok n) : Sentence (lexemes ts) n.bare := by
  subst h
  simp only [forms, List.mem_cons, List.not_mem_nil, or_false] at hform
  rcases hform with h | h | h
  · obtain ⟨_, _, _, _, hsentence⟩ := parseDefinition_sound h.symm
    exact hsentence
  · obtain ⟨name, ls, value, hts, hphrase, hn⟩ := parseAssignment_sound h.symm
    rw [hts, hn]; exact .assignment name hphrase
  · exact .expression (parseLast_sound h.symm)

/-- No two forms read the same tokens: a definition has a parenthesis where an assignment has its
equals sign, and an expression has no equals sign at all. -/
theorem form_unique {room : Nat} {ts : List Token} {a b : Node} (ha : .ok a ∈ forms room ts)
    (hb : .ok b ∈ forms room ts) : a = b := by
  have hdefinition : ∀ {n}, parseDefinition room ts = .ok n →
      ∃ name ls, lexemes ts = .name name :: .symbol .lparen :: ls ∧ .symbol .assign ∈ ls :=
    fun h => by obtain ⟨name, ls, hts, hassign, -⟩ := parseDefinition_sound h; exact ⟨_, _, hts, hassign⟩
  have hassignment : ∀ {n}, parseAssignment room ts = .ok n →
      ∃ name ls, lexemes ts = .name name :: .symbol .assign :: ls :=
    fun h => by obtain ⟨name, ls, _, hts, -⟩ := parseAssignment_sound h; exact ⟨_, _, hts⟩
  have hlast : ∀ {n}, parseLast room ts = .ok n → .symbol .assign ∉ lexemes ts :=
    fun h => (parseLast_sound h).assign_not_mem
  simp only [forms, List.mem_cons, List.not_mem_nil, or_false] at ha hb
  grind

theorem eitherForm_eq_ok {first second : Except ParseError Node} {n : Node}
    (h : eitherForm first second = .ok n) : first = .ok n ∨ second = .ok n := by
  unfold eitherForm at h
  grind

theorem hitsLimit_of_eitherForm {first second : Except ParseError Node}
    (h : HitsLimit (eitherForm first second)) : HitsLimit first ∨ HitsLimit second := by
  obtain ⟨e, h, he⟩ := h
  unfold eitherForm at h
  grind [HitsLimit, ParseError.furthest]

theorem rejected_of_eitherForm {first second : Except ParseError Node}
    (h : Rejected (eitherForm first second)) : Rejected first ∧ Rejected second := by
  obtain ⟨e, h, he⟩ := h
  unfold eitherForm at h
  grind [Rejected]

theorem bind_eq_error_iff {ε α β : Type} {x : Except ε α} {f : α → Except ε β} {e : ε} :
    x >>= f = .error e ↔ x = .error e ∨ ∃ a, x = .ok a ∧ f a = .error e := by
  cases x <;> simp [bind, Except.bind]

theorem parseName_not_tooDeep {what : Expected} {ts : List Token} {e : ParseError}
    (h : parseName what ts = .error e) : e.reason ≠ .tooDeep := by
  unfold parseName at h
  grind

theorem parseSymbol_not_tooDeep {s : Symbol} {what : Expected} {ts : List Token} {e : ParseError}
    (h : parseSymbol s what ts = .error e) : e.reason ≠ .tooDeep := by
  unfold parseSymbol at h
  grind

theorem parseMoreParameters_not_tooDeep {ts : List Token} {e : ParseError}
    (h : parseMoreParameters ts = .error e) : e.reason ≠ .tooDeep := by
  fun_induction parseMoreParameters ts with grind

theorem parseParameters_not_tooDeep {ts : List Token} {e : ParseError}
    (h : parseParameters ts = .error e) : e.reason ≠ .tooDeep := by
  unfold parseParameters at h
  split at h
  · cases h
  · rcases bind_eq_error_iff.1 h with h | ⟨_, _, h⟩
    · exact parseName_not_tooDeep h
    · rcases bind_eq_error_iff.1 h with h | ⟨_, _, h⟩
      · exact parseMoreParameters_not_tooDeep h
      · cases h

theorem parseLast_room {room : Nat} {ts : List Token} (h : HitsLimit (parseLast room ts)) :
    room ≤ ts.length := by
  obtain ⟨e, h, he⟩ := h
  unfold parseLast at h
  split at h
  · rename_i h'
    cases h
    exact parseExpression_room h' he
  · split at h
    · cases h
    · cases h; cases he

theorem parseAssignment_room {room : Nat} {ts : List Token}
    (h : HitsLimit (parseAssignment room ts)) : room ≤ ts.length := by
  obtain ⟨e, h, he⟩ := h
  rcases bind_eq_error_iff.1 h with h | ⟨⟨_, afterName⟩, hname, h⟩
  · exact absurd he (parseName_not_tooDeep h)
  rcases bind_eq_error_iff.1 h with h | ⟨afterEquals, hequals, h⟩
  · exact absurd he (parseSymbol_not_tooDeep h)
  rcases bind_eq_error_iff.1 h with hlast | ⟨_, _, h⟩
  · obtain ⟨_, rfl, -⟩ := parseName_eq_ok_iff.1 hname
    obtain ⟨_, rfl, -⟩ := parseSymbol_eq_ok_iff.1 hequals
    have := parseLast_room ⟨e, hlast, he⟩
    simp only [List.length_cons]; omega
  · cases h

theorem parseDefinition_room {room : Nat} {ts : List Token}
    (h : HitsLimit (parseDefinition room ts)) : room ≤ ts.length := by
  obtain ⟨e, h, he⟩ := h
  rcases bind_eq_error_iff.1 h with h | ⟨⟨_, afterName⟩, hname, h⟩
  · exact absurd he (parseName_not_tooDeep h)
  rcases bind_eq_error_iff.1 h with h | ⟨inner, hopening, h⟩
  · exact absurd he (parseSymbol_not_tooDeep h)
  rcases bind_eq_error_iff.1 h with h | ⟨⟨names, afterParameters⟩, hparameters, h⟩
  · exact absurd he (parseParameters_not_tooDeep h)
  rcases bind_eq_error_iff.1 h with h | ⟨afterClosing, hclosing, h⟩
  · exact absurd he (parseSymbol_not_tooDeep h)
  rcases bind_eq_error_iff.1 h with h | ⟨afterEquals, hequals, h⟩
  · exact absurd he (parseSymbol_not_tooDeep h)
  rcases bind_eq_error_iff.1 h with hlast | ⟨_, _, h⟩
  · obtain ⟨_, rfl, -⟩ := parseName_eq_ok_iff.1 hname
    obtain ⟨_, rfl, -⟩ := parseSymbol_eq_ok_iff.1 hopening
    obtain ⟨_, rfl, -⟩ := parseSymbol_eq_ok_iff.1 hclosing
    obtain ⟨_, rfl, -⟩ := parseSymbol_eq_ok_iff.1 hequals
    have := parseLast_room ⟨e, hlast, he⟩
    rcases parseParameters_sound hparameters with ⟨-, rfl⟩ | ⟨used, rfl, -⟩
    · simp only [List.length_cons]; omega
    · simp only [List.length_cons, List.length_append]; omega
  · cases h

/-- **The nesting limit is at least the number of tokens where it is hit.** -/
theorem parseStatement_room {room : Nat} {ts : List Token}
    (h : HitsLimit (parseStatement room ts)) : room ≤ ts.length := by
  rcases hitsLimit_of_eitherForm h with h | h
  · rcases hitsLimit_of_eitherForm h with h | h
    · exact parseDefinition_room h
    · exact parseAssignment_room h
  · exact parseLast_room h

/-- What is read is what one of the forms reads. -/
theorem form_of_parseStatement {room : Nat} {ts : List Token} {n : Node}
    (h : parseStatement room ts = .ok n) : .ok n ∈ forms room ts := by
  rcases eitherForm_eq_ok h with h | h
  · rcases eitherForm_eq_ok h with h | h <;> simp [forms, h]
  · simp [forms, h]

/-- A text is read if nothing in it is unexpected and its tokens are read. -/
theorem parseText_eq_ok_iff {text : String} {line column : Int} {withSource : Bool} {n : Node} :
    parseText text line column withSource = .ok n ↔
      (scan text line column).unexpected = none ∧
        parseStatement nestingRoom (scan text line column).tokens = .ok n := by
  simp only [parseText, Scan.diagnostic?]
  cases (scan text line column).unexpected with
  | some c => simp
  | none =>
    cases parseStatement nestingRoom (scan text line column).tokens with
    | ok n => simp
    | error e => simp

/-- What is rejected is rejected by every form. -/
theorem rejected_of_parseStatement {room : Nat} {ts : List Token}
    (h : Rejected (parseStatement room ts)) : ∀ form ∈ forms room ts, Rejected form := by
  obtain ⟨h, hlast⟩ := rejected_of_eitherForm h
  obtain ⟨hdefinition, hassignment⟩ := rejected_of_eitherForm h
  simp [forms, hdefinition, hassignment, hlast]

/-- A sentence is not rejected. -/
theorem Sentence.exists_ok {room : Nat} {ts : List Token} {t : Node}
    (hlimit : ¬ HitsLimit (parseStatement room ts)) (h : Sentence (lexemes ts) t) :
    ∃ n, parseStatement room ts = .ok n := by
  refine Classical.byContradiction fun hok => ?_
  obtain ⟨form, hform, hread⟩ := h.readsAs room
  have hrejected := rejected_of_not_ok hlimit fun n hn => hok ⟨n, hn⟩
  exact hread.not_rejected (rejected_of_parseStatement hrejected form hform)

/-- **No list of lexemes has two trees.** With enough room the limit is out of reach, so one reader
finds both. -/
theorem Sentence.unique {ts : List Token} {t t' : Node} (h : Sentence (lexemes ts) t)
    (h' : Sentence (lexemes ts) t') : t = t' := by
  have key : ∀ {u : Node}, Sentence (lexemes ts) u →
      ∃ n, .ok n ∈ forms (ts.length + 1) ts ∧ n.bare = u := by
    intro u hu
    obtain ⟨form, hform, hread⟩ := hu.readsAs (ts.length + 1)
    cases hf : form with
    | ok n => exact ⟨n, hf ▸ hform, by rw [hf] at hread; exact hread⟩
    | error e =>
      rw [hf] at hread
      have hlimit : HitsLimit form := ⟨e, hf, hread⟩
      simp only [forms, List.mem_cons, List.not_mem_nil, or_false] at hform
      have hroom : ts.length + 1 ≤ ts.length := by
        rcases hform with rfl | rfl | rfl
        · exact parseDefinition_room hlimit
        · exact parseAssignment_room hlimit
        · exact parseLast_room hlimit
      omega
  obtain ⟨n, hn, rfl⟩ := key h
  obtain ⟨n', hn', rfl⟩ := key h'
  rw [form_unique hn hn']

/-- **Statements are read exactly by their grammar.** Unless the nesting limit is hit, the tree that
is read is the one that the tokens derive; tokens that derive no tree are an error; there is never
more than one tree; and whichever form reads the tokens, its outcome is that of the statement. -/
theorem parseStatement_eq_ok_iff_sentence (room : Nat) (ts : List Token)
    (hlimit : ¬ HitsLimit (parseStatement room ts)) :
    (∀ t, (∃ n, parseStatement room ts = .ok n ∧ n.bare = t) ↔ Sentence (lexemes ts) t) ∧
      ((¬ ∃ t, Sentence (lexemes ts) t) → Rejected (parseStatement room ts)) ∧
      (∀ t t', Sentence (lexemes ts) t → Sentence (lexemes ts) t' → t = t') ∧
      ∀ n, .ok n ∈ forms room ts → parseStatement room ts = .ok n := by
  have hsound : ∀ n, parseStatement room ts = .ok n → Sentence (lexemes ts) n.bare :=
    fun n hn => sentence_of_form (form_of_parseStatement hn) rfl
  refine ⟨fun t => ⟨?_, fun h => ?_⟩, fun hnone => ?_, fun t t' => Sentence.unique, fun n hn => ?_⟩
  · rintro ⟨n, hn, rfl⟩
    exact hsound n hn
  · obtain ⟨n, hn⟩ := h.exists_ok hlimit
    exact ⟨n, hn, (hsound n hn).unique h⟩
  · exact rejected_of_not_ok hlimit fun n hn => hnone ⟨_, hsound n hn⟩
  · obtain ⟨n', hn'⟩ := (sentence_of_form hn rfl).exists_ok hlimit
    rw [hn', form_unique hn (form_of_parseStatement hn')]

/-- In `f(x) = 10 - x + 3` the sum comes first. -/
theorem parseStatement_difference_of_sum :
    let tokens : List Token :=
      [.name "f", .symbol .lparen, .name "x", .symbol .rparen, .symbol .assign, .number 10 none,
        .symbol .minus, .name "x", .symbol .plus, .number 3 none].map (⟨·, "", .nowhere⟩)
    ¬ HitsLimit (parseStatement nestingRoom tokens) ∧
      ∃ n, parseStatement nestingRoom tokens = .ok n ∧
        n.bare = .definition "f" ["x"] (.binary (.number 10 none .nowhere) "-"
          (.binary (.reference "x" .nowhere) "+" (.number 3 none .nowhere) .nowhere) .nowhere)
          .nowhere := by
  intro tokens
  have hlimit : ¬ HitsLimit (parseStatement nestingRoom tokens) :=
    fun h => absurd (parseStatement_room h) (by decide)
  have hphrase : Phrase 1
      [.number 10 none, .symbol .minus, .name "x", .symbol .plus, .number 3 none] _ :=
    .subtract (.loosen (by decide) (by decide) (.number 10 none))
      (.add (.loosen (by decide) (by decide) (.reference "x"))
        (.loosen (by decide) (by decide) (.number 3 none)))
  refine ⟨hlimit, ((parseStatement_eq_ok_iff_sentence nestingRoom tokens hlimit).1 _).2 ?_⟩
  exact .definition "f" (.one "x") hphrase

end Reckon
