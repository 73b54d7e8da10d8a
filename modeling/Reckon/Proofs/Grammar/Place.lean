import Reckon.Proofs.Grammar.Sentence

/-!
# The place of a statement is immaterial

What is read from tokens depends on what the tokens say, not on where they stand: tokens that are
moved elsewhere are read as the same tree, up to spans, or are rejected at the same token for the
same reason (`parseStatement_moved`). So a line is read alike whatever its number
(`parseLine_renumbered`). If it is short enough, it is read as the statement that its lexemes derive
(`Spells.parseLine_eq`).
-/

namespace Reckon

/-- A way to move tokens elsewhere that leaves alone what they say. -/
structure Move where
  /-- The token in its new place. -/
  apply : Token → Token
  /-- It says what it said before. -/
  lexeme_apply : ∀ t, (apply t).lexeme = t.lexeme

attribute [simp] Move.lexeme_apply

@[simp] theorem Move.operator?_apply (f : Move) (t : Token) :
    (f.apply t).operator? = t.operator? := by
  unfold Token.operator?
  rw [f.lexeme_apply]

@[simp] theorem Move.is_apply (f : Move) (t : Token) (s : Symbol) :
    (f.apply t).is s = t.is s := by
  unfold Token.is
  rw [f.lexeme_apply]

/-- The second outcome is the first one with the tokens moved: results correspond by `R`, and errors
have the same reason and stand at the same token. -/
inductive Mirrors {α β : Type} (f : Move) (R : α → β → Prop) :
    Except ParseError α → Except ParseError β → Prop where
  | ok {a : α} {b : β} (h : R a b) : Mirrors f R (.ok a) (.ok b)
  | error {e e' : ParseError} (hreason : e'.reason = e.reason)
      (hrest : e'.rest = e.rest.map f.apply) : Mirrors f R (.error e) (.error e')

theorem Mirrors.bind {α β α' β' : Type} {f : Move} {R : α → β → Prop} {S : α' → β' → Prop}
    {x : Except ParseError α} {y : Except ParseError β} {g : α → Except ParseError α'}
    {h : β → Except ParseError β'} (hxy : Mirrors f R x y)
    (hgh : ∀ a b, R a b → Mirrors f S (g a) (h b)) : Mirrors f S (x >>= g) (y >>= h) := by
  cases hxy with
  | error hreason hrest => exact .error hreason hrest
  | ok hab => exact hgh _ _ hab

/-- What was read from moved tokens corresponds by `same`, and the tokens after it are moved. -/
def Parsed.Moved {α : Type} (f : Move) (same : α → α → Prop) {ts us : List Token} (p : Parsed α ts)
    (q : Parsed α us) : Prop :=
  same p.value q.value ∧ q.rest = p.rest.map f.apply

/-- The trees differ in spans only. -/
def Node.Same (a b : Node) : Prop := b.bare = a.bare

/-- The arguments differ in spans only. -/
def sameArguments (a b : List Node × Location) : Prop := Node.bareAll b.1 = Node.bareAll a.1

/-- Moved tokens start with a moved token. -/
theorem eq_moved_cons {f : Move} {t t' : Token} {after after' : List Token}
    (h : t' :: after' = (t :: after).map f.apply) :
    t' = f.apply t ∧ after' = after.map f.apply := by
  simpa using h

section Moved

variable {f : Move}

mutual

theorem parseExpression_moved (room level : Nat) {ts us : List Token} (hus : us = ts.map f.apply) :
    Mirrors f (Parsed.Moved f Node.Same) (parseExpression room level ts)
      (parseExpression room level us) := by
  rw [parseExpression.eq_def, parseExpression.eq_def room level us]
  match room with
  | 0 => exact .error rfl hus
  | room + 1 =>
    have hoperand := parseOperand_moved room hus
    simp only
    generalize parseOperand room ts = first at hoperand
    generalize parseOperand room us = second at hoperand
    cases hoperand with
    | error hreason hrest => exact .error hreason hrest
    | @ok p q h =>
      obtain ⟨hvalue, hrest⟩ := h
      have hshort := p.shorter
      exact parseOperations_moved room level p q hvalue hrest
termination_by (ts.length, 2)

theorem parseOperations_moved (room level : Nat) {ts us : List Token} (left : Parsed Node ts)
    (left' : Parsed Node us) (hvalue : left.value.Same left'.value)
    (hrest : left'.rest = left.rest.map f.apply) :
    Mirrors f (Parsed.Moved f Node.Same) (parseOperations room level left)
      (parseOperations room level left') := by
  rw [parseOperations.eq_def, parseOperations.eq_def room level left']
  rcases left with ⟨value, _ | ⟨t, after⟩, shorter⟩ <;>
    rcases left' with ⟨value', _ | ⟨t', after'⟩, shorter'⟩
  · exact .ok ⟨hvalue, rfl⟩
  · cases hrest
  · cases hrest
  · obtain ⟨rfl, hafter⟩ := eq_moved_cons hrest
    have hlength : after.length < (t :: after).length := Nat.lt_succ_self _
    simp only [f.operator?_apply]
    rcases t.operator? with _ | op
    · exact .ok ⟨hvalue, hrest⟩
    · simp only
      by_cases hlt : op.level < level
      · simp only [if_pos hlt]
        exact .ok ⟨hvalue, hrest⟩
      · simp only [if_neg hlt]
        have hright := parseExpression_moved room op.rightLevel hafter
        generalize parseExpression room op.rightLevel after = first at hright
        generalize parseExpression room op.rightLevel after' = second at hright
        cases hright with
        | error hreason hrest => exact .error hreason hrest
        | @ok p q h =>
          obtain ⟨hvalue', hrest'⟩ := h
          have hshort := Nat.lt_trans p.shorter hlength
          refine parseOperations_moved room level _ _ ?_ hrest'
          unfold Node.Same at hvalue hvalue' ⊢
          rw [Node.bare_operation, Node.bare_operation, hvalue, hvalue']
termination_by (left.rest.length, 0)
decreasing_by all_goals grind

theorem parseOperand_moved (room : Nat) {ts us : List Token} (hus : us = ts.map f.apply) :
    Mirrors f (Parsed.Moved f Node.Same) (parseOperand room ts) (parseOperand room us) := by
  rw [parseOperand.eq_def, parseOperand.eq_def room us]
  rcases hts : ts with _ | ⟨t, after⟩ <;> rw [hts] at hus <;> rcases us with _ | ⟨t', after'⟩
  · exact .error rfl rfl
  · cases hus
  · cases hus
  · obtain ⟨rfl, hafter⟩ := eq_moved_cons hus
    simp only [f.lexeme_apply]
    rcases t.lexeme with ⟨value, unit⟩ | name | s
    · exact .ok ⟨by simp [Node.Same, Node.bare], hafter⟩
    · rcases hcase : after with _ | ⟨u, inner⟩ <;> rw [hcase] at hafter <;>
        rcases after' with _ | ⟨u', inner'⟩
      · exact .ok ⟨by simp [Node.Same, Node.bare], rfl⟩
      · cases hafter
      · cases hafter
      · obtain ⟨rfl, hinner⟩ := eq_moved_cons hafter
        have hlength : inner.length < after.length := by simp [hcase]
        simp only [f.is_apply]
        by_cases hu : u.is .lparen = true
        · simp only [if_pos hu]
          have harguments := parseArguments_moved room hinner
          generalize parseArguments room inner = first at harguments
          generalize parseArguments room inner' = second at harguments
          cases harguments with
          | error hreason hrest => exact .error hreason hrest
          | @ok p q h =>
            obtain ⟨hvalue, hrest⟩ := h
            refine .ok ⟨?_, hrest⟩
            -- only the span of the call depends on where its parentheses are
            unfold sameArguments at hvalue
            simp [Node.Same, Node.bare, hvalue]
        · simp only [if_neg hu]
          exact .ok ⟨by simp [Node.Same, Node.bare], hafter⟩
    · simp only
      by_cases hsign : s = .plus ∨ s = .minus
      · simp only [if_pos hsign]
        match room with
        | 0 => exact .error rfl hus
        | room + 1 =>
          have hoperand := parseOperand_moved room hafter
          simp only
          generalize parseOperand room after = first at hoperand
          generalize parseOperand room after' = second at hoperand
          cases hoperand with
          | error hreason hrest => exact .error hreason hrest
          | @ok p q h =>
            obtain ⟨hvalue, hrest⟩ := h
            refine .ok ⟨?_, hrest⟩
            unfold Node.Same at hvalue
            simp [Node.Same, Node.bare, hvalue]
      · simp only [if_neg hsign]
        by_cases hparen : s = .lparen
        · simp only [if_pos hparen]
          have hinner := parseExpression_moved room Operator.lowestLevel hafter
          generalize parseExpression room Operator.lowestLevel after = first at hinner
          generalize parseExpression room Operator.lowestLevel after' = second at hinner
          cases hinner with
          | error hreason hrest => exact .error hreason hrest
          | @ok p q h =>
            obtain ⟨hvalue, hrest⟩ := h
            rcases p with ⟨value, _ | ⟨u, rest⟩, shorter⟩ <;>
              rcases q with ⟨value', _ | ⟨u', rest'⟩, shorter'⟩
            · exact .error rfl rfl
            · cases hrest
            · cases hrest
            · obtain ⟨rfl, hrest'⟩ := eq_moved_cons hrest
              simp only [f.is_apply]
              by_cases hu : u.is .rparen = true
              · simp only [if_pos hu]
                exact .ok ⟨hvalue, hrest'⟩
              · simp only [if_neg hu]
                exact .error rfl hrest
        · simp only [if_neg hparen]
          exact .error rfl hus
termination_by (ts.length, 1)
decreasing_by all_goals grind

theorem parseArguments_moved (room : Nat) {ts us : List Token} (hus : us = ts.map f.apply) :
    Mirrors f (Parsed.Moved f sameArguments) (parseArguments room ts) (parseArguments room us) := by
  rw [parseArguments.eq_def, parseArguments.eq_def room us]
  rcases hts : ts with _ | ⟨t, after⟩ <;> rw [hts] at hus <;> rcases us with _ | ⟨t', after'⟩
  · exact parseArgumentList_moved room hus
  · cases hus
  · cases hus
  · obtain ⟨rfl, hafter⟩ := eq_moved_cons hus
    simp only [f.is_apply]
    by_cases ht : t.is .rparen = true
    · simp only [if_pos ht]
      exact .ok ⟨rfl, hafter⟩
    · simp only [if_neg ht]
      exact parseArgumentList_moved room hus
termination_by (ts.length, 4)
decreasing_by all_goals grind

theorem parseArgumentList_moved (room : Nat) {ts us : List Token} (hus : us = ts.map f.apply) :
    Mirrors f (Parsed.Moved f sameArguments) (parseArgumentList room ts)
      (parseArgumentList room us) := by
  rw [parseArgumentList.eq_def, parseArgumentList.eq_def room us]
  have hfirst := parseExpression_moved room Operator.lowestLevel hus
  generalize parseExpression room Operator.lowestLevel ts = first at hfirst
  generalize parseExpression room Operator.lowestLevel us = second at hfirst
  cases hfirst with
  | error hreason hrest => exact .error hreason hrest
  | @ok p q h =>
    obtain ⟨hvalue, hrest⟩ := h
    rcases p with ⟨value, _ | ⟨t, rest⟩, shorter⟩ <;>
      rcases q with ⟨value', _ | ⟨t', rest'⟩, shorter'⟩
    · exact .error rfl rfl
    · cases hrest
    · cases hrest
    · obtain ⟨rfl, hrest'⟩ := eq_moved_cons hrest
      have hshort : rest.length < ts.length := Nat.lt_of_succ_lt shorter
      simp only [f.is_apply]
      by_cases hcomma : t.is .comma = true
      · simp only [if_pos hcomma]
        have hmore := parseArgumentList_moved room hrest'
        generalize parseArgumentList room rest = first at hmore
        generalize parseArgumentList room rest' = second at hmore
        cases hmore with
        | error hreason hrest => exact .error hreason hrest
        | @ok p q h =>
          obtain ⟨hvalue', hrest''⟩ := h
          refine .ok ⟨?_, hrest''⟩
          unfold sameArguments Node.Same at *
          simp only [Parsed.map_value, Parsed.within_value, Node.bareAll]
          rw [hvalue, hvalue']
      · simp only [if_neg hcomma]
        by_cases hparen : t.is .rparen = true
        · simp only [if_pos hparen]
          refine .ok ⟨?_, hrest'⟩
          unfold sameArguments Node.Same at *
          simp only [Node.bareAll]
          rw [hvalue]
        · simp only [if_neg hparen]
          exact .error rfl hrest
termination_by (ts.length, 3)

end

/-- A value and the tokens after it, which are moved. -/
def movedRest {α : Type} (f : Move) (p q : α × List Token) : Prop :=
  q = (p.1, p.2.map f.apply)

theorem parseName_moved (what : Expected) (ts : List Token) :
    Mirrors f (movedRest f) (parseName what ts) (parseName what (ts.map f.apply)) := by
  cases ts with
  | nil => exact .error rfl rfl
  | cons t rest =>
    unfold parseName
    simp only [List.map_cons, f.lexeme_apply]
    rcases t.lexeme with ⟨value, unit⟩ | name | s
    · exact .error rfl rfl
    · exact .ok rfl
    · exact .error rfl rfl

theorem parseSymbol_moved (s : Symbol) (what : Expected) (ts : List Token) :
    Mirrors f (fun a b => b = a.map f.apply) (parseSymbol s what ts)
      (parseSymbol s what (ts.map f.apply)) := by
  cases ts with
  | nil => exact .error rfl rfl
  | cons t rest =>
    unfold parseSymbol
    simp only [List.map_cons, f.is_apply]
    split
    · exact .ok rfl
    · exact .error rfl rfl

theorem parseMoreParameters_moved : ∀ ts : List Token,
    Mirrors f (movedRest f) (parseMoreParameters ts) (parseMoreParameters (ts.map f.apply))
  | [] => .ok rfl
  | [comma] => by
    simp only [parseMoreParameters, List.map_cons, List.map_nil, f.is_apply]
    split
    · exact .error rfl rfl
    · exact .ok rfl
  | comma :: t :: rest => by
    simp only [parseMoreParameters, List.map_cons, f.is_apply, f.lexeme_apply]
    split
    · rcases t.lexeme with ⟨value, unit⟩ | name | s
      · exact .error rfl rfl
      · have hmore := parseMoreParameters_moved rest
        simp only
        generalize parseMoreParameters rest = first at hmore
        generalize parseMoreParameters (rest.map f.apply) = second at hmore
        cases hmore with
        | error hreason hrest => exact .error hreason hrest
        | ok h =>
          unfold movedRest at h
          rw [h]
          exact .ok rfl
      · exact .error rfl rfl
    · exact .ok rfl

theorem parseParameters_moved (ts : List Token) :
    Mirrors f (movedRest f) (parseParameters ts) (parseParameters (ts.map f.apply)) := by
  have hhead : (ts.map f.apply).head?.any (·.is .rparen) = ts.head?.any (·.is .rparen) := by
    cases ts <;> simp
  unfold parseParameters
  rw [hhead]
  split
  · exact .ok rfl
  · refine (parseName_moved _ ts).bind ?_
    rintro ⟨first, rest⟩ _ rfl
    refine (parseMoreParameters_moved rest).bind ?_
    rintro ⟨more, rest⟩ _ rfl
    exact .ok rfl

theorem parseLast_moved (room : Nat) (ts : List Token) :
    Mirrors f Node.Same (parseLast room ts) (parseLast room (ts.map f.apply)) := by
  have h := parseExpression_moved room Operator.lowestLevel (rfl : ts.map f.apply = _)
  unfold parseLast
  generalize parseExpression room Operator.lowestLevel ts = first at h
  generalize parseExpression room Operator.lowestLevel (ts.map f.apply) = second at h
  cases h with
  | error hreason hrest => exact .error hreason hrest
  | @ok p q h =>
    obtain ⟨hvalue, hrest⟩ := h
    simp only [hrest, List.isEmpty_map]
    split
    · exact .ok hvalue
    · exact .error rfl rfl

theorem parseAssignment_moved (room : Nat) (ts : List Token) :
    Mirrors f Node.Same (parseAssignment room ts) (parseAssignment room (ts.map f.apply)) := by
  refine (parseName_moved _ ts).bind ?_
  rintro ⟨name, rest⟩ _ rfl
  refine (parseSymbol_moved _ _ rest).bind ?_
  rintro rest _ rfl
  refine (parseLast_moved room rest).bind ?_
  intro value value' hvalue
  refine .ok ?_
  unfold Node.Same at hvalue
  simp [Node.Same, Node.bare, hvalue]

theorem parseDefinition_moved (room : Nat) (ts : List Token) :
    Mirrors f Node.Same (parseDefinition room ts) (parseDefinition room (ts.map f.apply)) := by
  refine (parseName_moved _ ts).bind ?_
  rintro ⟨name, rest⟩ _ rfl
  refine (parseSymbol_moved _ _ rest).bind ?_
  rintro rest _ rfl
  refine (parseParameters_moved rest).bind ?_
  rintro ⟨parameters, rest⟩ _ rfl
  refine (parseSymbol_moved _ _ rest).bind ?_
  rintro rest _ rfl
  refine (parseSymbol_moved _ _ rest).bind ?_
  rintro rest _ rfl
  refine (parseLast_moved room rest).bind ?_
  intro body body' hbody
  refine .ok ?_
  unfold Node.Same at hbody
  simp [Node.Same, Node.bare, hbody]

theorem eitherForm_moved {first second first' second' : Except ParseError Node}
    (h : Mirrors f Node.Same first first') (h' : Mirrors f Node.Same second second') :
    Mirrors f Node.Same (eitherForm first second) (eitherForm first' second') := by
  cases h with
  | ok h => exact .ok h
  | @error e₁ e₁' hreason hrest =>
    simp only [eitherForm, hreason]
    split
    · exact .error hreason hrest
    · cases h' with
      | ok h' => exact .ok h'
      | @error e₂ e₂' hreason' hrest' =>
        simp only [hreason']
        split
        · exact .error hreason' hrest'
        · unfold ParseError.furthest
          simp only [hrest, hrest', List.length_map]
          split
          · exact .error hreason' hrest'
          · exact .error hreason hrest

/-- **Moved tokens are read alike**: as the same tree, up to spans, or they are rejected at the same
token for the same reason. -/
theorem parseStatement_moved (room : Nat) (ts : List Token) :
    Mirrors f Node.Same (parseStatement room ts) (parseStatement room (ts.map f.apply)) :=
  have hbinding := eitherForm_moved (parseDefinition_moved room ts) (parseAssignment_moved room ts)
  eitherForm_moved hbinding (parseLast_moved room ts)

end Moved

/-! ### The number of a line -/

/-- The place on another line. -/
def Location.onLine (line : Int) (l : Location) : Location := { l with line := line }

/-- Tokens are moved to the line with the given number. -/
def Move.toLine (line : Int) : Move where
  apply t := { t with span := ⟨t.span.start.onLine line, t.span.stop.onLine line⟩ }
  lexeme_apply _ := rfl

theorem scanFrom_onLine (line : Int) (here : Location) (cs : List Char) :
    scanFrom (here.onLine line) cs =
      ⟨(scanFrom here cs).tokens.map (Move.toLine line).apply, (scanFrom here cs).unexpected,
        (scanFrom here cs).stop.onLine line⟩ := by
  fun_induction scanFrom here cs with
  | case1 here => rw [scanFrom.eq_def]; rfl
  | case2 here c rest hblank ih =>
    rw [scanFrom.eq_def]
    simp only [if_pos hblank]
    exact ih
  | case3 here c rest hblank hword =>
    rw [scanFrom.eq_def]
    simp only [if_neg hblank, hword]
    rfl
  | case4 here c rest hblank word hword next token ih =>
    rw [scanFrom.eq_def]
    simp only [if_neg hblank, hword]
    have hnext : (here.onLine line).advance word.chars.length = next.onLine line := rfl
    rw [hnext, ih]
    rfl

theorem scan_onLine (text : String) (line line' column : Int) :
    scan text line' column =
      ⟨(scan text line column).tokens.map (Move.toLine line').apply,
        (scan text line column).unexpected, (scan text line column).stop.onLine line'⟩ :=
  scanFrom_onLine line' ⟨line, column, 0⟩ text.toList

/-- Both are the same tree, up to spans, or both are no statement with the same message. -/
inductive SameReading : Except Diagnostic Node → Except Diagnostic Node → Prop where
  | ok {n n' : Node} (h : n.Same n') : SameReading (.ok n) (.ok n')
  | error {d d' : Diagnostic} (h : d'.summary = d.summary) : SameReading (.error d) (.error d')

/-- A fault is the same on another line, at the same column. -/
theorem fault_onLine {line : Int} {e e' : ParseError} (hreason : e'.reason = e.reason)
    (hrest : e'.rest = e.rest.map (Move.toLine line).apply) (ts : List Token) (stop : Location) :
    (e'.fault (ts.map (Move.toLine line).apply) (stop.onLine line)).1 = (e.fault ts stop).1 ∧
      (e'.fault (ts.map (Move.toLine line).apply) (stop.onLine line)).2.start.column =
        (e.fault ts stop).2.start.column := by
  unfold ParseError.fault
  rw [hreason, hrest]
  rcases e.reason with what | _ | _
  · rcases e.rest with _ | ⟨t, rest⟩ <;> exact ⟨rfl, rfl⟩
  · rcases e.rest with _ | ⟨t, rest⟩ <;> exact ⟨rfl, rfl⟩
  · rcases ts with _ | ⟨t, rest⟩ <;> exact ⟨rfl, rfl⟩

theorem summary_ofFault {fault fault' : Fault} {span span' : Span} {source source' : Option String}
    (hfault : fault' = fault) (hcolumn : span'.start.column = span.start.column) :
    (Diagnostic.ofFault fault' span' source').summary =
      (Diagnostic.ofFault fault span source).summary := by
  unfold Diagnostic.summary Diagnostic.ofFault
  rw [hfault, hcolumn]

theorem parseText_renumbered (text : String) (line line' column : Int) (withSource : Bool) :
    SameReading (parseText text line column withSource)
      (parseText text line' column withSource) := by
  unfold parseText Scan.diagnostic?
  rw [scan_onLine text line line' column]
  simp only
  rcases (scan text line column).unexpected with _ | c
  · simp only [Option.map_none]
    have h := parseStatement_moved (f := Move.toLine line') nestingRoom
      (scan text line column).tokens
    generalize parseStatement nestingRoom (scan text line column).tokens = first at h
    generalize parseStatement nestingRoom
      ((scan text line column).tokens.map (Move.toLine line').apply) = second at h
    cases h with
    | ok h => exact .ok h
    | error hreason hrest =>
      have hfault := fault_onLine hreason hrest (scan text line column).tokens
        (scan text line column).stop
      exact .error (summary_ofFault hfault.1 hfault.2)
  · exact .error (summary_ofFault rfl rfl)

theorem commentOn?_renumbered (raw : String) (line line' : Int) :
    commentOn? raw line = none ∧ commentOn? raw line' = none ∨
      ∃ n n', commentOn? raw line = some n ∧ commentOn? raw line' = some n' ∧ n.Same n' := by
  unfold commentOn?
  split
  · exact .inr ⟨_, _, rfl, rfl, rfl⟩
  · exact .inl ⟨rfl, rfl⟩

/-- **A line is read alike whatever its number.** -/
theorem parseLine_renumbered (raw : String) (line line' : Int) :
    SameReading (parseLine raw line) (parseLine raw line') := by
  unfold parseLine
  rcases commentOn?_renumbered raw line line' with ⟨h, h'⟩ | ⟨n, n', h, h', hsame⟩
  · rw [h, h']
    exact parseText_renumbered ..
  · rw [h, h']
    exact .ok hsame

/-! ### The statement on a line -/

theorem exists_parseText {text : String} {line column : Int} {withSource : Bool} {t : Node}
    (hscan : (scan text line column).unexpected = none)
    (hroom : (scan text line column).tokens.length < nestingRoom)
    (h : Sentence (lexemes (scan text line column).tokens) t) :
    ∃ n, parseText text line column withSource = .ok n ∧ n.bare = t := by
  have hlimit : ¬HitsLimit (parseStatement nestingRoom (scan text line column).tokens) := by
    intro hlimit
    have hlength := parseStatement_room hlimit
    omega
  obtain ⟨n, hn⟩ := h.exists_ok hlimit
  exact ⟨n, parseText_eq_ok_iff.2 ⟨hscan, hn⟩,
    (sentence_of_form (form_of_parseStatement hn) rfl).unique h⟩

theorem exists_parseStatementLine {raw : String} {line : Int} {ls : List Lexeme} {t : Node}
    (hscan : (scan (Text.trim raw) line (indentation raw + 1)).unexpected = none)
    (hls : lexemes (scan (Text.trim raw) line (indentation raw + 1)).tokens = ls)
    (hroom : ls.length < nestingRoom) (ht : Sentence ls t) :
    ∃ n, parseStatementLine raw line = .ok n ∧ n.bare = t := by
  have hlength := congrArg List.length hls
  rw [lexemes, List.length_map] at hlength
  rw [← hls] at ht
  exact exists_parseText hscan (by omega) ht

/-- The line has the given lexemes: it is not blank, no comment, and nothing in it is unexpected. -/
structure Spells (line : Int) (raw : String) (ls : List Lexeme) : Prop where
  blank : Text.isBlankText raw = false
  comment : (commentOn? raw line).isNone = true
  expected : (scan (Text.trim raw) line (indentation raw + 1)).unexpected = none
  tokens : lexemes (scan (Text.trim raw) line (indentation raw + 1)).tokens = ls

/-- **A line that derives a statement is read as that statement**, unless it is too long. -/
theorem Spells.parseLine_eq {line : Int} {raw : String} {ls : List Lexeme} {t : Node}
    (h : Spells line raw ls) (hroom : ls.length < nestingRoom) (ht : Sentence ls t) :
    ∃ n, parseLine raw line = .ok n ∧ n.bare = t := by
  unfold parseLine
  rw [Option.isNone_iff_eq_none.mp h.comment]
  exact exists_parseStatementLine h.expected h.tokens hroom ht

theorem exists_parseLine_error {line : Int} {raw : String} {c : Char}
    (hcomment : (commentOn? raw line).isNone = true)
    (hscan : (scan (Text.trim raw) line (indentation raw + 1)).unexpected = some c) :
    ∃ d, parseLine raw line = .error d := by
  unfold parseLine parseStatementLine parseText Scan.diagnostic?
  rw [Option.isNone_iff_eq_none.mp hcomment]
  simp only [hscan, Option.map_some]
  exact ⟨_, rfl⟩

end Reckon
