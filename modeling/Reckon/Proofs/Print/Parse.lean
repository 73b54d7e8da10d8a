import Reckon.Proofs.Grammar.Sentence
import Reckon.Proofs.Print.Scan

/-!
# What is printed is read back

The words of a formula derive its tree in the grammar (`Formula.phrase`): parentheses are printed
exactly where the tier of an operand is looser than the place asks for. So the words of a statement
are a sentence (`Statement.sentence`), and as its text is scanned as those words, reading gives back
the tree (`parseSingle_text`).
-/

namespace Reckon

/-! ### The words of a formula derive its tree -/

/-- The tier of the words of a formula. -/
def Formula.tier : Formula → Nat
  | .operation _ op _ => op.level
  | .plus _ | .minus _ => 6
  | _ => 7

theorem Formula.one_le_tier (t : Formula) : 1 ≤ t.tier := by
  cases t with
  | operation left op right => exact op.level_pos
  | _ => simp [Formula.tier]

/-- A formula that is no operation may stand anywhere without parentheses. -/
theorem Formula.six_le_tier {t : Formula} (h : t.root? = none) : 6 ≤ t.tier := by
  cases t with
  | operation left op right => cases h
  | _ => simp [Formula.tier]

theorem Formula.six_le_tier_of_isSome {t : Formula} (h : t.root?.isSome = false) : 6 ≤ t.tier :=
  Formula.six_le_tier (by simpa using h)

theorem Formula.tier_of_root? {t : Formula} {op : Operator} (h : t.root? = some op) :
    t.tier = op.level := by
  cases t with
  | operation left op' right => cases h; rfl
  | _ => cases h

theorem Operator.leftTier_le_tier {op : Operator} {t : Formula}
    (h : op.enclosesLeft t.root? = false) : op.leftTier ≤ t.tier := by
  rcases hroot : t.root? with _ | inner
  · have htier := Formula.six_le_tier hroot
    have hle : op.leftTier ≤ 6 := by cases op <;> decide
    omega
  · rw [hroot] at h
    rw [Formula.tier_of_root? hroot]
    revert h
    cases op <;> cases inner <;> decide

theorem Operator.rightLevel_le_tier {op : Operator} {t : Formula}
    (h : op.enclosesRight t.root? = false) : op.rightLevel ≤ t.tier := by
  rcases hroot : t.root? with _ | inner
  · have htier := Formula.six_le_tier hroot
    have hle := op.rightLevel_le
    omega
  · rw [hroot] at h
    rw [Formula.tier_of_root? hroot]
    revert h
    cases op <;> cases inner <;> decide

/-- With parentheses where they are needed, words of tier `k` are a phrase of tier `j`. -/
theorem Phrase.enclosed {j k : Nat} {ps : List Piece} {n : Node} {needed : Bool}
    (h : Phrase k (ps.map Piece.lexeme) n) (hk : 1 ≤ k) (hj : 1 ≤ j) (hle : j ≤ 7)
    (hneeded : needed = false → j ≤ k) :
    Phrase j ((Reckon.enclosed needed ps).map Piece.lexeme) n := by
  cases needed with
  | false => exact h.loosen hj (hneeded rfl)
  | true =>
    have hparens := Phrase.parens (h.loosen (Nat.le_refl 1) hk)
    have hall := hparens.loosen hj hle
    simpa [Reckon.enclosed, Piece.lexeme] using hall

mutual

/-- **The words of a formula derive its tree.** -/
theorem Formula.phrase : ∀ t : Formula, Phrase t.tier (t.pieces.map Piece.lexeme) t.node
  | .number literal unit => by
    simp only [Formula.pieces, Formula.node, List.map_cons, List.map_nil, Piece.lexeme]
    exact .number _ _
  | .reference name => by
    simp only [Formula.pieces, Formula.node, List.map_cons, List.map_nil, Piece.lexeme]
    exact .reference _
  | .plus operand => by
    have h : Phrase 6 _ _ := operand.phrase.enclosed operand.one_le_tier (by decide) (by decide)
      Formula.six_le_tier_of_isSome
    simp only [Formula.pieces, Formula.node, List.map_cons, Piece.lexeme]
    exact .plus h
  | .minus operand => by
    have h : Phrase 6 _ _ := operand.phrase.enclosed operand.one_le_tier (by decide) (by decide)
      Formula.six_le_tier_of_isSome
    simp only [Formula.pieces, Formula.node, List.map_cons, Piece.lexeme]
    exact .minus h
  | .operation left op right => by
    -- parentheses are printed just where an operand has too low a tier
    have hleft : Phrase op.leftTier _ _ := left.phrase.enclosed left.one_le_tier
      (Nat.le_trans op.level_pos op.level_le_leftTier) (by cases op <;> decide)
      Operator.leftTier_le_tier
    have hright : Phrase op.rightLevel _ _ := right.phrase.enclosed right.one_le_tier
      (Nat.le_trans op.level_pos op.level_le_rightLevel) (by cases op <;> decide)
      Operator.rightLevel_le_tier
    simp only [Formula.pieces, Formula.node, List.map_append, List.map_cons, Piece.lexeme]
    exact Phrase.operation op hleft hright
  | .call name arguments => by
    have h := Formula.phrases arguments
    simp only [Formula.pieces, Formula.node, List.map_cons, List.map_append, List.map_nil,
      Piece.lexeme]
    cases arguments with
    | nil => exact .callOfNone name.text
    | cons first more => exact .call name.text (h (List.cons_ne_nil first more))

theorem Formula.phrases : ∀ ts : List Formula, ts ≠ [] →
    Phrases ((Formula.piecesAll ts).map Piece.lexeme) (Formula.nodes ts)
  | [first], _ => by
    simp only [Formula.piecesAll, Formula.nodes]
    exact .one (first.phrase.loosen (Nat.le_refl 1) first.one_le_tier)
  | first :: second :: more, _ => by
    have hfirst := first.phrase.loosen (Nat.le_refl 1) first.one_le_tier
    have hmore := Formula.phrases (second :: more) (List.cons_ne_nil second more)
    rw [Formula.piecesAll, Formula.nodes]
    simp only [List.map_append, List.map_cons, Piece.lexeme]
    exact .more hfirst hmore

end

/-! ### Names and numbers are apart -/

theorem Separated.enclosed {ps : List Piece} (h : Separated ps) (needed : Bool) :
    Separated (Reckon.enclosed needed ps) := by
  cases needed with
  | false => exact h
  | true => exact .around .lparen .nil (h.around .rparen .nil)

mutual

theorem Formula.separated : ∀ t : Formula, Separated t.pieces
  | .number literal unit => by
    rw [Formula.pieces]
    exact .singleton _
  | .reference name => by
    rw [Formula.pieces]
    exact .singleton _
  | .plus operand => by
    rw [Formula.pieces]
    exact .around .plus .nil (operand.separated.enclosed _)
  | .minus operand => by
    rw [Formula.pieces]
    exact .around .minus .nil (operand.separated.enclosed _)
  | .operation left op right => by
    rw [Formula.pieces]
    exact (left.separated.enclosed _).around op.symbol (right.separated.enclosed _)
  | .call name arguments => by
    rw [Formula.pieces]
    have hinner := (Formula.separatedAll arguments).around .rparen .nil
    exact Separated.around .lparen (.singleton (.name name)) hinner

theorem Formula.separatedAll : ∀ ts : List Formula, Separated (Formula.piecesAll ts)
  | [] => by
    rw [Formula.piecesAll]
    exact .nil
  | [first] => by
    rw [Formula.piecesAll]
    exact first.separated
  | first :: second :: more => by
    rw [Formula.piecesAll]
    exact first.separated.around .comma (Formula.separatedAll (second :: more))

end

/-- Names with commas between them. -/
theorem separated_names : ∀ names : List Identifier,
    Separated ((names.map Piece.name).intersperse (.symbol .comma))
  | [] => .nil
  | [_] => .singleton _
  | name :: second :: names => by
    have h := Separated.around .comma (.singleton (.name name)) (separated_names (second :: names))
    simpa using h

theorem Statement.separated (s : Statement) : Separated s.pieces := by
  cases s with
  | expression formula => exact formula.separated
  | assignment name value => exact .around .assign (.singleton (.name name)) value.separated
  | definition name parameters body =>
    have hbody := Separated.around .rparen (separated_names parameters)
      (.around .assign .nil body.separated)
    exact .around .lparen (.singleton (.name name)) hbody

/-! ### Statements -/

theorem names_of_identifiers (first : Identifier) : ∀ more : List Identifier,
    Names ((((first :: more).map Piece.name).intersperse (.symbol .comma)).map Piece.lexeme)
      ((first :: more).map (·.text))
  | [] => .one first.text
  | second :: more => .more first.text (names_of_identifiers second more)

/-- **The words of a statement are a sentence.** -/
theorem Statement.sentence (s : Statement) : Sentence (s.pieces.map Piece.lexeme) s.node := by
  cases s with
  | expression formula =>
    exact .expression (formula.phrase.loosen (Nat.le_refl 1) formula.one_le_tier)
  | assignment name value =>
    exact .assignment name.text (value.phrase.loosen (Nat.le_refl 1) value.one_le_tier)
  | definition name parameters body =>
    have hbody := body.phrase.loosen (Nat.le_refl 1) body.one_le_tier
    cases parameters with
    | nil => exact .definitionOfNone name.text hbody
    | cons first more =>
      have h := Sentence.definition name.text (names_of_identifiers first more) hbody
      simpa [Statement.pieces, Statement.node, Piece.lexeme] using h

theorem Statement.pieces_ne_nil (s : Statement) : s.pieces ≠ [] := by
  cases s with
  | expression formula =>
    obtain ⟨x, xs, hwords, -⟩ := formula.phrase.exists_cons
    intro hnil
    rw [show formula.pieces = [] from hnil] at hwords
    cases hwords
  | _ => exact List.cons_ne_nil _ _

theorem Statement.scan_text (s : Statement) (line column : Int) :
    lexemes (scan s.text line column).tokens = s.pieces.map Piece.lexeme ∧
      (scan s.text line column).unexpected = none := by
  rw [scan, Statement.text, String.toList_ofList]
  exact scanFrom_spaced s.separated ⟨line, column, 0⟩

/-- **What is printed is read back.** Unless the nesting limit is hit, the printed text of a
statement is read as its tree, spans apart; the numbers in the tree are what their literals are read
as. -/
theorem parseSingle_text (s : Statement)
    (hlimit : ¬HitsLimit (parseStatement nestingRoom (scan s.text 1 1).tokens)) :
    ∃ n, parseSingle s.text = .ok n ∧ n.bare = s.node := by
  obtain ⟨htokens, hexpected⟩ := s.scan_text 1 1
  have hsentence : Sentence (lexemes (scan s.text 1 1).tokens) s.node := by
    rw [htokens]
    exact s.sentence
  obtain ⟨n, hn⟩ := hsentence.exists_ok hlimit
  refine ⟨n, ?_, (sentence_of_form (form_of_parseStatement hn) rfl).unique hsentence⟩
  -- nothing is trimmed, so that the text is read from its first column
  have hsolid := spaced_solid s.pieces_ne_nil
  have hstart : parseSingle s.text = parseText s.text 1 1 true := by
    rw [parseSingle, parseStatementLine, Statement.text, trim_of_solid hsolid,
      indentation_of_solid hsolid]
    rfl
  rw [hstart, parseText, Scan.diagnostic?]
  simp only [hexpected, hn, Option.map_none]

/-- The words `f ( x ) = - ( 2.5e3 km + x ) ^ 2` and the tree that they are read as. -/
theorem parseSingle_text_of_definition :
    let f : Identifier := ⟨"f", by decide⟩
    let x : Identifier := ⟨"x", by decide⟩
    let km : UnitName := ⟨"km", by decide⟩
    let long : Decimal.Literal :=
      ⟨⟨['2'], ['5'], some ⟨'e', none, ['3']⟩⟩, by decide, by decide, by decide, by decide⟩
    let two : Decimal.Literal := ⟨⟨['2'], [], none⟩, by decide, by decide, by decide, by decide⟩
    let s : Statement := .definition f [x]
      (.operation (.minus (.operation (.number long (some km)) .add (.reference x))) .power
        (.number two none))
    s.text = "f ( x ) = - ( 2.5e3 km + x ) ^ 2" ∧
      ∃ n, parseSingle s.text = .ok n ∧ n.bare = s.node := by
  intro f x km long two s
  refine ⟨by decide +kernel, parseSingle_text s fun hlimit => ?_⟩
  have hroom := parseStatement_room hlimit
  have hlength := congrArg List.length (s.scan_text 1 1).1
  rw [lexemes, List.length_map, List.length_map] at hlength
  rw [hlength] at hroom
  exact absurd hroom (by decide)

end Reckon
