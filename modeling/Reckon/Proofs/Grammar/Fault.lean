import Reckon.Proofs.Grammar.Lookahead
import Reckon.Proofs.Token.Word

/-!
# A statement fails at the first token that leaves no hope

Three forms are tried, and the error of the one that got furthest is reported. All tokens before
that error are the start of some statement, and with the offending token they are the start of none
(`parseStatement_fault_first`): each form fails at the end of what can be completed, and no form
looks further than its own error.

The error is reported as a place in the line. Tokens stand at places of their own
(`scan_places_nodup`), so the place names the token.
-/

namespace Reckon

/-! ### The places of tokens -/

/-- Where the tokens of a line start, and last where the scan ended. -/
def Scan.places (s : Scan) : List Location := s.tokens.map (·.span.start) ++ [s.stop]

/-- Every token starts behind the one before it, and the end is behind them all. -/
theorem scanFrom_places (here : Location) (cs : List Char) :
    (∀ l ∈ (scanFrom here cs).places, here.offset ≤ l.offset) ∧
      (scanFrom here cs).places.Pairwise (fun a b => a.offset < b.offset) := by
  fun_induction scanFrom here cs with
  | case1 here => simp [Scan.places]
  | case2 here c rest _ ih =>
    refine ⟨fun l hl => ?_, ih.2⟩
    have hle := ih.1 l hl
    simp only [Location.advance] at hle
    omega
  | case3 here c rest => simp [Scan.places]
  | case4 here c rest _ word hword next token ih =>
    have hpos : 0 < word.chars.length := List.length_pos_iff.2 (scanWord?_chars_ne_nil hword)
    have hnext : ∀ l ∈ (scanFrom next (rest.drop (word.chars.length - 1))).places,
        here.offset < l.offset := by
      intro l hl
      have hle := ih.1 l hl
      simp only [next, Location.advance] at hle
      omega
    -- the token's own place comes first
    have hplaces : ((scanFrom next (rest.drop (word.chars.length - 1))).cons token).places =
        here :: (scanFrom next (rest.drop (word.chars.length - 1))).places := rfl
    rw [hplaces]
    refine ⟨fun l hl => ?_, List.pairwise_cons.2 ⟨hnext, ih.2⟩⟩
    rcases List.mem_cons.1 hl with rfl | hl
    · exact Int.le_refl _
    · exact Int.le_of_lt (hnext l hl)

theorem scan_places_nodup (text : String) (line column : Int) :
    (scan text line column).places.Nodup := by
  refine (scanFrom_places ⟨line, column, 0⟩ text.toList).2.imp ?_
  rintro a b hlt rfl
  exact absurd hlt (Int.lt_irrefl _)

/-! ### The furthest error -/

theorem eitherForm_eq_error {first second : Except ParseError Node} {e : ParseError}
    (h : eitherForm first second = .error e) (hdeep : e.reason ≠ .tooDeep) :
    ∃ e₁ e₂, first = .error e₁ ∧ second = .error e₂ ∧ (e = e₁ ∨ e = e₂) ∧
      e₁.reason ≠ .tooDeep ∧ e₂.reason ≠ .tooDeep ∧
      e.rest.length ≤ e₁.rest.length ∧ e.rest.length ≤ e₂.rest.length := by
  unfold eitherForm at h
  split at h
  · cases h
  · rename_i e₁
    split at h
    · cases h; contradiction
    · rename_i hdeep₁
      split at h
      · cases h
      · rename_i e₂
        split at h
        · cases h; contradiction
        · rename_i hdeep₂
          cases h
          refine ⟨e₁, e₂, rfl, rfl, ?_, hdeep₁, hdeep₂, ?_⟩
          · unfold ParseError.furthest
            split
            · exact .inr rfl
            · exact .inl rfl
          · unfold ParseError.furthest
            split
            · rename_i hle
              exact ⟨hle, Nat.le_refl _⟩
            · rename_i hlt
              exact ⟨Nat.le_refl _, Nat.le_of_not_le hlt⟩

/-- The reported error is that of a form, and no form got further. -/
theorem parseStatement_eq_error {room : Nat} {ts : List Token} {e : ParseError}
    (h : parseStatement room ts = .error e) (hdeep : e.reason ≠ .tooDeep) :
    .error e ∈ forms room ts ∧ ∀ form ∈ forms room ts, ∃ e', form = .error e' ∧
      e'.reason ≠ .tooDeep ∧ e.rest.length ≤ e'.rest.length := by
  obtain ⟨e₁₂, e₃, h₁₂, h₃, he, hdeep₁₂, hdeep₃, hle₁₂, hle₃⟩ := eitherForm_eq_error h hdeep
  obtain ⟨e₁, e₂, h₁, h₂, he₁₂, hdeep₁, hdeep₂, hle₁, hle₂⟩ := eitherForm_eq_error h₁₂ hdeep₁₂
  constructor
  · simp only [forms, h₁, h₂, h₃]
    rcases he with rfl | rfl
    · rcases he₁₂ with rfl | rfl <;> simp
    · simp
  · intro form hform
    simp only [forms, List.mem_cons, List.not_mem_nil, or_false] at hform
    rcases hform with rfl | rfl | rfl
    · exact ⟨e₁, h₁, hdeep₁, Nat.le_trans hle₁₂ hle₁⟩
    · exact ⟨e₂, h₂, hdeep₂, Nat.le_trans hle₁₂ hle₂⟩
    · exact ⟨e₃, h₃, hdeep₃, hle₃⟩

/-! ### Hope -/

/-- What the tokens of a line say, and `none` for the end of the line. -/
def ended (ls : List Lexeme) : List (Option Lexeme) := ls.map some ++ [none]

/-- Some statement starts like this; after `none` it has ended. -/
def Viable (xs : List (Option Lexeme)) : Prop := ∃ ls t, Sentence ls t ∧ xs <+: ended ls

theorem OpensSentence.viable {ls : List Lexeme} (h : OpensSentence ls) : Viable (ls.map some) := by
  obtain ⟨more, t, h⟩ := h
  refine ⟨ls ++ more, t, h, ?_⟩
  simp [ended]

/-- A line that has ended is viable only if it is a statement. -/
theorem sentence_of_viable_ended {ls : List Lexeme} (h : Viable (ended ls)) :
    ∃ t, Sentence ls t := by
  obtain ⟨ls', t, h, more, hprefix⟩ := h
  -- no end of a line stands inside a line
  have hsome := congrArg (List.takeWhile Option.isSome) hprefix
  have hls : ls.map some = ls'.map some := by simpa [ended] using hsome
  obtain rfl := (List.map_inj_right fun _ _ => Option.some.inj).1 hls
  exact ⟨t, h⟩

theorem opensSentence_of_viable {ls : List Lexeme} (h : Viable (ls.map some)) :
    OpensSentence ls := by
  obtain ⟨ls', t, h, hprefix⟩ := h
  have hls : ls <+: ls' := by simpa [ended] using hprefix.filterMap id
  obtain ⟨more, rfl⟩ := hls
  exact ⟨more, t, h⟩

/-- The place of an error is that of the token it stands at, or the end of the line. -/
theorem fault_start {e : ParseError} (hdeep : e.reason ≠ .tooDeep) {s : Scan} {used : List Token}
    (hts : s.tokens = used ++ e.rest) :
    s.places[used.length]? = some (e.fault s.tokens s.stop).2.start := by
  have hplaces : s.places =
      used.map (·.span.start) ++ (e.rest.map (·.span.start) ++ [s.stop]) := by
    rw [Scan.places, hts, List.map_append, List.append_assoc]
  have hstart : (e.fault s.tokens s.stop).2.start =
      (e.rest.map (·.span.start) ++ [s.stop]).head (by simp) := by
    unfold ParseError.fault
    rcases e with ⟨what | _ | _, _ | ⟨t, rest⟩⟩
    all_goals first | rfl | exact absurd rfl hdeep
  rw [hplaces, hstart, List.getElem?_append_right (by simp)]
  simp [List.head_eq_getElem]

/-- **A statement fails at the first token that leaves no hope.** A line whose tokens are no
statement and do not hit the nesting limit has an error. It stands at one place of the line: the
tokens before it are the start of some statement, and with the token there, or the end of the line,
they are the start of none. -/
theorem parseStatement_fault_first (room : Nat) (text : String) (line column : Int)
    (hlimit : ¬HitsLimit (parseStatement room (scan text line column).tokens))
    (hnone : ¬∃ t, Sentence (lexemes (scan text line column).tokens) t) :
    let s := scan text line column
    ∃ e, parseStatement room s.tokens = .error e ∧
      ∃ k, (∀ j, s.places[j]? = some (e.fault s.tokens s.stop).2.start ↔ j = k) ∧
        Viable ((ended (lexemes s.tokens)).take k) ∧
        ¬Viable ((ended (lexemes s.tokens)).take (k + 1)) := by
  intro s
  obtain ⟨e, he, hdeep⟩ : Rejected (parseStatement room s.tokens) :=
    rejected_of_not_ok hlimit fun n hn =>
      hnone ⟨_, sentence_of_form (form_of_parseStatement hn) rfl⟩
  obtain ⟨hmem, hfurthest⟩ := parseStatement_eq_error he hdeep
  obtain ⟨used, hts, hopens⟩ := forms_opens hmem
  have hplace := fault_start hdeep hts
  have hls : lexemes s.tokens = lexemes used ++ lexemes e.rest := by
    rw [hts, lexemes, List.map_append]
  refine ⟨e, he, used.length, fun j => ⟨fun hj => ?_, fun hj => hj ▸ hplace⟩, ?_, ?_⟩
  · have hlt := (List.getElem?_eq_some_iff.1 hplace).1
    have hnodup := scan_places_nodup text line column
    exact ((List.getElem?_inj hlt hnodup).1 (hplace.trans hj.symm)).symm
  · have htake : (ended (lexemes s.tokens)).take used.length = (lexemes used).map some := by
      rw [ended, hls, List.map_append, List.append_assoc, List.take_left' (by simp)]
    rw [htake]
    exact hopens.viable
  · intro hviable
    rcases hrest : e.rest with _ | ⟨u, r⟩
    · -- the line ends too early: had it hope, it would be a statement
      have hall : (ended (lexemes s.tokens)).take (used.length + 1) = ended (lexemes s.tokens) := by
        apply List.take_of_length_le
        simp [ended, hts, hrest]
      rw [hall] at hviable
      exact hnone (sentence_of_viable_ended hviable)
    · have hts' : s.tokens = (used ++ [u]) ++ r := by rw [hts, hrest]; simp
      have htake : (ended (lexemes s.tokens)).take (used.length + 1) =
          (lexemes (used ++ [u])).map some := by
        rw [ended, hts', lexemes, List.map_append, List.map_append, List.append_assoc,
          List.take_left' (by simp)]
      rw [htake] at hviable
      have hfail : ∀ form ∈ forms room ((used ++ [u]) ++ r), ∃ e', form = .error e' ∧
          e'.reason ≠ .tooDeep ∧ r.length < e'.rest.length := by
        rw [← hts']
        intro form hform
        obtain ⟨e', he', hdeep', hle⟩ := hfurthest form hform
        rw [hrest] at hle
        exact ⟨e', he', hdeep', hle⟩
      exact not_opensSentence_of_forms hfail (opensSentence_of_viable hviable)

/-- In `f(x, 2) = 3` hope ends at the equals sign: a definition would have failed at the number
already, but up to the parenthesis the line may still be a call. -/
theorem parseStatement_fault_first_of_parameter :
    let s := scan "f(x, 2) = 3" 1 1
    lexemes s.tokens = [.name "f", .symbol .lparen, .name "x", .symbol .comma, .number 2 none,
      .symbol .rparen, .symbol .assign, .number 3 none] ∧
    ∃ e, parseStatement nestingRoom s.tokens = .error e ∧
      ∃ k, (∀ j, s.places[j]? = some (e.fault s.tokens s.stop).2.start ↔ j = k) ∧
        Viable ((ended (lexemes s.tokens)).take k) ∧
        ¬Viable ((ended (lexemes s.tokens)).take (k + 1)) := by
  intro s
  have hls : lexemes s.tokens = [.name "f", .symbol .lparen, .name "x", .symbol .comma,
      .number 2 none, .symbol .rparen, .symbol .assign, .number 3 none] := by
    decide +kernel
  have hlimit : ¬HitsLimit (parseStatement nestingRoom s.tokens) := fun h => by
    have hroom := parseStatement_room h
    have hlength := congrArg List.length hls
    simp only [lexemes, List.length_map, List.length_cons, List.length_nil] at hlength
    rw [hlength] at hroom
    exact absurd hroom (by decide)
  refine ⟨hls, parseStatement_fault_first nestingRoom _ 1 1 hlimit ?_⟩
  rintro ⟨t, h⟩
  generalize hall : lexemes (scan "f(x, 2) = 3" 1 1).tokens = ls at h
  rw [show lexemes (scan "f(x, 2) = 3" 1 1).tokens = _ from hls] at hall
  -- only a definition has a parenthesis there and an equals sign; its parameters are names
  cases h with
  | expression h => exact h.assign_not_mem (by simp [← hall])
  | assignment | definitionOfNone => simp at hall
  | definition name hnames _ =>
    cases hnames with
    | one => simp at hall
    | more _ hmore => cases hmore <;> simp at hall

end Reckon
