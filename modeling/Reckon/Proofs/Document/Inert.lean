import Reckon.Proofs.Grammar.Place
import Reckon.Proofs.Scalar
import Reckon.Proofs.Session.Atomic
import Reckon.Proofs.Session.Bare
import Reckon.Proofs.Session.Memory
import Reckon.Proofs.Text.Lines
import Reckon.Proofs.Unit.Resolution

/-!
# Failed lines are inert

Lines that are blank, comments or failed can be taken out of a document: the other lines have the
same outcomes, and the session ends with the same variables and functions
(`evaluate_without_inert`).

The run with all lines and the run without some of them are compared line by line (`Beside.kept`,
`Beside.dropped`). They differ in the spans of function bodies, since lines get other numbers, in
whether the spellings of units have been gathered, and in what has been worked out about units. The
last can show if a line that is taken out was the first to ask about a product of units which a later
line asks about in another form, so that is excluded. So is a line that leaves a call open: what is
assigned after it is no variable of the session.
-/

namespace Reckon

namespace Document

open Session

/-! ### Numbering lines -/

/-- Lines with their numbers, from `first` on. -/
def numberFrom (first : Nat) : List String → List (Nat × String)
  | [] => []
  | raw :: rest => (first, raw) :: numberFrom (first + 1) rest

/-- Outcomes for lines that are numbered from `first` on. -/
def renumberFrom (first : Nat) : List LineOutcome → List LineOutcome
  | [] => []
  | o :: rest => { o with line := first } :: renumberFrom (first + 1) rest

theorem numberedLines_eq (text : String) : numberedLines text = numberFrom 1 (Text.lines text) := by
  unfold numberedLines
  generalize 1 = first
  induction Text.lines text generalizing first with
  | nil => rfl
  | cons raw rest ih =>
    rw [List.mapIdx_cons, numberFrom, ← ih]
    simp only [Nat.zero_add, Nat.add_assoc, Nat.add_comm 1 first]

theorem mem_lines_of_mem {text : String} {l : Nat × String} (h : l ∈ numberedLines text) :
    l.2 ∈ Text.lines text := by
  unfold numberedLines at h
  rw [List.mem_mapIdx] at h
  obtain ⟨i, hi, rfl⟩ := h
  exact List.getElem_mem hi

/-- The lines of a text that are not taken out. -/
def remaining (drop : Nat → Bool) (lines : List (Nat × String)) : List String :=
  (lines.filter fun l => !drop l.1).map (·.2)

/-! ### What lines ask and learn -/

/-- A line that is evaluated in a session. -/
structure Visit where
  /-- The session before the line. -/
  session : Session
  /-- The number of the line. -/
  line : Nat
  /-- The line. -/
  raw : String

/-- The lines of an evaluation, each with the session that it meets. -/
def visits (limits : Limits) : Session → List (Nat × String) → List Visit
  | _, [] => []
  | s, (line, raw) :: rest =>
    ⟨s, line, raw⟩ :: visits limits (evaluateLine s limits line raw).2 rest

/-- A question about units comes up in the line. -/
def Visit.Asks (limits : Limits) (v : Visit) (q : Question) : Prop :=
  ∃ n, parseLine v.raw v.line = .ok n ∧
    Task.Asks ⟨v.session.callsLeft limits, limits.nesting, v.session, n⟩ q

/-- The line is the first to have a product of units worked out in some respect. -/
def Visit.Learns (limits : Limits) (v : Visit) (q : Question) : Prop :=
  (evaluateLine v.session limits v.line v.raw).2.catalog.memory.Knows q ∧
    ¬v.session.catalog.memory.Knows q

/-- A call that the line opens stays open. -/
def Visit.Sticks (limits : Limits) (v : Visit) : Prop :=
  v.session.context.depth < (evaluateLine v.session limits v.line v.raw).2.context.depth

/-- No line that is taken out leaves a call open. -/
def Unstuck (limits : Limits) (drop : Nat → Bool) (s : Session) (lines : List (Nat × String)) :
    Prop :=
  ∀ v ∈ visits limits s lines, drop v.line = true → ¬v.Sticks limits

/-- No line that is taken out is the first to have a product of units worked out which a later line
that remains asks about in another form. -/
def Unheeded (limits : Limits) (drop : Nat → Bool) (s : Session) (lines : List (Nat × String)) :
    Prop :=
  (visits limits s lines).Pairwise fun v w => drop v.line = true → drop w.line = false →
    ∀ q r, v.Learns limits q → w.Asks limits r → ¬q.Clash r

/-- The questions that the remaining ones of some lines ask. -/
def Heeded (limits : Limits) (drop : Nat → Bool) (s : Session) (lines : List (Nat × String))
    (q : Question) : Prop :=
  ∃ v ∈ visits limits s lines, drop v.line = false ∧ v.Asks limits q

/-! ### Sessions that answer alike -/

/-- The second session differs from the first one in spans, in whether the spellings have been
gathered, and in what it knows about units, but answers the questions in `K` as the first one does. -/
structure Mimics (D K : Question → Prop) (s t : Session) : Prop where
  memory : s.catalog.memory.Agrees D K t.catalog.memory
  bare : (t.prepared t.catalog.memory).bare = (s.prepared t.catalog.memory).bare

theorem Mimics.mono {D D' K K' : Question → Prop} {s t : Session} (h : Mimics D K s t)
    (hD : ∀ q, D q → D' q) (hK : ∀ q, K' q → K q) : Mimics D' K' s t where
  memory a u hu := by
    rcases h.memory a u (hK _ hu) with h | ⟨hd, h⟩
    · exact .inl h
    · exact .inr ⟨hD _ hd, h⟩
  bare := h.bare

theorem Mimics.evaluate {D K : Question → Prop} (hclash : ∀ q r, D q → K r → ¬q.Clash r)
    {s s' t : Session} {limits : Limits} {n n' : Node} {r : Result} (h : Mimics D K s t)
    (hn : n.Same n') (hs : Task.Tame K ⟨s.callsLeft limits, limits.nesting, s, n⟩)
    (ht : Task.Tame (fun _ => True) ⟨t.callsLeft limits, limits.nesting, t, n'⟩)
    (heval : s.evaluate limits n = (.ok r, s')) :
    ∃ t', t.evaluate limits n' = (.ok r, t') ∧ Mimics D K s' t' := by
  -- with the spellings gathered and the same memory, the sessions differ in spans only
  obtain ⟨m, hprepared, hm⟩ :=
    evaluate_congruent (Memory.agrees_congruence hclash) heval hs h.memory
  have hsame := evaluate_eq_of_bare limits h.bare hn
  rw [hprepared] at hsame
  rcases hevalt : t.evaluate limits n' with ⟨r', t'⟩
  obtain ⟨m', hprepared', rfl, -⟩ := evaluate_congruent
    (Memory.congruence_of_preserved (P := fun _ => True) fun _ _ => trivial) hevalt ht
    ⟨rfl, trivial⟩
  rw [hprepared'] at hsame
  obtain ⟨rfl, hbare⟩ := hsame
  obtain rfl : t'.catalog.memory = m := congrArg (·.catalog.memory) hbare
  exact ⟨t', rfl, hm, hbare⟩

/-- A change to nothing but the first session's knowledge about units. -/
theorem Mimics.learn {D K : Question → Prop} (hclash : ∀ q r, D q → K r → ¬q.Clash r)
    {c : Catalog} {s s' t : Session} (h : Mimics D K s t) (hs : s.Settled c) (hs' : s'.Settled c)
    (hsame : SameBindings s s') (hm : s.catalog.memory.Extends s'.catalog.memory)
    (hD : ∀ q, s'.catalog.memory.Knows q → ¬s.catalog.memory.Knows q → D q) : Mimics D K s' t where
  memory := h.memory.learn hclash hm hD
  bare := by
    have hprepared : s'.prepared t.catalog.memory = s.prepared t.catalog.memory := by
      unfold prepared
      rw [hsame.1, hsame.2, hs.catalog.gather, hs'.catalog.gather]
      rfl
    rw [hprepared]
    exact h.bare

/-! ### One line -/

/-- The ways a line can have an outcome. -/
inductive Gives (limits : Limits) (line : Nat) (raw : String) (s : Session) :
    LineOutcome → Session → Prop where
  | blank (hblank : Text.isBlankText raw = true) :
      Gives limits line raw s ⟨line, raw, "", false, false, none⟩ s
  | malformed {d : Diagnostic} (hblank : Text.isBlankText raw = false)
      (hparse : parseLine raw line = .error d) :
      Gives limits line raw s (malformed line raw d) s
  | comment {text : String} {span : Span} (hblank : Text.isBlankText raw = false)
      (hparse : parseLine raw line = .ok (.comment text span)) :
      Gives limits line raw s ⟨line, raw, text, false, true, none⟩ s
  | evaluated {n : Node} {r : Result} {display : String} {s' : Session}
      (hblank : Text.isBlankText raw = false) (hparse : parseLine raw line = .ok n)
      (hcomment : ∀ text span, n ≠ .comment text span)
      (heval : s.evaluate limits n = (.ok r, s')) (hdisplay : r.display = .ok display) :
      Gives limits line raw s ⟨line, raw, display, r.hasError, false, some r⟩ s'

theorem gives_of_evaluateLine {s s' : Session} {limits : Limits} {line : Nat} {raw : String}
    {o : LineOutcome} (h : evaluateLine s limits line raw = (.ok o, s')) :
    Gives limits line raw s o s' := by
  unfold evaluateLine at h
  split at h
  · rename_i hblank
    cases h
    exact .blank hblank
  · rename_i hblank
    have hblank : Text.isBlankText raw = false := by simpa using hblank
    split at h
    · rename_i hparse
      cases h
      exact .malformed hblank hparse
    · rename_i hparse
      cases h
      exact .comment hblank hparse
    · rename_i n hcomment hparse
      split at h
      · cases h
      · rename_i r s₁ heval
        obtain ⟨hevaluated, rfl⟩ := Prod.mk.inj h
        unfold Document.evaluated at hevaluated
        rcases hdisplay : r.display with a | display <;> rw [hdisplay] at hevaluated
        · cases hevaluated
        · cases hevaluated
          exact .evaluated hblank hparse hcomment heval hdisplay

theorem Gives.evaluateLine_eq {s s' : Session} {limits : Limits} {line : Nat} {raw : String}
    {o : LineOutcome} (h : Gives limits line raw s o s') :
    evaluateLine s limits line raw = (.ok o, s') := by
  unfold evaluateLine
  cases h with
  | blank hblank => rw [if_pos hblank]
  | malformed hblank hparse => simp only [hblank, hparse]; rfl
  | comment hblank hparse => simp only [hblank, hparse]; rfl
  | @evaluated n r display _ hblank hparse hcomment heval hdisplay =>
    have hevaluated : Document.evaluated line raw r =
        .ok ⟨line, raw, display, r.hasError, false, some r⟩ := by
      unfold Document.evaluated
      rw [hdisplay]
      rfl
    simp only [hblank, hparse, heval, hevaluated]
    cases n with
    | comment text span => exact absurd rfl (hcomment text span)
    | _ => rfl

theorem Gives.line_eq {s s' : Session} {limits : Limits} {line : Nat} {raw : String}
    {o : LineOutcome} (h : Gives limits line raw s o s') : o.line = line := by
  cases h <;> rfl

/-- The units in a line do not depend on its number. -/
theorem settles_of_renumbered {c : Catalog} {line : Nat} {raw : String}
    (h : ∀ n, parseLine raw line = .ok n → ∀ u ∈ n.unitTexts, c.Settles u) (line' : Nat) (n' : Node)
    (hn' : parseLine raw line' = .ok n') : ∀ u ∈ n'.unitTexts, c.Settles u := by
  have hread := parseLine_renumbered raw line line'
  rw [hn'] at hread
  generalize hparse : parseLine raw line = reading at hread
  cases hread with
  | @ok n _ hsame =>
    rw [← n'.unitTexts_bare, show n'.bare = n.bare from hsame, n.unitTexts_bare]
    exact h n hparse

/-- **A line that is kept** has the same outcome in a session that answers its questions alike. -/
theorem Gives.mimicked {D K : Question → Prop} (hclash : ∀ q r, D q → K r → ¬q.Clash r)
    {c : Catalog} {s s' t : Session} {limits : Limits} {line : Nat} {raw : String} {o : LineOutcome}
    (h : Gives limits line raw s o s') (hs : s.Settled c) (ht : t.Settled c) (hst : Mimics D K s t)
    (hunits : ∀ n, parseLine raw line = .ok n → ∀ u ∈ n.unitTexts, c.Settles u)
    (hK : ∀ q, Visit.Asks limits ⟨s, line, raw⟩ q → K q) (line' : Nat) :
    ∃ t', Gives limits line' raw t { o with line := line' } t' ∧ Mimics D K s' t' := by
  have hread := parseLine_renumbered raw line line'
  cases h with
  | blank hblank => exact ⟨t, .blank hblank, hst⟩
  | malformed hblank hparse =>
    rw [hparse] at hread
    generalize hparse' : parseLine raw line' = reading at hread
    cases hread with
    | @error d d' hsummary =>
      have hgives : Gives limits line' raw t (Document.malformed line' raw d') t :=
        .malformed hblank hparse'
      unfold Document.malformed at hgives ⊢
      rw [hsummary] at hgives
      exact ⟨t, hgives, hst⟩
  | @comment text span hblank hparse =>
    rw [hparse] at hread
    generalize hparse' : parseLine raw line' = reading at hread
    cases hread with
    | @ok _ n' hsame =>
      cases n' <;> simp [Node.Same, Node.bare] at hsame
      subst hsame
      exact ⟨t, .comment hblank hparse', hst⟩
  | @evaluated n r display _ hblank hparse hcomment heval hdisplay =>
    -- the other run evaluates the same node with other places
    have hasks : Task.AsksOnly K ⟨s.callsLeft limits, limits.nesting, s, n⟩ :=
      fun q hq => hK q ⟨n, hparse, hq⟩
    rw [hparse] at hread
    generalize hparse' : parseLine raw line' = reading at hread
    cases hread with
    | @ok _ n' hsame =>
      have htame := hs.tame (hunits n hparse) hasks
      have hunits' := settles_of_renumbered hunits line' n' hparse'
      have htame' : Task.Tame (fun _ => True) ⟨t.callsLeft limits, limits.nesting, t, n'⟩ :=
        ht.tame hunits' fun _ _ => trivial
      obtain ⟨t', heval', hst'⟩ := hst.evaluate hclash hsame htame htame' heval
      have hcomment' : ∀ text span, n' ≠ .comment text span := by
        rintro text span rfl
        cases n <;> simp [Node.Same, Node.bare] at hsame
        exact hcomment _ _ rfl
      exact ⟨t', .evaluated hblank hparse' hcomment' heval' hdisplay, hst'⟩

theorem unitTexts_of_spells {line : Nat} {raw : String} {ls : List Lexeme} {n t : Node}
    (h : Spells line raw ls) (hroom : ls.length < nestingRoom) (ht : Sentence ls t)
    (hn : parseLine raw line = .ok n) : n.unitTexts = t.unitTexts := by
  obtain ⟨n', hn', rfl⟩ := h.parseLine_eq hroom ht
  rw [hn'] at hn
  cases hn
  exact n.unitTexts_bare.symm

/-- A line that derives a statement has the outcome that the statement has without its spans. -/
theorem gives_of_spells {limits : Limits} {line : Nat} {raw : String} {ls : List Lexeme} {t : Node}
    (h : Spells line raw ls) (hroom : ls.length < nestingRoom) (ht : Sentence ls t)
    (hcomment : ∀ text span, t ≠ .comment text span) {s s₀ s₀' : Session} {r : Result}
    {display : String} (heval : s₀.evaluate limits t = (.ok r, s₀'))
    (hdisplay : r.display = .ok display) (hs : s.bare = s₀.bare) :
    ∃ s', Gives limits line raw s ⟨line, raw, display, r.hasError, false, some r⟩ s' ∧
      s'.bare = s₀'.bare := by
  obtain ⟨n, hparse, rfl⟩ := h.parseLine_eq hroom ht
  have hsame := evaluate_eq_of_bare limits hs n.bare_bare.symm
  rw [heval] at hsame
  have hcomment' : ∀ text span, n ≠ .comment text span := by
    rintro text span rfl
    exact hcomment text .nowhere (by rw [Node.bare])
  exact ⟨(s.evaluate limits n).2,
    .evaluated h.blank hparse hcomment' (Prod.ext hsame.1 rfl) hdisplay, hsame.2⟩

theorem Gives.pureBodies {s s' : Session} {limits : Limits} {line : Nat} {raw : String}
    {o : LineOutcome} (h : Gives limits line raw s o s') (hs : s.PureBodies) : s'.PureBodies := by
  cases h with
  | blank | malformed | comment => exact hs
  | evaluated _ hparse _ heval _ =>
    obtain ⟨outcome, hevaluates, -⟩ := exists_evaluates heval
    have hn := isStatement_of_parseLine hparse
    exact (hevaluates.hasEffect hn hs).pureBodies hn hs

theorem Gives.settled {c : Catalog} {s s' : Session} {limits : Limits} {line : Nat} {raw : String}
    {o : LineOutcome} (h : Gives limits line raw s o s') (hs : s.Settled c)
    (hunits : ∀ n, parseLine raw line = .ok n → ∀ u ∈ n.unitTexts, c.Settles u) :
    s'.Settled c := by
  cases h with
  | blank | malformed | comment => exact hs
  | @evaluated n _ _ _ _ hparse _ heval _ =>
    obtain ⟨outcome, hevaluates, -⟩ := exists_evaluates heval
    exact hevaluates.settled hs (hunits n hparse)

theorem Gives.memory_extends {s s' : Session} {limits : Limits} {line : Nat} {raw : String}
    {o : LineOutcome} (h : Gives limits line raw s o s') :
    s.catalog.memory.Extends s'.catalog.memory := by
  cases h with
  | blank | malformed | comment => exact .refl _
  | evaluated _ _ _ heval _ =>
    obtain ⟨outcome, hevaluates, -⟩ := exists_evaluates heval
    exact hevaluates.memory_extends

theorem Gives.not_learns {s s' : Session} {limits : Limits} {line : Nat} {raw : String}
    {o : LineOutcome} (h : Gives limits line raw s o s')
    (hmemory : s'.catalog.memory = s.catalog.memory) (q : Question) :
    ¬Visit.Learns limits ⟨s, line, raw⟩ q := by
  rintro ⟨hnew, hold⟩
  rw [h.evaluateLine_eq, hmemory] at hnew
  exact hold hnew

/-- **A line that is taken out** binds nothing, unless it leaves a call open. -/
theorem Gives.sameBindings {s s' : Session} {limits : Limits} {line : Nat} {raw : String}
    {o : LineOutcome} (h : Gives limits line raw s o s') (hs : s.PureBodies)
    (hinert : o.isBlank = true ∨ o.isComment = true ∨ o.hasError = true)
    (hsticks : ¬Visit.Sticks limits ⟨s, line, raw⟩) : SameBindings s s' := by
  unfold Visit.Sticks at hsticks
  rw [h.evaluateLine_eq] at hsticks
  cases h with
  | blank | malformed | comment => exact .refl s
  | @evaluated n _ _ _ _ hparse _ heval _ =>
    obtain ⟨outcome, hevaluates, hr⟩ := exists_evaluates heval
    rcases hr with ⟨v, -, hv⟩ | ⟨⟨e, rfl⟩, -⟩
    · -- a line with a value is none of the three
      cases hv
      simp [LineOutcome.isBlank, Result.hasError] at hinert
    · have heffect := hevaluates.hasEffect (isStatement_of_parseLine hparse) hs
      have hends : Leads SameBindings Stuck (s.callsLeft limits)
          (.error e : Except Failure Value) s s' := by cases n <;> exact heffect
      rcases hends with hsame | ⟨-, -, hstuck⟩
      · exact hsame
      · refine absurd ?_ hsticks
        rw [hstuck.context.depth]
        exact Int.lt_succ _

/-! ### Whole documents -/

theorem evaluateLines_cons {s s' : Session} {limits : Limits} {line : Nat} {raw : String}
    {rest : List (Nat × String)} {os : List LineOutcome}
    (h : evaluateLines s limits ((line, raw) :: rest) = (.ok os, s')) :
    ∃ o os' s₁, Gives limits line raw s o s₁ ∧ evaluateLines s₁ limits rest = (.ok os', s') ∧
      os = o :: os' := by
  unfold evaluateLines at h
  split at h
  · cases h
  · rename_i o s₁ hline
    split at h
    · cases h
    · rename_i os' s₂ hrest
      cases h
      exact ⟨o, os', s₁, gives_of_evaluateLine hline, hrest, rfl⟩

theorem Gives.evaluateLines_eq {s s₁ s' : Session} {limits : Limits} {line : Nat} {raw : String}
    {o : LineOutcome} (h : Gives limits line raw s o s₁) {rest : List (Nat × String)}
    {os : List LineOutcome} (hrest : evaluateLines s₁ limits rest = (.ok os, s')) :
    evaluateLines s limits ((line, raw) :: rest) = (.ok (o :: os), s') := by
  rw [evaluateLines, h.evaluateLine_eq]
  simp only [hrest]

theorem Gives.evaluateLines_single {s s' : Session} {limits : Limits} {line : Nat} {raw : String}
    {o : LineOutcome} (h : Gives limits line raw s o s') :
    evaluateLines s limits [(line, raw)] = (.ok [o], s') :=
  h.evaluateLines_eq rfl

/-- An outcome is that of a line, in the session that the lines before it leave. -/
theorem exists_gives_of_mem {limits : Limits} (lines : List (Nat × String)) :
    ∀ {s s' : Session} {os : List LineOutcome} {o : LineOutcome},
      evaluateLines s limits lines = (.ok os, s') → o ∈ os →
      ∃ before line raw after outcomes s₁ s₂, lines = before ++ (line, raw) :: after ∧
        evaluateLines s limits before = (.ok outcomes, s₁) ∧ Gives limits line raw s₁ o s₂ := by
  induction lines with
  | nil =>
    intro s s' os o hrun ho
    cases hrun
    cases ho
  | cons l rest ih =>
    intro s s' os o hrun ho
    obtain ⟨line, raw⟩ := l
    obtain ⟨first, os', s₁, hline, hrest, rfl⟩ := evaluateLines_cons hrun
    rcases List.mem_cons.mp ho with rfl | ho
    · exact ⟨[], line, raw, rest, [], s, s₁, rfl, rfl, hline⟩
    · obtain ⟨before, line', raw', after, outcomes, s₂, s₃, rfl, hbefore, hgives⟩ := ih hrest ho
      exact ⟨(line, raw) :: before, line', raw', after, first :: outcomes, s₂, s₃, rfl,
        hline.evaluateLines_eq hbefore, hgives⟩

/-! ### Two runs beside each other -/

theorem Gives.visits_eq {s s₁ : Session} {limits : Limits} {line : Nat} {raw : String}
    {o : LineOutcome} (h : Gives limits line raw s o s₁) (rest : List (Nat × String)) :
    visits limits s ((line, raw) :: rest) = ⟨s, line, raw⟩ :: visits limits s₁ rest := by
  rw [visits, h.evaluateLine_eq]

theorem Gives.unstuck {s s₁ : Session} {limits : Limits} {line : Nat} {raw : String}
    {o : LineOutcome} (h : Gives limits line raw s o s₁) {drop : Nat → Bool}
    {rest : List (Nat × String)} (hall : Unstuck limits drop s ((line, raw) :: rest)) :
    (drop line = true → ¬Visit.Sticks limits ⟨s, line, raw⟩) ∧ Unstuck limits drop s₁ rest := by
  unfold Unstuck at hall
  rw [h.visits_eq, List.forall_mem_cons] at hall
  exact hall

theorem Gives.heeded {s s₁ : Session} {limits : Limits} {line : Nat} {raw : String}
    {o : LineOutcome} (h : Gives limits line raw s o s₁) {drop : Nat → Bool}
    {rest : List (Nat × String)} {q : Question} (hq : Heeded limits drop s₁ rest q) :
    Heeded limits drop s ((line, raw) :: rest) q := by
  obtain ⟨v, hv, hasks⟩ := hq
  exact ⟨v, by rw [h.visits_eq]; exact List.mem_cons_of_mem _ hv, hasks⟩

theorem Gives.unheeded {s s₁ : Session} {limits : Limits} {line : Nat} {raw : String}
    {o : LineOutcome} (h : Gives limits line raw s o s₁) {drop : Nat → Bool}
    {rest : List (Nat × String)} (hall : Unheeded limits drop s ((line, raw) :: rest)) :
    (∀ w ∈ visits limits s₁ rest, drop line = true → drop w.line = false →
      ∀ q r, Visit.Learns limits ⟨s, line, raw⟩ q → w.Asks limits r → ¬q.Clash r) ∧
    Unheeded limits drop s₁ rest := by
  unfold Unheeded at hall ⊢
  rw [h.visits_eq, List.pairwise_cons] at hall
  exact hall

/-- The run with all lines is in the session `s` and the run without some of them in `t`. The lines
`lines`, which have the outcomes `os` in the first run, are still to come. What only the first run
has learnt so far is in `D`. -/
structure Beside (c : Catalog) (limits : Limits) (drop : Nat → Bool) (D : Question → Prop)
    (s t : Session) (lines : List (Nat × String)) (os : List LineOutcome) : Prop where
  bodies : s.PureBodies
  settled : s.Settled c
  settled' : t.Settled c
  /-- No unit text makes a unit known. -/
  units : ∀ l ∈ lines, ∀ n, parseLine l.2 l.1 = .ok n → ∀ u ∈ n.unitTexts, c.Settles u
  inert : ∀ o ∈ os, drop o.line = true → o.isBlank = true ∨ o.isComment = true ∨ o.hasError = true
  unheeded : Unheeded limits drop s lines
  unstuck : Unstuck limits drop s lines
  clash : ∀ q r, D q → Heeded limits drop s lines r → ¬q.Clash r
  mimics : Mimics D (Heeded limits drop s lines) s t

section Beside

variable {c : Catalog} {limits : Limits} {drop : Nat → Bool} {D D' : Question → Prop}
  {s s₁ t t₁ : Session} {line : Nat} {raw : String} {rest : List (Nat × String)} {o : LineOutcome}
  {os : List LineOutcome}

/-- After a line, all but the knowledge about units is as before. -/
theorem Beside.next (h : Beside c limits drop D s t ((line, raw) :: rest) (o :: os))
    (hline : Gives limits line raw s o s₁) (ht : t₁.Settled c)
    (hclash : ∀ q r, D' q → Heeded limits drop s₁ rest r → ¬q.Clash r)
    (hmimics : Mimics D' (Heeded limits drop s₁ rest) s₁ t₁) :
    Beside c limits drop D' s₁ t₁ rest os where
  bodies := hline.pureBodies h.bodies
  settled := hline.settled h.settled (h.units _ List.mem_cons_self)
  settled' := ht
  units := fun l hl => h.units l (List.mem_cons_of_mem _ hl)
  inert := fun o ho => h.inert o (List.mem_cons_of_mem _ ho)
  unheeded := (hline.unheeded h.unheeded).2
  unstuck := (hline.unstuck h.unstuck).2
  clash := hclash
  mimics := hmimics

/-- A line that is kept is evaluated in both runs. -/
theorem Beside.kept (h : Beside c limits drop D s t ((line, raw) :: rest) (o :: os))
    (hline : Gives limits line raw s o s₁) (hdrop : drop line = false) (line' : Nat) :
    ∃ t₁, Gives limits line' raw t { o with line := line' } t₁ ∧
      Beside c limits drop D s₁ t₁ rest os := by
  have hhere : ∀ q, Visit.Asks limits ⟨s, line, raw⟩ q →
      Heeded limits drop s ((line, raw) :: rest) q :=
    fun q hq => ⟨_, by rw [hline.visits_eq]; exact List.mem_cons_self, hdrop, hq⟩
  have hunits := h.units _ List.mem_cons_self
  obtain ⟨t₁, hline', hmimics⟩ :=
    hline.mimicked h.clash h.settled h.settled' h.mimics hunits hhere line'
  have hmimics' := hmimics.mono (fun _ => id) fun _ => hline.heeded
  have ht := hline'.settled h.settled' (settles_of_renumbered hunits line')
  exact ⟨t₁, hline', h.next hline ht (fun q r hq hr => h.clash q r hq (hline.heeded hr)) hmimics'⟩

/-- A line that is taken out binds nothing, and what it learns joins `D`. -/
theorem Beside.dropped (h : Beside c limits drop D s t ((line, raw) :: rest) (o :: os))
    (hline : Gives limits line raw s o s₁) (hdrop : drop line = true) :
    Beside c limits drop (fun q => D q ∨ Visit.Learns limits ⟨s, line, raw⟩ q) s₁ t rest os := by
  have hclash : ∀ q r, D q ∨ Visit.Learns limits ⟨s, line, raw⟩ q →
      Heeded limits drop s₁ rest r → ¬q.Clash r := by
    rintro q r (hq | hq) hr
    · exact h.clash q r hq (hline.heeded hr)
    · obtain ⟨w, hw, hkept, hasks⟩ := hr
      exact (hline.unheeded h.unheeded).1 w hw hdrop hkept q r hq hasks
  have hlearns : ∀ q, s₁.catalog.memory.Knows q → ¬s.catalog.memory.Knows q →
      D q ∨ Visit.Learns limits ⟨s, line, raw⟩ q := by
    intro q hnew hold
    refine .inr ⟨?_, hold⟩
    rw [hline.evaluateLine_eq]
    exact hnew
  have hsame := hline.sameBindings h.bodies
    (h.inert o List.mem_cons_self (by rw [hline.line_eq]; exact hdrop))
    ((hline.unstuck h.unstuck).1 hdrop)
  have hsettled := hline.settled h.settled (h.units _ List.mem_cons_self)
  have hmimics := (h.mimics.mono (fun _ => .inl) fun _ => hline.heeded).learn hclash h.settled
    hsettled hsame hline.memory_extends hlearns
  exact h.next hline h.settled' hclash hmimics

end Beside

/-- The run without the lines that are taken out, beside the run with all lines. -/
theorem evaluateLines_without {c : Catalog} {limits : Limits} {drop : Nat → Bool}
    (lines : List (Nat × String)) :
    ∀ {s s' t : Session} {os : List LineOutcome} {D : Question → Prop} (first : Nat),
      evaluateLines s limits lines = (.ok os, s') → Beside c limits drop D s t lines os →
      ∃ t', evaluateLines t limits (numberFrom first (remaining drop lines)) =
          (.ok (renumberFrom first (os.filter fun o => !drop o.line)), t') ∧
        t'.context = s'.context ∧ t'.bare.functions = s'.bare.functions := by
  induction lines with
  | nil =>
    intro s s' t os D first hrun hbeside
    cases hrun
    have hbare := hbeside.mimics.bare
    exact ⟨t, rfl, congrArg (·.context) hbare, congrArg (·.functions) hbare⟩
  | cons l rest ih =>
    obtain ⟨line, raw⟩ := l
    intro s s' t os D first hrun hbeside
    obtain ⟨o, os', s₁, hline, hrest, rfl⟩ := evaluateLines_cons hrun
    cases hdrop : drop line with
    | false =>
      obtain ⟨t₁, hline', hbeside'⟩ := hbeside.kept hline hdrop first
      obtain ⟨t', hrun', hsame⟩ := ih (first + 1) hrest hbeside'
      refine ⟨t', ?_, hsame⟩
      have hkept : remaining drop ((line, raw) :: rest) = raw :: remaining drop rest := by
        simp [remaining, hdrop]
      have houtcomes : (o :: os').filter (fun o => !drop o.line) =
          o :: os'.filter fun o => !drop o.line := by
        simp [hline.line_eq, hdrop]
      rw [hkept, houtcomes]
      exact hline'.evaluateLines_eq hrun'
    | true =>
      obtain ⟨t', hrun', hsame⟩ := ih first hrest (hbeside.dropped hline hdrop)
      refine ⟨t', ?_, hsame⟩
      have hkept : remaining drop ((line, raw) :: rest) = remaining drop rest := by
        simp [remaining, hdrop]
      have houtcomes : (o :: os').filter (fun o => !drop o.line) =
          os'.filter fun o => !drop o.line := by
        simp [hline.line_eq, hdrop]
      rw [hkept, houtcomes, hrun']

/-! ### The remaining document -/

/-- A document with a line that is not blank is evaluated line by line. -/
theorem evaluate_of_mem_lines {text raw : String} (hraw : raw ∈ Text.lines text)
    (hblank : Text.isBlankText raw = false) (s : Session) (limits : Limits) :
    evaluate s limits text =
      match evaluateLines s.clear limits (numberedLines text) with
      | (.error a, s) => (.error a, s)
      | (.ok lines, s) => (.ok (summarize lines), s) := by
  have htext : ¬Text.isBlankText text = true := by
    intro htext
    rw [Text.isBlankText_of_mem_lines htext hraw] at hblank
    cases hblank
  exact if_neg htext

theorem evaluate_of_run {text : String} (raw : String) {s s' : Session} {limits : Limits}
    {os : List LineOutcome} (hraw : raw ∈ Text.lines text) (hblank : Text.isBlankText raw = false)
    (hrun : evaluateLines s.clear limits (numberedLines text) = (.ok os, s')) :
    evaluate s limits text = (.ok (summarize os), s') := by
  rw [evaluate_of_mem_lines hraw hblank, hrun]

theorem settled_clear (s : Session) : s.clear.Settled s.catalog where
  catalog := .refl s.catalog
  bodies := by intro key f hf; simp [Session.clear, Table.get?] at hf

/-- **Failed lines are inert.** Where no unit text of a document makes a unit known, lines that are
blank, comments or failed can be taken out of it, as long as a line that is not blank remains: the
remaining lines have the same outcomes but for their numbers, and the session ends with the same
variables and, up to spans, the same functions. No line that is taken out may leave a call open, or
be the first to have a product of units worked out which a later line that remains asks about in
another form. -/
theorem evaluate_without_inert (s : Session) (limits : Limits) (text : String)
    {o : DocumentOutcome} {s' : Session} (hdocument : evaluate s limits text = (.ok o, s'))
    (hunits : ∀ l ∈ numberedLines text, ∀ n, parseLine l.2 l.1 = .ok n →
      ∀ u ∈ n.unitTexts, s.catalog.Settles u)
    (drop : Nat → Bool)
    (hdrop : ∀ l ∈ o.lines, drop l.line = true →
      l.isBlank = true ∨ l.isComment = true ∨ l.hasError = true)
    (hleft : ∃ l ∈ numberedLines text, drop l.1 = false ∧ Text.isBlankText l.2 = false)
    (hforms : Unheeded limits drop s.clear (numberedLines text))
    (hcalls : Unstuck limits drop s.clear (numberedLines text)) :
    ∃ t', evaluate s limits ("\r\n".intercalate (remaining drop (numberedLines text))) =
        (.ok (summarize (renumberFrom 1 (o.lines.filter fun l => !drop l.line))), t') ∧
      t'.context = s'.context ∧ t'.bare.functions = s'.bare.functions := by
  obtain ⟨l, hl, hkept, hblank⟩ := hleft
  have hmem : l.2 ∈ remaining drop (numberedLines text) :=
    List.mem_map.mpr ⟨l, List.mem_filter.mpr ⟨hl, by simp [hkept]⟩, rfl⟩
  have hlines : Text.lines ("\r\n".intercalate (remaining drop (numberedLines text))) =
      remaining drop (numberedLines text) := by
    refine Text.lines_intercalate (List.ne_nil_of_mem hmem) ?_
    intro raw hraw
    obtain ⟨l', hl', rfl⟩ := List.mem_map.mp hraw
    exact Text.notMem_of_mem_lines (mem_lines_of_mem (List.mem_filter.mp hl').1)
  rw [evaluate_of_mem_lines (mem_lines_of_mem hl) hblank] at hdocument
  rcases hrun : evaluateLines s.clear limits (numberedLines text) with ⟨a | os, s₁⟩ <;>
    rw [hrun] at hdocument
  · cases hdocument
  · cases hdocument
    -- at the start the runs agree, and nothing has been learnt by either alone
    have hstart : Beside s.catalog limits drop (fun _ => False) s.clear s.clear (numberedLines text)
        os :=
      ⟨s.clear_textual.bodies, settled_clear s, settled_clear s, hunits, hdrop, hforms, hcalls,
        fun _ _ => False.elim, .refl _, rfl⟩
    obtain ⟨t', hrun', hsame⟩ := evaluateLines_without _ 1 hrun hstart
    rw [← hlines, ← numberedLines_eq] at hrun'
    exact ⟨t', evaluate_of_run _ (by rw [hlines]; exact hmem) hblank hrun', hsame⟩

theorem spells_one : Spells 3 "1" [.number 1 none] :=
  ⟨by decide, by decide, by decide +kernel, by decide +kernel⟩

theorem sentence_one : Sentence [.number 1 none] (.number 1 none .nowhere) :=
  .expression (.loosen (by decide) (by decide) (.number 1 none))

theorem evaluate_one (s : Session) :
    s.evaluate .standard (.number 1 none .nowhere) = (.ok (.value (.number 1)), s) := by
  unfold Session.evaluate
  rw [(Evaluates.number rfl rfl).eval_eq]

/-- An undefined variable and a malformed line are taken out before a number. -/
theorem evaluate_without_inert_before_one :
    ∃ o s', evaluate (.fresh .standard) .standard "y\n?\n1" = (.ok o, s') ∧
      ∃ t', evaluate (.fresh .standard) .standard "1" =
          (.ok (summarize (renumberFrom 1 (o.lines.filter fun l => !decide (l.line < 3)))), t') ∧
        t'.context = s'.context ∧ t'.bare.functions = s'.bare.functions := by
  have hspells : Spells 1 "y" [.name "y"] :=
    ⟨by decide, by decide, by decide +kernel, by decide +kernel⟩
  have hname : Sentence [.name "y"] (.reference "y" .nowhere) :=
    .expression (.loosen (by decide) (by decide) (.reference "y"))
  obtain ⟨message, herror⟩ := Result.ofError_eq (.undefinedVariable "y")
  have heval : (Session.fresh .standard).evaluate .standard (.reference "y" .nowhere) =
      (.ok (.error (some message) (EvalError.undefinedVariable "y").kind), .fresh .standard) := by
    rw [← herror]
    unfold Session.evaluate
    rw [(Evaluates.reference rfl).eval_eq]
    rfl
  obtain ⟨d, hmalformed⟩ := exists_parseLine_error (by decide : (commentOn? "?" 2).isNone = true)
    (by decide +kernel : _ = some '?')
  obtain ⟨s₁, hline₁, hs₁⟩ := gives_of_spells hspells (by decide) hname (by simp) heval rfl
    (rfl : (Session.fresh .standard).clear.bare = _)
  have hline₂ : Gives .standard 2 "?" s₁ _ s₁ := .malformed (by decide) hmalformed
  obtain ⟨s₃, hline₃, hs₃⟩ := gives_of_spells spells_one (by decide) sentence_one (by simp)
    (evaluate_one _) rfl hs₁
  have hlines : numberedLines "y\n?\n1" = [(1, "y"), (2, "?"), (3, "1")] := by decide +kernel
  have hrun := hline₁.evaluateLines_eq
    (hline₂.evaluateLines_eq hline₃.evaluateLines_single)
  rw [← hlines] at hrun
  have hdocument := evaluate_of_run (s := .fresh .standard) "1" (by decide +kernel)
    (by decide) hrun
  have hvisits : visits .standard (Session.fresh .standard).clear (numberedLines "y\n?\n1") =
      [⟨(Session.fresh .standard).clear, 1, "y"⟩, ⟨s₁, 2, "?"⟩, ⟨s₁, 3, "1"⟩] := by
    rw [hlines, hline₁.visits_eq, hline₂.visits_eq, hline₃.visits_eq]
    rfl
  refine ⟨_, _, hdocument, ?_⟩
  have hjoined : "\r\n".intercalate
      (remaining (fun i => decide (i < 3)) (numberedLines "y\n?\n1")) = "1" := by decide +kernel
  rw [← hjoined]
  refine evaluate_without_inert _ _ _ hdocument ?_ _ ?_ ?_ ?_ ?_
  · -- no line has a unit
    intro l hl n hn u hu
    rw [hlines] at hl
    simp only [List.mem_cons, List.not_mem_nil, or_false] at hl
    rcases hl with rfl | rfl | rfl
    · rw [unitTexts_of_spells hspells (by decide) hname hn, Node.unitTexts] at hu
      cases hu
    · cases hmalformed.symm.trans hn
    · rw [unitTexts_of_spells spells_one (by decide) sentence_one hn, Node.unitTexts] at hu
      cases hu
  · intro l hl hdrop
    simp only [summarize, List.mem_cons, List.not_mem_nil, or_false] at hl
    rcases hl with rfl | rfl | rfl
    · exact .inr (.inr rfl)
    · exact .inr (.inr rfl)
    · simp at hdrop
  · rw [hlines]
    exact ⟨(3, "1"), by simp, rfl, by decide⟩
  · -- the first two lines learn nothing
    have hlearn₁ := hline₁.not_learns (congrArg (·.catalog.memory) hs₁)
    have hlearn₂ := hline₂.not_learns rfl
    unfold Unheeded
    rw [hvisits]
    refine .cons ?_ (.cons ?_ (.cons ?_ .nil))
    · exact fun w _ _ _ q r hq => absurd hq (hlearn₁ q)
    · exact fun w _ _ _ q r hq => absurd hq (hlearn₂ q)
    · exact fun w hw => absurd hw List.not_mem_nil
  · -- and they open no call
    have hdepth₁ : s₁.context.depth = 0 := congrArg (·.context.depth) hs₁
    have hdepth₃ : s₃.context.depth = 0 := congrArg (·.context.depth) hs₃
    unfold Unstuck Visit.Sticks
    rw [hvisits]
    simp only [List.forall_mem_cons, hline₁.evaluateLine_eq, hline₂.evaluateLine_eq,
      hline₃.evaluateLine_eq, hdepth₁, hdepth₃]
    simp [Session.clear, Context.reset]

/-! ### Two words for one product -/

/-- A catalog that has two words for a product, one for either order of its factors. -/
def twoWords : Catalog := .withAliases [("p", "ampere*second"), ("q", "second*ampere")]

theorem resolve_twoWords {word : String} (expression : String) {units : Units}
    (halias : Table.get? twoWords.aliases (Text.fold (Text.trim word)) = some expression)
    (hparse : Registry.standard.parse expression = (.ok units, .standard)) :
    twoWords.resolve word = (.ok units, twoWords) := by
  rw [Catalog.resolve_of_alias halias hparse]
  rfl

open Unit.Known in
theorem resolve_p : twoWords.resolve "p" = (.ok [(ampere, 1), (second, 1)], twoWords) := by
  have hread : UnitTerm.read "ampere*second" = .ok (1, [("ampere", 1), ("second", 1)]) :=
    UnitTerm.read_product "ampere" "second" (by decide) (by decide +kernel)
  refine resolve_twoWords "ampere*second" (by decide +kernel) ?_
  unfold Registry.parse
  rw [hread]
  rfl

open Unit.Known in
theorem resolve_q : twoWords.resolve "q" = (.ok [(second, 1), (ampere, 1)], twoWords) := by
  have hread : UnitTerm.read "second*ampere" = .ok (1, [("second", 1), ("ampere", 1)]) :=
    UnitTerm.read_product "second" "ampere" (by decide) (by decide +kernel)
  refine resolve_twoWords "second*ampere" (by decide +kernel) ?_
  unfold Registry.parse
  rw [hread]
  rfl

/-- A session that has nothing but the two words, and has worked out what `m` says. -/
def twoWordSession (m : Memory) : Session := .fresh (twoWords.withMemory m)

/-- A quantity times itself. -/
def square (word : String) : Node :=
  .binary (.number 1 (some word) .nowhere) "*" (.number 1 (some word) .nowhere) .nowhere

/-- The lexemes of a quantity times itself. -/
def squareLexemes (word : String) : List Lexeme :=
  [.number 1 (some word), .symbol .star, .number 1 (some word)]

theorem sentence_square (word : String) : Sentence (squareLexemes word) (square word) := by
  have hfactor := Phrase.number 1 (some word)
  have hproduct := Phrase.multiply (.loosen (by decide) (by decide) hfactor)
    (.loosen (by decide) (by decide) hfactor)
  exact .expression (.loosen (by decide) (by decide) hproduct)

theorem evaluate_square {m m' : Memory} {word : String} {units : Units} {e : EvalError}
    (hblank : Text.isBlankText word = false) (hword : twoWords.resolve word = (.ok units, twoWords))
    (hproduct : Arithmetic.binary m "*" (.quantity ⟨1, units⟩) (.quantity ⟨1, units⟩) =
      (.error (.error e), m')) :
    (twoWordSession m).evaluate .standard (square word) =
      (.ok (.ofError e), twoWordSession m') := by
  have hliteral : (twoWordSession m).literal 1 (some word) =
      (.ok (.quantity ⟨1, units⟩), twoWordSession m) := by
    have hresolve := twoWords.resolve_withMemory m word
    rw [hword] at hresolve
    rw [literal_eq_of_text _ _ (by simp [hblank])]
    unfold twoWordSession Session.fresh
    simp only [hresolve]
    rfl
  have hoperate : (twoWordSession m).operate "*" (.quantity ⟨1, units⟩) (.quantity ⟨1, units⟩) =
      (.error (.error e), twoWordSession m') := by
    have hm : (twoWordSession m).catalog.memory = m := rfl
    unfold Session.operate
    rw [hm, hproduct]
    rfl
  have heval : Evaluates ((twoWordSession m).callsLeft .standard) Limits.standard.nesting
      (twoWordSession m) (square word) (.error (.error e)) (twoWordSession m') :=
    .binary rfl (.number rfl hliteral) (.number rfl hliteral) hoperate
  unfold Session.evaluate
  rw [heval.eval_eq]

/-- The message of a result. -/
def message : Result → String
  | .error (some message) _ => message
  | _ => ""

theorem settles_of_square {line : Nat} {raw word : String} {units : Units} {n : Node}
    (h : Spells line raw (squareLexemes word)) (hword : twoWords.resolve word = (.ok units, twoWords))
    (hn : parseLine raw line = .ok n) : ∀ u ∈ n.unitTexts, twoWords.Settles u := by
  have hroom : (squareLexemes word).length < nestingRoom := (by decide : 3 < nestingRoom)
  intro u hu
  rw [unitTexts_of_spells h hroom (sentence_square word) hn] at hu
  simp [square, Node.unitTexts] at hu
  subst hu
  exact congrArg (·.2.registry) hword

open Unit.Known in
/-- **Without the condition on products of units, failed lines are not inert**: a failed line can
decide in which order a later line names the dimensions of a product. -/
theorem inert_line_shows_in_later_line :
    ¬∀ (s : Session) (limits : Limits) (text : String) (o : DocumentOutcome) (s' : Session),
      evaluate s limits text = (.ok o, s') →
      (∀ l ∈ numberedLines text, ∀ n, parseLine l.2 l.1 = .ok n →
        ∀ u ∈ n.unitTexts, s.catalog.Settles u) →
      ∀ drop : Nat → Bool,
      (∀ l ∈ o.lines, drop l.line = true →
        l.isBlank = true ∨ l.isComment = true ∨ l.hasError = true) →
      (∃ l ∈ numberedLines text, drop l.1 = false ∧ Text.isBlankText l.2 = false) →
      ∃ t', evaluate s limits ("\r\n".intercalate (remaining drop (numberedLines text))) =
          (.ok (summarize (renumberFrom 1 (o.lines.filter fun l => !drop l.line))), t') ∧
        t'.context = s'.context ∧ t'.bare.functions = s'.bare.functions := by
  intro hclaim
  -- the dimension is in the order in which the product was met first
  have hp : (twoWordSession .empty).evaluate .standard (square "p") =
      (.ok (.ofError (.cannotApply "*" "[current] * [time]" "[current] * [time]")),
        twoWordSession ⟨[[(ampere, 1), (second, 1)]], []⟩) :=
    evaluate_square (by decide) resolve_p rfl
  have hq : (twoWordSession .empty).evaluate .standard (square "q") =
      (.ok (.ofError (.cannotApply "*" "[time] * [current]" "[time] * [current]")),
        twoWordSession ⟨[[(second, 1), (ampere, 1)]], []⟩) :=
    evaluate_square (by decide) resolve_q rfl
  have hq' : (twoWordSession ⟨[[(ampere, 1), (second, 1)]], []⟩).evaluate .standard (square "q") =
      (.ok (.ofError (.cannotApply "*" "[current] * [time]" "[current] * [time]")),
        twoWordSession ⟨[[(ampere, 1), (second, 1)]], []⟩) :=
    evaluate_square (by decide) resolve_q rfl
  have hspells : Spells 1 "1 p * 1 p" (squareLexemes "p") :=
    ⟨by decide, by decide, by decide +kernel, by decide +kernel⟩
  have hspells' : Spells 2 "1 q * 1 q" (squareLexemes "q") :=
    ⟨by decide, by decide, by decide +kernel, by decide +kernel⟩
  have halone : Spells 1 "1 q * 1 q" (squareLexemes "q") :=
    ⟨by decide, by decide, by decide +kernel, by decide +kernel⟩
  obtain ⟨s₁, hline₁, hs₁⟩ := gives_of_spells hspells (by decide) (sentence_square "p")
    (by simp [square]) hp rfl (rfl : (twoWordSession .empty).bare = _)
  obtain ⟨s₂, hline₂, hs₂⟩ := gives_of_spells hspells' (by decide) (sentence_square "q")
    (by simp [square]) hq' rfl hs₁
  obtain ⟨t, hline, -⟩ := gives_of_spells halone (by decide) (sentence_square "q")
    (by simp [square]) hq rfl (rfl : (twoWordSession .empty).bare = _)
  have hlines : numberedLines "1 p * 1 p\r\n1 q * 1 q" =
      [(1, "1 p * 1 p"), (2, "1 q * 1 q")] := by decide +kernel
  have hlines' : numberedLines "1 q * 1 q" = [(1, "1 q * 1 q")] := by decide +kernel
  have hrun := hline₁.evaluateLines_eq hline₂.evaluateLines_single
  have hrun' := hline.evaluateLines_single
  rw [← hlines] at hrun
  rw [← hlines'] at hrun'
  have hdocument := evaluate_of_run (s := twoWordSession .empty) "1 q * 1 q"
    (by decide +kernel) (by decide) hrun
  have hdocument' := evaluate_of_run (s := twoWordSession .empty) "1 q * 1 q"
    (by decide +kernel) (by decide) hrun'
  have hafter := hclaim _ _ _ _ _ hdocument ?_ (· == 1) ?_ ?_
  · obtain ⟨t', hafter, -⟩ := hafter
    have hjoined : "\r\n".intercalate
        (remaining (· == 1) (numberedLines "1 p * 1 p\r\n1 q * 1 q")) = "1 q * 1 q" := by
      decide +kernel
    rw [hjoined, hdocument'] at hafter
    injection hafter with houtcome
    injection houtcome with houtcome
    have hresults := congrArg (fun o => o.lines.map fun l => l.result.elim "" message) houtcome
    exact absurd hresults (by decide +kernel)
  · intro l hl n hn
    rw [hlines] at hl
    simp only [List.mem_cons, List.not_mem_nil, or_false] at hl
    rcases hl with rfl | rfl
    · exact settles_of_square hspells resolve_p hn
    · exact settles_of_square hspells' resolve_q hn
  · intro l hl _
    simp only [summarize, List.mem_cons, List.not_mem_nil, or_false] at hl
    rcases hl with rfl | rfl
    · exact .inr (.inr rfl)
    · exact .inr (.inr rfl)
  · rw [hlines]
    exact ⟨(2, "1 q * 1 q"), by simp, rfl, by decide⟩

end Document

end Reckon
