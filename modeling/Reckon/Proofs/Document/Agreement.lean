import Mathlib.Data.List.TakeWhile
import Reckon.Proofs.Document.Inert
import Reckon.Proofs.Session.History

/-!
# Three ways to run a document

A document can be evaluated as such, its statements can be given to a session as single texts, and
it can be read as a whole so that its nodes are evaluated afterwards. `evaluate_line_by_line` says
that all three come to the same.

The first two number the lines differently, so the functions that they define differ in spans; what
they have in common is `Session.bare`. The last one reads the very nodes that the first one does, up
to the first malformed line.
-/

namespace Reckon

/-! ### Comments and statements -/

theorem Node.isComment_bare (n : Node) : n.bare.isComment = n.isComment := by
  cases n <;> rw [bare] <;> rfl

/-- No expression is a comment. -/
theorem Phrase.isComment_eq : ∀ {k : Nat} {ls : List Lexeme} {t : Node}, Phrase k ls t →
    t.isComment = false
  | _, _, _, .subtract .. | _, _, _, .add .. | _, _, _, .divide .. | _, _, _, .multiply ..
  | _, _, _, .power .. | _, _, _, .plus .. | _, _, _, .minus .. | _, _, _, .number ..
  | _, _, _, .reference .. | _, _, _, .callOfNone .. | _, _, _, .call .. => rfl
  | _, _, _, .ofSum h | _, _, _, .ofQuotient h | _, _, _, .ofProduct h | _, _, _, .ofPower h
  | _, _, _, .ofSigned h | _, _, _, .ofPrimary h | _, _, _, .parens h => h.isComment_eq

theorem Sentence.isComment_eq {ls : List Lexeme} {t : Node} (h : Sentence ls t) :
    t.isComment = false := by
  cases h with
  | definitionOfNone | definition | assignment => rfl
  | expression h => exact h.isComment_eq

theorem isComment_of_parseStatementLine {raw : String} {line : Int} {n : Node}
    (h : parseStatementLine raw line = .ok n) : n.isComment = false := by
  obtain ⟨-, hn⟩ := parseText_eq_ok_iff.1 h
  rw [← n.isComment_bare]
  exact (sentence_of_form (form_of_parseStatement hn) rfl).isComment_eq

/-- Whether the first character of a line after the blanks is `#`. -/
def startsComment (raw : String) : Bool := (Text.trimStart raw.toList).head? == some '#'

/-- What a comment line says after the `#`. -/
def commentText (raw : String) : String :=
  Text.trim (String.ofList (Text.trimStart raw.toList).tail)

/-- Whether a line is neither blank nor a comment. -/
def holdsStatement (raw : String) : Bool := !Text.isBlankText raw && !startsComment raw

theorem startsComment_of_blank {raw : String} (h : Text.isBlankText raw = true) :
    startsComment raw = false := by
  have hnil : Text.trimStart raw.toList = [] :=
    List.dropWhile_eq_nil_iff.mpr (List.all_eq_true.mp h)
  unfold startsComment
  rw [hnil]
  rfl

theorem parseLine_of_comment {raw : String} (h : startsComment raw = true) (line : Int) :
    ∃ span, parseLine raw line = .ok (.comment (commentText raw) span) := by
  unfold startsComment at h
  unfold parseLine commentOn? commentText
  rcases htext : Text.trimStart raw.toList with _ | ⟨c, cs⟩ <;> rw [htext] at h
  · cases h
  · obtain rfl : c = '#' := by simpa using h
    exact ⟨_, rfl⟩

theorem parseLine_of_not_comment {raw : String} (h : startsComment raw = false) (line : Int) :
    parseLine raw line = parseStatementLine raw line := by
  unfold parseLine
  split
  · rename_i hcomment
    unfold commentOn? at hcomment
    split at hcomment
    · rename_i htext
      simp [startsComment, htext] at h
    · cases hcomment
  · rfl

/-- A statement is read alike as a line of a document and alone. -/
theorem parseSingle_of_parseLine {raw : String} (h : startsComment raw = false) (line : Int) :
    SameReading (parseLine raw line) (parseSingle raw) := by
  rw [parseLine_of_not_comment h]
  exact parseText_renumbered ..

/-- A line is read as a comment only if it starts one. -/
theorem startsComment_of_parseLine {raw : String} {line : Int} {n : Node}
    (h : parseLine raw line = .ok n) : startsComment raw = n.isComment := by
  cases hstart : startsComment raw with
  | true =>
    obtain ⟨span, hcomment⟩ := parseLine_of_comment hstart line
    cases h.symm.trans hcomment
    rfl
  | false =>
    rw [parseLine_of_not_comment hstart] at h
    exact (isComment_of_parseStatementLine h).symm

/-! ### Messages -/

theorem EvalError.kind_ne_parse (e : EvalError) : e.kind ≠ .parse := by
  cases e <;> simp [kind]

/-- A result as a document shows it: the message about a malformed line is marked as such. -/
def Result.labelled : Result → Result
  | .error (some message) .parse => .error (some s!"Parse error: {message}") .parse
  | r => r

/-- Whether a line is malformed. -/
def LineOutcome.isMalformed (o : LineOutcome) : Bool :=
  match o.result with
  | some (.error _ .parse) => true
  | _ => false

theorem Diagnostic.isBlankText_summary (d : Diagnostic) : Text.isBlankText d.summary = false := by
  unfold Text.isBlankText
  rw [List.all_eq_false]
  refine ⟨'(', ?_, by decide⟩
  simp [summary, ToString.toString]

theorem Result.ofMessage_of_not_blank {message : String} (h : Text.isBlankText message = false)
    (kind : ErrorKind) : ofMessage (some message) kind = .error (some message) kind := by
  simp only [ofMessage, h, Bool.false_eq_true, if_false]

theorem malformed_result (line : Nat) (raw : String) (d : Diagnostic) :
    (Document.malformed line raw d).result =
      some (.error (some s!"Parse error: {d.summary}") .parse) := by
  have hblank : Text.isBlankText s!"Parse error: {d.summary}" = false := by
    unfold Text.isBlankText
    rw [List.all_eq_false]
    refine ⟨'P', ?_, by decide⟩
    simp [ToString.toString]
  unfold Document.malformed
  simp only
  rw [Result.ofMessage_of_not_blank hblank]

namespace Session

/-- No evaluation ends in an error of reading. -/
theorem evaluate_ne_parse {s s' : Session} {limits : Limits} {n : Node} {r : Result}
    (h : s.evaluate limits n = (.ok r, s')) (message : Option String) :
    r ≠ .error message .parse := by
  have hofError : ∀ e, Result.ofError e ≠ .error message .parse := by
    intro e he
    obtain ⟨m, hm⟩ := Result.ofError_eq e
    rw [hm] at he
    exact e.kind_ne_parse (Result.error.inj he).2
  unfold evaluate at h
  split at h <;> cases h
  · simp
  · exact hofError _
  · exact hofError _

theorem evaluate_labelled {s s' : Session} {limits : Limits} {n : Node} {r : Result}
    (h : s.evaluate limits n = (.ok r, s')) : r.labelled = r := by
  unfold Result.labelled
  split
  · exact absurd rfl (evaluate_ne_parse h _)
  · rfl

/-- A comment evaluates to something or other and changes nothing. -/
theorem evaluate_comment (s : Session) (limits : Limits) (text : String) (span : Span) :
    ∃ r, s.evaluate limits (.comment text span) = (.ok r, s) := by
  unfold evaluate
  cases hroom : limits.nesting.deeper with
  | none =>
    rw [(Evaluates.tooDeep hroom).eval_eq]
    exact ⟨_, rfl⟩
  | some inner =>
    rw [(Evaluates.comment hroom).eval_eq]
    exact ⟨_, rfl⟩

/-- Evaluates nodes in order, up to the first one that aborts, and keeps the results of all that are
no comments. -/
def evaluateNodes (s : Session) (limits : Limits) :
    List Node → Except Abort (List Result) × Session
  | [] => (.ok [], s)
  | n :: rest =>
    match s.evaluate limits n with
    | (.error a, s) => (.error a, s)
    | (.ok r, s) =>
      match evaluateNodes s limits rest with
      | (.error a, s) => (.error a, s)
      | (.ok rs, s) => (.ok (if n.isComment then rs else r :: rs), s)

theorem evaluateNodes_cons {s s₁ s' : Session} {limits : Limits} {n : Node} {rest : List Node}
    {r : Result} {rs : List Result} (h : s.evaluate limits n = (.ok r, s₁))
    (hrest : s₁.evaluateNodes limits rest = (.ok rs, s')) :
    s.evaluateNodes limits (n :: rest) = (.ok (if n.isComment then rs else r :: rs), s') := by
  rw [evaluateNodes, h]
  simp only [hrest]

end Session

namespace Document

open Session

/-! ### A line of a document and the same line alone -/

/-- The requests to evaluate the statements among some lines. -/
def requests (lines : List String) : List Request := (lines.filter holdsStatement).map .text

theorem requests_cons (raw : String) (rest : List String) :
    requests (raw :: rest) = requests [raw] ++ requests rest := by
  unfold requests
  rw [← List.map_append, ← List.filter_append]
  rfl

theorem after_requests_statement {raw : String} (h : holdsStatement raw = true) (s : Session)
    (limits : Limits) : s.after limits (requests [raw]) = (s.evaluateText limits raw).2 := by
  unfold requests
  rw [List.filter_cons_of_pos h]
  rfl

theorem after_requests_other {raw : String} (h : holdsStatement raw = false) (s : Session)
    (limits : Limits) : s.after limits (requests [raw]) = s := by
  unfold requests
  rw [List.filter_cons_of_neg (by simp [h])]
  rfl

/-- What the outcome of a line has to be, given a session to evaluate its text in. -/
structure Entry (limits : Limits) (s : Session) (o : LineOutcome) : Prop where
  /-- Blank lines say nothing. -/
  blank : Text.isBlankText o.text = true → o = ⟨o.line, o.text, "", false, false, none⟩
  /-- Comment lines say what stands after the `#`. -/
  comment : startsComment o.text = true →
    o = ⟨o.line, o.text, commentText o.text, false, true, none⟩
  /-- All other lines have the result of their text. -/
  statement : holdsStatement o.text = true → ∃ r, (s.evaluateText limits o.text).1 = .ok r ∧
    o.result = some r.labelled ∧ o.hasError = r.hasError ∧ o.isComment = false

/-- A line that holds a statement has the result of its text and leaves the session that its text
leaves. -/
theorem Entry.of_statement {s' t t' : Session} {limits : Limits} {o : LineOutcome} {r : Result}
    (hstatement : holdsStatement o.text = true)
    (htext : t.evaluateText limits o.text = (.ok r, t')) (ht' : t'.bare = s'.bare)
    (hresult : o.result = some r.labelled) (herror : o.hasError = r.hasError)
    (hcomment : o.isComment = false) :
    Entry limits t o ∧ (t.after limits (requests [o.text])).bare = s'.bare := by
  have hkind : Text.isBlankText o.text = false ∧ startsComment o.text = false := by
    simpa [holdsStatement] using hstatement
  refine ⟨⟨?_, ?_, ?_⟩, ?_⟩
  · intro h
    cases hkind.1.symm.trans h
  · intro h
    cases hkind.2.symm.trans h
  · intro _
    exact ⟨r, congrArg (·.1) htext, hresult, herror, hcomment⟩
  · rw [after_requests_statement hstatement, htext]
    exact ht'

/-- **A line of a document has the outcome that it has alone**, in a session that differs in spans
only, and leaves such a session. -/
theorem Gives.entry {s s' t : Session} {limits : Limits} {line : Nat} {raw : String}
    {o : LineOutcome} (h : Gives limits line raw s o s') (ht : t.bare = s.bare) :
    Entry limits t o ∧ (t.after limits (requests [o.text])).bare = s'.bare := by
  cases h with
  | blank hblank =>
    have hstart := startsComment_of_blank hblank
    have hother : holdsStatement raw = false := by simp [holdsStatement, hblank]
    refine ⟨⟨fun _ => rfl, ?_, ?_⟩, by rw [after_requests_other hother, ht]⟩
    · intro h
      cases hstart.symm.trans h
    · intro h
      cases hother.symm.trans h
  | @comment text span hblank hparse =>
    have hstart : startsComment raw = true := startsComment_of_parseLine hparse
    have hother : holdsStatement raw = false := by simp [holdsStatement, hstart]
    obtain ⟨span', hcomment⟩ := parseLine_of_comment hstart line
    obtain ⟨rfl, rfl⟩ := Node.comment.inj (Except.ok.inj (hparse.symm.trans hcomment))
    refine ⟨⟨?_, fun _ => rfl, ?_⟩, by rw [after_requests_other hother, ht]⟩
    · intro h
      cases hblank.symm.trans h
    · intro h
      cases hother.symm.trans h
  | @malformed d hblank hparse =>
    have hstart : startsComment raw = false := by
      rcases hstart : startsComment raw with _ | _
      · rfl
      · obtain ⟨span, hcomment⟩ := parseLine_of_comment hstart line
        cases hparse.symm.trans hcomment
    -- read as a text, the line has the same error with other places
    have hread := parseSingle_of_parseLine hstart line
    rw [hparse] at hread
    generalize hsingle : parseSingle raw = reading at hread
    cases hread with
    | @error _ d' hsummary =>
      have htext : t.evaluateText limits raw = (.ok (.error (some d.summary) .parse), t) := by
        unfold evaluateText
        rw [hsingle]
        simp only [hsummary]
        rw [Result.ofMessage_of_not_blank d.isBlankText_summary]
      have hstatement : holdsStatement raw = true := by simp [holdsStatement, hblank, hstart]
      exact Entry.of_statement hstatement htext ht (malformed_result line raw d) rfl rfl
  | @evaluated n r display _ hblank hparse hcomment heval hdisplay =>
    have hstart : startsComment raw = false := by
      rw [startsComment_of_parseLine hparse]
      cases n <;> first | rfl | exact absurd rfl (hcomment _ _)
    have hread := parseSingle_of_parseLine hstart line
    rw [hparse] at hread
    generalize hsingle : parseSingle raw = reading at hread
    cases hread with
    | @ok _ n' hsame =>
      have halone := evaluate_eq_of_bare limits ht hsame
      rw [heval] at halone
      have htext : t.evaluateText limits raw = (.ok r, (t.evaluate limits n').2) := by
        unfold evaluateText
        rw [hsingle]
        exact Prod.ext halone.1 rfl
      have hstatement : holdsStatement raw = true := by simp [holdsStatement, hblank, hstart]
      exact Entry.of_statement hstatement htext halone.2 (by rw [evaluate_labelled heval]) rfl rfl

theorem Gives.place_eq {s s' : Session} {limits : Limits} {line : Nat} {raw : String}
    {o : LineOutcome} (h : Gives limits line raw s o s') : (o.line, o.text) = (line, raw) := by
  cases h <;> rfl

/-- The lines of a document have the outcomes that they have one by one. -/
theorem evaluateLines_entries {limits : Limits} (lines : List (Nat × String)) :
    ∀ {s s' t : Session} {os : List LineOutcome},
      evaluateLines s limits lines = (.ok os, s') → t.bare = s.bare →
      os.map (fun o => (o.line, o.text)) = lines ∧
        ∀ before o after, os = before ++ o :: after →
          Entry limits (t.after limits (requests (before.map (·.text)))) o := by
  induction lines with
  | nil =>
    intro s s' t os hrun _
    cases hrun
    exact ⟨rfl, fun before o after h => by simp at h⟩
  | cons l rest ih =>
    obtain ⟨line, raw⟩ := l
    intro s s' t os hrun ht
    obtain ⟨o, os', s₁, hline, hrun', rfl⟩ := evaluateLines_cons hrun
    obtain ⟨hentry, ht'⟩ := hline.entry ht
    obtain ⟨hplaces, hentries⟩ := ih hrun' ht'
    refine ⟨by rw [List.map_cons, hline.place_eq, hplaces], ?_⟩
    intro before l after hsplit
    cases before with
    | nil =>
      obtain ⟨rfl, -⟩ := List.cons.inj hsplit
      exact hentry
    | cons b before =>
      obtain ⟨rfl, hrest⟩ := List.cons.inj hsplit
      -- the first line is given to the session before all others
      have hfed : t.after limits (requests ((o :: before).map (·.text))) =
          (t.after limits (requests [o.text])).after limits (requests (before.map (·.text))) := by
        rw [List.map_cons, requests_cons]
        exact List.foldl_append
      rw [hfed]
      exact hentries before l after hrest

/-! ### Reading the whole document first -/

/-- A line that is malformed ends the reading. Any other line adds some nodes, none if it is blank;
to evaluate them has the result of the line and leads to the same session. -/
theorem Gives.reading {s s₁ : Session} {limits : Limits} {line : Nat} {raw : String}
    {o : LineOutcome} (h : Gives limits line raw s o s₁) :
    (∃ d : Diagnostic, o.result = some (.error (some s!"Parse error: {d.summary}") .parse) ∧
      ∀ rest, parseLines ((line, raw) :: rest) = .error ⟨line, d⟩) ∨
    o.isMalformed = false ∧ ∃ read : List Node,
      (∀ rest, parseLines ((line, raw) :: rest) = (parseLines rest).map (read ++ ·)) ∧
      ∀ {rest : List Node} {rs : List Result} {s' : Session},
        s₁.evaluateNodes limits rest = (.ok rs, s') →
        s.evaluateNodes limits (read ++ rest) = (.ok (o.result.toList ++ rs), s') := by
  have hnode : ∀ {n : Node}, Text.isBlankText raw = false → parseLine raw line = .ok n →
      ∀ rest, parseLines ((line, raw) :: rest) = (parseLines rest).map ([n] ++ ·) := by
    intro n hblank hparse rest
    rw [parseLines, hblank, hparse]
    cases parseLines rest <;> rfl
  cases h with
  | malformed hblank hparse =>
    refine .inl ⟨_, malformed_result .., fun rest => ?_⟩
    rw [parseLines, hblank, hparse]
    rfl
  | blank hblank =>
    refine .inr ⟨rfl, [], fun rest => ?_, id⟩
    rw [parseLines, if_pos hblank]
    cases parseLines rest <;> rfl
  | @comment text span hblank hparse =>
    obtain ⟨r, heval⟩ := s.evaluate_comment limits text span
    exact .inr ⟨rfl, _, hnode hblank hparse, evaluateNodes_cons heval⟩
  | @evaluated n r display _ hblank hparse hcomment heval hdisplay =>
    have hnot : n.isComment = false := by
      cases n <;> first | rfl | exact absurd rfl (hcomment _ _)
    -- no evaluation has an error of reading as its result
    refine .inr ⟨?_, _, hnode hblank hparse, fun {rest rs s'} hrest => ?_⟩
    · unfold LineOutcome.isMalformed
      simp only
      split
      · rename_i hr
        exact absurd (Option.some.inj hr) (evaluate_ne_parse heval _)
      · rfl
    · have hnodes := evaluateNodes_cons heval hrest
      rw [hnot] at hnodes
      exact hnodes

/-- **Lines that are read first and evaluated then** have the results that they have when each is
read and evaluated in turn; reading stops at the first malformed one. -/
theorem evaluateLines_parsed {limits : Limits} (lines : List (Nat × String)) :
    ∀ {s s' : Session} {os : List LineOutcome}, evaluateLines s limits lines = (.ok os, s') →
      (∃ nodes, parseLines lines = .ok nodes ∧ (∀ o ∈ os, o.isMalformed = false) ∧
        s.evaluateNodes limits nodes = (.ok (os.filterMap (·.result)), s')) ∨
      ∃ before o after d, os = before ++ o :: after ∧ (∀ b ∈ before, b.isMalformed = false) ∧
        o.result = some (.error (some s!"Parse error: {d.summary}") .parse) ∧
        parseLines lines = .error ⟨o.line, d⟩ := by
  induction lines with
  | nil =>
    intro s s' os hrun
    cases hrun
    exact .inl ⟨[], rfl, by simp, rfl⟩
  | cons l rest ih =>
    obtain ⟨line, raw⟩ := l
    intro s s' os hrun
    obtain ⟨o, os', s₁, hline, hrun', rfl⟩ := evaluateLines_cons hrun
    rcases hline.reading with ⟨d, hresult, hparse⟩ | ⟨hwell, read, hparse, hread⟩
    · refine .inr ⟨[], o, os', d, rfl, by simp, hresult, ?_⟩
      rw [hparse, hline.line_eq]
    · rw [hparse]
      rcases ih hrun' with
        ⟨nodes, hnodes, hnone, hsame⟩ | ⟨before, l, after, d, rfl, hbefore, hl, he⟩
      · refine .inl ⟨read ++ nodes, by rw [hnodes]; rfl, ?_, ?_⟩
        · exact List.forall_mem_cons.mpr ⟨hwell, hnone⟩
        · rw [hread hsame]
          cases hresult : o.result <;> simp [hresult]
      · refine .inr ⟨o :: before, l, after, d, rfl, ?_, hl, by rw [he]; rfl⟩
        exact List.forall_mem_cons.mpr ⟨hwell, hbefore⟩

/-! ### Whole documents -/

theorem parseSource_of_blank {text : String} (h : Text.isBlankText text = true) :
    parseSource text = .ok [] := by
  have hlines : ∀ l ∈ numberedLines text, Text.isBlankText l.2 = true :=
    fun l hl => Text.isBlankText_of_mem_lines h (mem_lines_of_mem hl)
  unfold parseSource
  generalize numberedLines text = lines at hlines
  induction lines with
  | nil => rfl
  | cons l rest ih =>
    rw [parseLines, if_pos (hlines l List.mem_cons_self)]
    exact ih fun l hl => hlines l (List.mem_cons_of_mem _ hl)

/-- The lines of a document that is not blank are evaluated one after the other. -/
theorem evaluate_cases {s s' : Session} {limits : Limits} {text : String} {o : DocumentOutcome}
    (h : evaluate s limits text = (.ok o, s')) :
    (Text.isBlankText text = true ∧ o = ready ∧ s' = s.clear) ∨
      Text.isBlankText text = false ∧ o = summarize o.lines ∧
        evaluateLines s.clear limits (numberedLines text) = (.ok o.lines, s') := by
  unfold evaluate at h
  simp only at h
  split at h
  · rename_i hblank
    cases h
    exact .inl ⟨hblank, rfl, rfl⟩
  · rename_i hblank
    split at h
    · cases h
    · rename_i hrun
      cases h
      exact .inr ⟨by simpa using hblank, rfl, hrun⟩

/-- **Three ways to run a document agree**, whatever the session has gone through before. A document
that is not blank has one outcome for each line. Blank lines and comments aside, it is the result of
the line as a text, in the cleared session that was given the earlier such lines as texts. The whole
document can be read just if no line is malformed; its nodes, evaluated in a fresh session, have the
same results then. Otherwise the error of reading it is about the first malformed line. -/
theorem evaluate_line_by_line (limits : Limits) (catalog : Catalog) (steps : List Step)
    (text : String) {o : DocumentOutcome} {s' : Session}
    (h : evaluate (history limits catalog steps) limits text = (.ok o, s')) :
    (Text.isBlankText text = true → o.lines = []) ∧
    (Text.isBlankText text = false →
      o.lines.map (fun l => (l.line, l.text)) = numberedLines text) ∧
    (∀ before l after, o.lines = before ++ l :: after →
      Entry limits ((history limits catalog steps).clear.after limits
        (requests (before.map (·.text)))) l) ∧
    o.errorCount = o.lines.countP (·.hasError) ∧
    ((∃ nodes, parseSource text = .ok nodes) ↔ ∀ l ∈ o.lines, l.isMalformed = false) ∧
    (∀ nodes, parseSource text = .ok nodes →
      (fresh (history limits catalog steps).catalog).evaluateNodes limits nodes =
        (.ok (o.lines.filterMap (·.result)), s')) ∧
    (∀ e, parseSource text = .error e → ∃ before l after, ∃ message : String,
      o.lines = before ++ l :: after ∧ (∀ b ∈ before, b.isMalformed = false) ∧
        l.result = some (.error (some s!"Parse error: {message}") .parse) ∧
        e.message = s!"Line {l.line}: {message}") := by
  have hclear := clear_history limits catalog steps
  rcases evaluate_cases h with ⟨hblank, rfl, rfl⟩ | ⟨hblank, ho, hrun⟩
  · have hparse := parseSource_of_blank hblank
    refine ⟨fun _ => rfl, ?_, ?_, rfl, ?_, ?_, ?_⟩
    · intro hnot
      cases hblank.symm.trans hnot
    · intro before l after hsplit
      simp [ready] at hsplit
    · exact iff_of_true ⟨[], hparse⟩ (by simp [ready])
    · intro nodes hnodes
      cases hparse.symm.trans hnodes
      rw [hclear]
      rfl
    · intro e he
      cases hparse.symm.trans he
  · obtain ⟨hplaces, hentries⟩ := evaluateLines_entries _ hrun rfl
    have hread := evaluateLines_parsed _ hrun
    rw [hclear] at hread
    refine ⟨?_, fun _ => hplaces, hentries, by rw [ho]; rfl, ?_, ?_, ?_⟩
    · intro hnot
      cases hblank.symm.trans hnot
    · rcases hread with ⟨nodes, hnodes, hnone, -⟩ | ⟨before, l, after, d, hsplit, -, hl, he⟩
      · exact iff_of_true ⟨nodes, hnodes⟩ hnone
      -- reading stops at `l`, which is one of the lines
      · refine iff_of_false ?_ ?_
        · rintro ⟨nodes, hnodes⟩
          cases he.symm.trans hnodes
        · intro hnone
          have hl' := hnone l (by rw [hsplit]; simp)
          simp [LineOutcome.isMalformed, hl] at hl'
    · intro nodes hnodes
      rcases hread with ⟨nodes', hnodes', -, hsame⟩ | ⟨before, l, after, d, -, -, -, he⟩
      · cases hnodes'.symm.trans hnodes
        exact hsame
      · cases he.symm.trans hnodes
    · intro e he
      rcases hread with ⟨nodes, hnodes, -⟩ | ⟨before, l, after, d, hsplit, hbefore, hl, he'⟩
      · cases hnodes.symm.trans he
      · cases he'.symm.trans he
        exact ⟨before, l, after, d.summary, hsplit, hbefore, hl, rfl⟩

/-- A comment, a malformed line and a number, in a session that knows a variable and a unit. -/
theorem evaluate_line_by_line_of_three :
    ∃ o s', evaluate (history .standard .standard [.request (.text "x = 1"), .lookup "m"]) .standard
        "# a\n?\n1" = (.ok o, s') ∧
      o.lines.map (fun l => (l.line, l.text)) = numberedLines "# a\n?\n1" ∧
      ((∃ nodes, parseSource "# a\n?\n1" = .ok nodes) ↔ ∀ l ∈ o.lines, l.isMalformed = false) := by
  generalize [Step.request (.text "x = 1"), .lookup "m"] = steps
  have hlines : numberedLines "# a\n?\n1" = [(1, "# a"), (2, "?"), (3, "1")] := by decide +kernel
  have hstart : startsComment "# a" = true := by decide
  obtain ⟨span, hcomment⟩ := parseLine_of_comment hstart 1
  obtain ⟨d, hmalformed⟩ := exists_parseLine_error (by decide : (commentOn? "?" 2).isNone = true)
    (by decide +kernel : _ = some '?')
  obtain ⟨s', hline, -⟩ := gives_of_spells spells_one (by decide) sentence_one (by simp)
    (evaluate_one _) rfl (rfl : (history .standard .standard steps).clear.bare = _)
  have hrun := (Gives.comment (by decide) hcomment).evaluateLines_eq
    ((Gives.malformed (by decide) hmalformed).evaluateLines_eq hline.evaluateLines_single)
  rw [← hlines] at hrun
  have hdocument := evaluate_of_run "1" (by decide +kernel) (by decide) hrun
  have hagree := evaluate_line_by_line .standard .standard steps _ hdocument
  exact ⟨_, _, hdocument, hagree.2.1 (by decide), hagree.2.2.2.2.1⟩

end Document

end Reckon
