import Reckon.Document
import Reckon.Proofs.Grammar.Place
import Reckon.Proofs.Session.Bare
import Reckon.Proofs.Table

/-!
# Statements are atomic

Every session that texts and documents lead to stores pure function bodies only (`after_textual`),
and there a statement does all or nothing:

* a statement that fails, or that aborts, changes no variable and no function;
* an assignment that succeeds sets its own variable, a definition its own function;
* an expression changes neither, whatever functions it calls.

A variable is set in the current frame. That is the global one, unless a call has got stuck since the
session was cleared: then the call still counts as open, and its frame may be current
(`assignment_misses_globals`).
-/

namespace Reckon

/-- What can be asked of a session. -/
inductive Request where
  /-- To read and evaluate a statement. -/
  | text (text : String)
  /-- To evaluate a node. -/
  | node (n : Node)
  /-- To evaluate a document. -/
  | document (text : String)
  /-- To forget all variables and functions. -/
  | clear

/-- Whether a request comes as text, so that no node is made by hand. -/
def Request.isTextual : Request → Bool
  | node _ => false
  | _ => true

theorem Result.ofError_eq (e : EvalError) :
    ∃ message, Result.ofError e = .error (some message) e.kind := by
  unfold ofError ofMessage
  simp only
  split
  · exact ⟨_, rfl⟩
  · exact ⟨_, rfl⟩

namespace Session

/-- The session after a request. -/
def serve (limits : Limits) (s : Session) : Request → Session
  | .text text => (s.evaluateText limits text).2
  | .node n => (s.evaluate limits n).2
  | .document text => (Document.evaluate s limits text).2
  | .clear => s.clear

/-- The session after several requests. -/
def after (limits : Limits) (s : Session) (requests : List Request) : Session :=
  requests.foldl (serve limits) s

/-- The session is one that texts can lead to: it stores pure function bodies only, and if no call
counts as open, the global frame is current. -/
structure Textual (s : Session) : Prop where
  bodies : s.PureBodies
  nonneg : 0 ≤ s.context.depth
  current : s.context.depth = 0 → s.context.current = none

/-- What a statement with the outcome `o` does to the variables and functions. -/
def HasEffect (calls : Nat) (n : Node) (o : Except Failure Value) (s s' : Session) : Prop :=
  match n, o with
  | .assignment name _ _, .ok v =>
    s'.context = s.context.set name v ∧ s'.functions = s.functions
  | .definition name parameters body _, .ok _ =>
    s'.context = s.context ∧
      s'.functions = Table.insert s.functions (Text.fold name) ⟨name, parameters, body⟩
  | _, _ => Leads SameBindings Stuck calls o s s'

/-- **A statement does all or nothing.** -/
theorem Evaluates.hasEffect {calls : Nat} {room : Room} {s s' : Session} {n : Node}
    {o : Except Failure Value} (h : Evaluates calls room s n o s') (hn : n.isStatement = true)
    (hs : s.PureBodies) : HasEffect calls n o s s' := by
  cases n with
  | number | reference | unary | binary | call | comment | unknown => exact h.sameBindings hn hs
  | assignment name value _ =>
    cases h with
    | tooDeep => exact .inl (.refl s)
    | assignmentFails _ h => exact h.sameBindings hn hs
    | assignment _ h =>
      have hvalue := (h.sameBindings hn hs).of_ok
      exact ⟨congrArg (fun c : Context => c.set name _) hvalue.1, hvalue.2⟩
  | definition name parameters body _ =>
    cases h with
    | tooDeep => exact .inl (.refl s)
    | definition _ h =>
      unfold define at h
      split at h
      · cases h; exact .inl (.refl s)
      · cases h; exact ⟨rfl, rfl⟩

theorem HasEffect.pureBodies {calls : Nat} {s s' : Session} {n : Node} {o : Except Failure Value}
    (h : HasEffect calls n o s s') (hn : n.isStatement = true) (hs : s.PureBodies) :
    s'.PureBodies := by
  intro key f hf
  unfold HasEffect at h
  split at h
  · rw [h.2] at hf
    exact hs key f hf
  · rename_i name parameters body _ _
    rw [h.2, Table.get?_insert] at hf
    split at hf
    · cases hf; exact hn
    · exact hs key f hf
  · have hfunctions : s'.functions = s.functions := Or.elim h And.right (·.2.2.functions)
    rw [hfunctions] at hf
    exact hs key f hf

theorem HasEffect.textual {calls : Nat} {s s' : Session} {n : Node} {o : Except Failure Value}
    (h : HasEffect calls n o s s') (hn : n.isStatement = true) (hs : s.Textual) : s'.Textual := by
  have hbodies := h.pureBodies hn hs.bodies
  have hsame : s'.context = s.context → s'.Textual := fun heq =>
    ⟨hbodies, by rw [heq]; exact hs.nonneg, by rw [heq]; exact hs.current⟩
  unfold HasEffect at h
  split at h
  · rename_i name _ _ v
    refine ⟨hbodies, ?_, ?_⟩
    · rw [h.1, Context.depth_set]
      exact hs.nonneg
    · rw [h.1, Context.depth_set]
      intro hdepth
      unfold Context.set
      rw [hs.current hdepth]
  · exact hsame h.1
  · rcases h with h | ⟨-, -, h⟩
    · exact hsame h.1
    · -- the call that has got stuck is counted
      have hdepth := h.context.depth
      have hnonneg := hs.nonneg
      exact ⟨hbodies, by omega, fun _ => by omega⟩

/-- A message is no value. -/
theorem ofMessage_ne_value (message : Option String) (kind : ErrorKind) (v : Value) :
    Result.ofMessage message kind ≠ .value v := by
  unfold Result.ofMessage
  split
  · split <;> simp
  · simp

/-- An evaluation behind a result: a value is the outcome of the node, anything else a failure. -/
theorem exists_evaluates {s s' : Session} {limits : Limits} {n : Node} {r : Except Abort Result}
    (h : s.evaluate limits n = (r, s')) :
    ∃ o, Evaluates (s.callsLeft limits) limits.nesting s n o s' ∧
      ((∃ v, o = .ok v ∧ r = .ok (.value v)) ∨
        (∃ e, o = .error e) ∧ ∀ v, r ≠ .ok (.value v)) := by
  unfold evaluate at h
  have hofError : ∀ e v, Result.ofError e ≠ .value v := fun e => ofMessage_ne_value _ e.kind
  split at h
  · rename_i v _ h'
    cases h
    exact ⟨_, eval_evaluates h', .inl ⟨v, rfl, rfl⟩⟩
  · rename_i e _ h'
    cases h
    exact ⟨_, eval_evaluates h', .inr ⟨⟨_, rfl⟩, fun v hv => hofError e v (by simpa using hv)⟩⟩
  · rename_i h'
    cases h
    exact ⟨_, eval_evaluates h', .inr ⟨⟨_, rfl⟩, fun v hv => hofError _ v (by simpa using hv)⟩⟩
  · rename_i h'
    cases h
    exact ⟨_, eval_evaluates h', .inr ⟨⟨_, rfl⟩, by simp⟩⟩

theorem evaluate_textual {s : Session} {limits : Limits} {n : Node} (hn : n.isStatement = true)
    (hs : s.Textual) : (s.evaluate limits n).2.Textual := by
  obtain ⟨o, h, -⟩ := exists_evaluates (rfl : s.evaluate limits n = _)
  exact (h.hasEffect hn hs.bodies).textual hn hs

end Session

theorem isStatement_of_parseLine {raw : String} {line : Int} {n : Node}
    (h : parseLine raw line = .ok n) : n.isStatement = true := by
  unfold parseLine at h
  split at h
  · rename_i comment hcomment
    cases h
    unfold commentOn? at hcomment
    split at hcomment
    · cases hcomment; rfl
    · cases hcomment
  · exact isStatement_of_parseStatementLine h

/-- The statements that a request holds: a node itself, or what a text or its lines are read as. -/
inductive Request.Holds : Request → Node → Prop where
  | node (n : Node) : Holds (.node n) n
  | text {text : String} {n : Node} : parseSingle text = .ok n → Holds (.text text) n
  | line {text raw : String} {line : Nat} {n : Node} : (line, raw) ∈ numberedLines text →
      parseLine raw line = .ok n → Holds (.document text) n

theorem Request.Holds.eq_node_or_isStatement {r : Request} {n : Node} (h : r.Holds n) :
    r = .node n ∨ n.isStatement = true := by
  cases h with
  | node => exact .inl rfl
  | text hn => exact .inr (isStatement_of_parseStatementLine hn)
  | line _ hn => exact .inr (isStatement_of_parseLine hn)

/-- `P` survives the evaluation of all nodes in `Q`. -/
structure Session.Keeps (limits : Limits) (Q : Node → Prop) (P : Session → Prop) : Prop where
  evaluate : ∀ {s : Session} {n : Node}, Q n → P s → P (s.evaluate limits n).2
  clear : ∀ {s : Session}, P s → P s.clear

namespace Session.Keeps

variable {limits : Limits} {Q : Node → Prop} {P : Session → Prop} (hP : Keeps limits Q P)
include hP

theorem evaluateText {s : Session} {text : String} (hQ : ∀ n, parseSingle text = .ok n → Q n)
    (hs : P s) : P (s.evaluateText limits text).2 := by
  unfold Session.evaluateText
  split
  · exact hs
  · rename_i hn
    exact hP.evaluate (hQ _ hn) hs

theorem evaluateLine {s : Session} {line : Nat} {raw : String}
    (hQ : ∀ n, parseLine raw line = .ok n → Q n) (hs : P s) :
    P (Document.evaluateLine s limits line raw).2 := by
  unfold Document.evaluateLine
  split
  · exact hs
  · split
    · exact hs
    · exact hs
    · rename_i n _ hn
      have h : P (s.evaluate limits n).2 := hP.evaluate (hQ n hn) hs
      split <;> rename_i h' <;> rw [h'] at h <;> exact h

theorem evaluateLines (lines : List (Nat × String)) :
    ∀ {s : Session}, (∀ l ∈ lines, ∀ n, parseLine l.2 l.1 = .ok n → Q n) → P s →
      P (Document.evaluateLines s limits lines).2 := by
  induction lines with
  | nil => exact fun _ hs => hs
  | cons l rest ih =>
    intro s hQ hs
    obtain ⟨hQline, hQrest⟩ := List.forall_mem_cons.mp hQ
    have hline : P (Document.evaluateLine s limits l.1 l.2).2 := hP.evaluateLine hQline hs
    unfold Document.evaluateLines
    split
    · rename_i h; rw [h] at hline; exact hline
    · rename_i s' h
      rw [h] at hline
      have hrest : P (Document.evaluateLines s' limits rest).2 := ih hQrest hline
      split <;> rename_i h' <;> rw [h'] at hrest <;> exact hrest

theorem document {s : Session} {text : String}
    (hQ : ∀ l ∈ numberedLines text, ∀ n, parseLine l.2 l.1 = .ok n → Q n) (hs : P s) :
    P (Document.evaluate s limits text).2 := by
  unfold Document.evaluate
  simp only
  split
  · exact hP.clear hs
  · have h : P (Document.evaluateLines s.clear limits (numberedLines text)).2 :=
      hP.evaluateLines _ hQ (hP.clear hs)
    split <;> rename_i h' <;> rw [h'] at h <;> exact h

/-- What the statements of a request preserve holds after it. -/
theorem serve {s : Session} {r : Request} (hQ : ∀ n, r.Holds n → Q n) (hs : P s) :
    P (s.serve limits r) := by
  cases r with
  | text text => exact hP.evaluateText (fun n hn => hQ n (.text hn)) hs
  | node n => exact hP.evaluate (hQ n (.node n)) hs
  | document text => exact hP.document (fun l hl n hn => hQ n (.line hl hn)) hs
  | clear => exact hP.clear hs

end Session.Keeps

/-- `P` survives the evaluation of all nodes in `Q`, which every statement that is read is in. -/
structure Session.Preserved (limits : Limits) (Q : Node → Prop) (P : Session → Prop) : Prop where
  statement : ∀ n : Node, n.isStatement = true → Q n
  evaluate : ∀ {s : Session} {n : Node}, Q n → P s → P (s.evaluate limits n).2
  clear : ∀ {s : Session}, P s → P s.clear

namespace Session.Preserved

variable {limits : Limits} {Q : Node → Prop} {P : Session → Prop} (hP : Preserved limits Q P)
include hP

theorem keeps : Keeps limits Q P := ⟨hP.evaluate, hP.clear⟩

theorem evaluateLine {s : Session} (line : Nat) (raw : String) (hs : P s) :
    P (Document.evaluateLine s limits line raw).2 :=
  hP.keeps.evaluateLine (fun n hn => hP.statement n (isStatement_of_parseLine hn)) hs

theorem evaluateLines (lines : List (Nat × String)) {s : Session} (hs : P s) :
    P (Document.evaluateLines s limits lines).2 :=
  hP.keeps.evaluateLines lines
    (fun _ _ n hn => hP.statement n (isStatement_of_parseLine hn)) hs

/-- **What statements preserve holds after any requests.** -/
theorem after (requests : List Request) : ∀ {s : Session}, P s →
    (∀ n, .node n ∈ requests → Q n) → P (s.after limits requests) := by
  induction requests with
  | nil => exact fun hs _ => hs
  | cons r rest ih =>
    intro s hs hnodes
    apply ih _ fun n hn => hnodes n (List.mem_cons_of_mem _ hn)
    refine hP.keeps.serve (fun n hn => ?_) hs
    rcases hn.eq_node_or_isStatement with rfl | hstatement
    · exact hnodes n List.mem_cons_self
    · exact hP.statement n hstatement

end Session.Preserved

namespace Session

theorem clear_textual (s : Session) : s.clear.Textual where
  bodies := by intro key f hf; simp [clear, Table.get?] at hf
  nonneg := Int.le_refl 0
  current _ := rfl

theorem textual_preserved (limits : Limits) :
    Preserved limits (fun n => n.isStatement = true) Textual where
  statement := fun _ hn => hn
  evaluate := evaluate_textual
  clear := fun {s} _ => s.clear_textual

/-- **Texts and documents store pure function bodies only.** -/
theorem after_textual {limits : Limits} (requests : List Request) {s : Session} (hs : s.Textual)
    (htextual : ∀ r ∈ requests, r.isTextual = true) : (s.after limits requests).Textual := by
  refine (textual_preserved limits).after requests hs fun n hn => ?_
  have hfalse := htextual (.node n) hn
  cases hfalse

theorem fresh_textual (catalog : Catalog) : (fresh catalog).Textual where
  bodies := by intro key f hf; simp [fresh, Table.get?] at hf
  nonneg := Int.le_refl 0
  current _ := rfl

/-- A variable is set in the current frame. -/
def SetsVariable (c : Context) (name : String) (v : Value) (c' : Context) : Prop :=
  match c.current with
  | none => Table.IsSet c.globals (Text.fold name) ⟨name, v⟩ c'.globals
  | some frame => c'.globals = c.globals ∧ ∃ frame', c'.current = some frame' ∧
      Table.IsSet frame.bindings (Text.fold name) ⟨name, v⟩ frame'.bindings

theorem setsVariable_set (c : Context) (name : String) (v : Value) :
    SetsVariable c name v (c.set name v) := by
  unfold SetsVariable Context.set
  cases c.current with
  | none => exact Table.isSet_insert ..
  | some frame => exact ⟨rfl, _, rfl, Table.isSet_insert ..⟩

/-- **Statements given as text are atomic and touch only what they name.** After any requests that
come as text, a text without a value leaves all variables and functions as they were; one with a
value changes at most the variable that it assigns or the function that it defines. The variable is
one of the session, as long as no call counts as open; otherwise a call has got stuck, and it can be
one of that call's frame. -/
theorem evaluateText_atomic (catalog : Catalog) (limits : Limits) (requests : List Request)
    (htextual : ∀ r ∈ requests, r.isTextual = true) (text : String) :
    let s := (fresh catalog).after limits requests
    let outcome := (s.evaluateText limits text).1
    let s' := (s.evaluateText limits text).2
    (s.context.depth = 0 → s.context.current = none) ∧
    ((∀ v, outcome ≠ .ok (.value v)) →
      s'.context.globals = s.context.globals ∧ s'.functions = s.functions) ∧
    ∀ v, outcome = .ok (.value v) → ∃ n, parseSingle text = .ok n ∧
      match n with
      | .assignment name _ _ =>
        SetsVariable s.context name v s'.context ∧ s'.functions = s.functions
      | .definition name parameters body _ =>
        s'.context.globals = s.context.globals ∧
          Table.IsSet s.functions (Text.fold name) ⟨name, parameters, body⟩ s'.functions
      | _ => s'.context.globals = s.context.globals ∧ s'.functions = s.functions := by
  intro s outcome s'
  have hs : s.Textual := after_textual requests (fresh_textual catalog) htextual
  refine ⟨hs.current, ?_⟩
  have houtcome : s.evaluateText limits text = (outcome, s') := rfl
  unfold evaluateText at houtcome
  split at houtcome
  · -- a text that is no statement
    rename_i d _
    obtain ⟨hresult, hsame⟩ := Prod.mk.inj houtcome
    rw [← hsame, ← hresult]
    refine ⟨fun _ => ⟨rfl, rfl⟩, fun v hv => ?_⟩
    unfold Result.ofMessage at hv
    simp only at hv
    split at hv <;> cases hv
  · rename_i n hn
    have hstatement : n.isStatement = true := isStatement_of_parseStatementLine hn
    obtain ⟨o, heval, hr⟩ := exists_evaluates houtcome
    have heffect := heval.hasEffect hstatement hs.bodies
    constructor
    · intro hfails
      rcases hr with ⟨v, -, hv⟩ | ⟨⟨e, rfl⟩, -⟩
      · exact absurd hv (hfails v)
      · have hends : Leads SameBindings Stuck (s.callsLeft limits)
            (.error e : Except Failure Value) s s' := by cases n <;> exact heffect
        rcases hends with hsame | ⟨-, -, hstuck⟩
        · exact ⟨by rw [hsame.1], hsame.2⟩
        · exact ⟨hstuck.context.globals, hstuck.functions⟩
    · intro v hv
      refine ⟨n, hn, ?_⟩
      obtain rfl : o = .ok v := by
        rcases hr with ⟨v', rfl, hv'⟩ | ⟨-, hfails⟩
        · rw [hv] at hv'; cases hv'; rfl
        · exact absurd hv (hfails v)
      cases n with
      | assignment name value _ =>
        refine ⟨?_, heffect.2⟩
        rw [heffect.1]
        exact setsVariable_set _ _ _
      | definition name parameters body _ =>
        refine ⟨by rw [heffect.1], ?_⟩
        rw [heffect.2]
        exact Table.isSet_insert _ _ _
      | number | reference | unary | binary | call | comment | unknown =>
        have hsame := Leads.of_ok heffect
        exact ⟨by rw [hsame.1], hsame.2⟩

/-- After a document, a definition and a failed assignment, one more statement is atomic. -/
theorem evaluateText_atomic_after_document :
    let requests := [.document "x = 5 km\ny = x / 2", .text "f(a) = a + x", .text "x = f(1)"]
    (∀ r ∈ requests, Request.isTextual r = true) ∧
      let s := (fresh .standard).after .standard requests
      let outcome := (s.evaluateText .standard "y = f(y) + 1").1
      (∀ v, outcome ≠ .ok (.value v)) →
        (s.evaluateText .standard "y = f(y) + 1").2.context.globals = s.context.globals :=
  have hrequests : ∀ r ∈ [Request.document "x = 5 km\ny = x / 2", .text "f(a) = a + x",
    .text "x = f(1)"], r.isTextual = true := by decide
  ⟨hrequests, fun h => ((evaluateText_atomic _ _ _ hrequests _).2.1 h).1⟩

/-! ### A variable of a call that got stuck -/

/-- A text has the outcome that its statement has without its spans. -/
theorem evaluateText_of_bare {limits : Limits} {s s₀ s₀' : Session} {text : String} {n t : Node}
    {o : Except Failure Value} (hn : parseSingle text = .ok n) (ht : n.bare = t)
    (hs : s.bare = s₀.bare)
    (h : Evaluates (s₀.callsLeft limits) limits.nesting s₀ t o s₀') :
    (s.evaluateText limits text).1 = (s₀.evaluate limits t).1 ∧
      (s.evaluateText limits text).2.bare = s₀'.bare := by
  subst ht
  have hsame := evaluate_eq_of_bare limits hs n.bare_bare.symm
  have hstate : (s₀.evaluate limits n.bare).2 = s₀' := by
    unfold evaluate
    rw [h.eval_eq]
    rcases o with (e | a) | v
    · rfl
    · cases a <;> rfl
    · rfl
  unfold evaluateText
  rw [hn, ← hstate]
  exact hsame

/-- **An assignment can miss the variables of the session**: after a call that could not be entered
it sets a variable of that call's frame. -/
theorem assignment_misses_globals :
    ¬∀ (catalog : Catalog) (limits : Limits) (requests : List Request),
      (∀ r ∈ requests, r.isTextual = true) → ∀ text name value span v,
      parseSingle text = .ok (.assignment name value span) →
      let s := (fresh catalog).after limits requests
      (s.evaluateText limits text).1 = .ok (.value v) →
      Table.IsSet s.context.globals (Text.fold name) ⟨name, v⟩
        (s.evaluateText limits text).2.context.globals := by
  intro hclaim
  -- a call takes more levels to enter than there are
  let limits : Limits := ⟨50, some 2, fun _ => 2⟩
  let f : UserFunction := ⟨"f", [], .reference "y" .nowhere⟩
  let s : Session := { fresh .standard with functions := [("f", f)] }
  have hdefine : Sentence [.name "f", .symbol .lparen, .symbol .rparen, .symbol .assign, .name "y"]
      (.definition "f" [] f.body .nowhere) :=
    .definitionOfNone "f" (.loosen (by decide) (by decide) (.reference "y"))
  have hcall : Sentence [.name "f", .symbol .lparen, .symbol .rparen] (.call "f" [] .nowhere) :=
    .expression (.loosen (by decide) (by decide) (.callOfNone "f"))
  have hassign : Sentence [.name "x", .symbol .assign, .number 5 none]
      (.assignment "x" (.number 5 none .nowhere) .nowhere) :=
    .assignment "x" (.loosen (by decide) (by decide) (.number 5 none))
  obtain ⟨d, hd, hdbare⟩ : ∃ n, parseSingle "f() = y" = .ok n ∧ n.bare = _ :=
    exists_parseStatementLine (by decide +kernel) (by decide +kernel) (by decide) hdefine
  obtain ⟨c, hc, hcbare⟩ : ∃ n, parseSingle "f()" = .ok n ∧ n.bare = _ :=
    exists_parseStatementLine (by decide +kernel) (by decide +kernel) (by decide) hcall
  obtain ⟨a, ha, habare⟩ : ∃ n, parseSingle "x = 5" = .ok n ∧ n.bare = _ :=
    exists_parseStatementLine (by decide +kernel) (by decide +kernel) (by decide) hassign
  -- the function is stored, its call gets stuck, and the variable is set in the frame of the call
  have hstored : ((fresh .standard).evaluateText limits "f() = y").2.bare = s.bare :=
    (evaluateText_of_bare hd hdbare rfl (.definition rfl rfl)).2
  have hstuck : ((fresh .standard).after limits [.text "f() = y", .text "f()"]).bare =
      (s.begin f).bare := by
    have heval : Evaluates (s.callsLeft limits) limits.nesting s (.call "f" [] .nowhere)
        (.error (.error .nesting)) (s.begin f) :=
      .entryFails rfl .nil (by decide) rfl rfl (by decide)
    exact (evaluateText_of_bare hc hcbare hstored heval).2
  have heval : Evaluates ((s.begin f).callsLeft limits) limits.nesting (s.begin f)
      (.assignment "x" (.number 5 none .nowhere) .nowhere) (.ok (.number 5))
      ((s.begin f).bind "x" (.number 5)) := .assignment rfl (.number rfl rfl)
  obtain ⟨hvalue, hset⟩ := evaluateText_of_bare ha habare hstuck heval
  have hglobals := congrArg (fun t => t.context.globals) hset
  cases a with
  | assignment name value span =>
    obtain ⟨rfl, -, -⟩ := Node.assignment.inj habare
    have hvalue' : ((s.begin f).evaluate limits
        (.assignment "x" (.number 5 none .nowhere) .nowhere)).1 = .ok (.value (.number 5)) := by
      unfold evaluate
      rw [heval.eval_eq]
    have hmissed := (hclaim .standard limits [.text "f() = y", .text "f()"] (by decide) "x = 5"
      _ _ _ _ ha (hvalue.trans hvalue')).here
    cases (congrArg (Table.get? · "x") hglobals).symm.trans hmissed
  | _ => simp [Node.bare] at habare

end Session

end Reckon
