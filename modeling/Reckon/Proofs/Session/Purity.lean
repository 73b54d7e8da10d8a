import Reckon.Proofs.Grammar.Sentence
import Reckon.Proofs.Session.Frames
import Reckon.Proofs.Session.Guarantee

/-!
# Expressions bind nothing

A node without assignments and definitions is pure. As long as all function bodies are pure too, its
evaluation leaves the variables, the frames and the functions alone, whatever it calls and however
it ends; only the catalog of units may learn something (`Evaluates.sameBindings`). If the entry of a
call fails, that call stays open besides.

Every statement that is read from a text is pure, an assignment of a pure value or a definition with
a pure body (`isStatement_of_parseStatement`): assignments and definitions are never nested.
-/

namespace Reckon

namespace Node

mutual

/-- Whether a node has no assignment and no definition in it. -/
def isPure : Node → Bool
  | number .. | reference .. | comment .. | unknown _ => true
  | unary _ operand _ => operand.isPure
  | binary left _ right _ => left.isPure && right.isPure
  | call _ arguments _ => arePure arguments
  | assignment .. | definition .. => false

/-- Whether all of several nodes are pure. -/
def arePure : List Node → Bool
  | [] => true
  | n :: ns => n.isPure && arePure ns

end

theorem arePure_iff {ns : List Node} : arePure ns = true ↔ ∀ n ∈ ns, n.isPure = true := by
  induction ns with
  | nil => simp [arePure]
  | cons n rest ih => simp [arePure, ih]

theorem isPure_of_mem_children {n k : Node} (hn : n.isPure = true) (hk : k ∈ n.children) :
    k.isPure = true := by
  cases n with
  | binary =>
    rw [isPure, Bool.and_eq_true] at hn
    simp only [children, List.mem_cons, List.not_mem_nil, or_false] at hk
    rcases hk with rfl | rfl
    · exact hn.1
    · exact hn.2
  | call =>
    rw [isPure, arePure_iff] at hn
    exact hn k hk
  | _ => simp_all [isPure, children]

/-- Whether a node is pure, an assignment of a pure value, or a definition with a pure body. -/
def isStatement : Node → Bool
  | assignment _ value _ => value.isPure
  | definition _ _ body _ => body.isPure
  | n => n.isPure

mutual

theorem isPure_bare : ∀ n : Node, n.bare.isPure = n.isPure
  | number .. | reference .. | comment .. | unknown _ | assignment .. | definition .. => by
    simp [bare, isPure]
  | unary _ operand _ => by simp [bare, isPure, operand.isPure_bare]
  | binary left _ right _ => by simp [bare, isPure, left.isPure_bare, right.isPure_bare]
  | call _ arguments _ => by simp [bare, isPure, arePure_bareAll arguments]

theorem arePure_bareAll : ∀ ns : List Node, arePure (bareAll ns) = arePure ns
  | [] => by simp [bareAll]
  | n :: ns => by simp [bareAll, arePure, n.isPure_bare, arePure_bareAll ns]

end

theorem isStatement_bare (n : Node) : n.bare.isStatement = n.isStatement := by
  cases n <;> simp [bare, isStatement, isPure, isPure_bare, arePure_bareAll]

end Node

mutual

/-- Expressions of the grammar are pure. -/
theorem Phrase.isPure : ∀ {k : Nat} {ls : List Lexeme} {t : Node}, Phrase k ls t → t.isPure = true
  | _, _, _, .subtract ha hb | _, _, _, .add ha hb | _, _, _, .divide ha hb
  | _, _, _, .multiply ha hb | _, _, _, .power ha hb => by
    simp [Node.isPure, ha.isPure, hb.isPure]
  | _, _, _, .ofSum h | _, _, _, .ofQuotient h | _, _, _, .ofProduct h | _, _, _, .ofPower h
  | _, _, _, .ofSigned h | _, _, _, .ofPrimary h | _, _, _, .parens h => h.isPure
  | _, _, _, .plus h | _, _, _, .minus h => by simp [Node.isPure, h.isPure]
  | _, _, _, .number .. | _, _, _, .reference .. => by simp [Node.isPure]
  | _, _, _, .callOfNone .. => by simp [Node.isPure, Node.arePure]
  | _, _, _, .call _ h => by simp [Node.isPure, h.arePure]

theorem Phrases.arePure : ∀ {ls : List Lexeme} {ts : List Node}, Phrases ls ts →
    Node.arePure ts = true
  | _, _, .one h => by simp [Node.arePure, h.isPure]
  | _, _, .more h hs => by simp [Node.arePure, h.isPure, hs.arePure]

end

theorem Node.isStatement_of_isPure {n : Node} (h : n.isPure = true) : n.isStatement = true := by
  cases n <;> simp_all [isStatement, isPure]

theorem Sentence.isStatement {ls : List Lexeme} {t : Node} (h : Sentence ls t) :
    t.isStatement = true := by
  cases h with
  | definitionOfNone _ h | definition _ _ h | assignment _ h => exact h.isPure
  | expression h => exact Node.isStatement_of_isPure h.isPure

/-- **Assignments and definitions are never nested** in what is read. -/
theorem isStatement_of_parseStatement {room : Nat} {ts : List Token} {n : Node}
    (h : parseStatement room ts = .ok n) : n.isStatement = true := by
  rw [← n.isStatement_bare]
  exact (sentence_of_form (form_of_parseStatement h) rfl).isStatement

theorem isStatement_of_parseStatementLine {raw : String} {line : Int} {n : Node}
    (h : parseStatementLine raw line = .ok n) : n.isStatement = true :=
  isStatement_of_parseStatement (parseText_eq_ok_iff.1 h).2

namespace Session

/-- Function bodies are pure. -/
def PureBodies (s : Session) : Prop :=
  ∀ key f, Table.get? s.functions key = some f → f.body.isPure = true

/-- The sessions have the same variables, frames and functions. -/
def SameBindings (s s' : Session) : Prop := s'.context = s.context ∧ s'.functions = s.functions

theorem SameBindings.refl (s : Session) : SameBindings s s := ⟨rfl, rfl⟩

theorem SameBindings.trans {s s' s'' : Session} (h : SameBindings s s')
    (h' : SameBindings s' s'') : SameBindings s s'' := ⟨h'.1.trans h.1, h'.2.trans h.2⟩

theorem SameBindings.pureBodies {s s' : Session} (h : SameBindings s s') (hs : s.PureBodies) :
    s'.PureBodies := by
  intro key f hf
  rw [h.2] at hf
  exact hs key f hf

theorem literal_eq_of_text (s : Session) (x : Float) {text : String}
    (h : ¬Text.isBlankText text = true) :
    s.literal x (some text) =
      ((s.catalog.resolve text).1.map fun units => .quantity ⟨x, units⟩,
        { s with catalog := (s.catalog.resolve text).2 }) := by
  unfold literal
  simp only [if_neg h]
  rcases s.catalog.resolve text with ⟨_ | _, c⟩ <;> rfl

/-- A number has no unit to look up, in any session, or its unit is resolved. -/
theorem literal_cases {s s' : Session} {x : Float} {unit : Option String}
    {o : Except Failure Value} (h : s.literal x unit = (o, s')) :
    (s' = s ∧ ∀ t : Session, t.literal x unit = (o, t)) ∨
      ∃ text, unit = some text ∧ s' = { s with catalog := (s.catalog.resolve text).2 } ∧
        ∀ t : Session, (t.catalog.resolve text).1 = (s.catalog.resolve text).1 →
          t.literal x unit = (o, { t with catalog := (t.catalog.resolve text).2 }) := by
  cases unit with
  | none => cases h; exact .inl ⟨rfl, fun t => rfl⟩
  | some text =>
    by_cases hblank : Text.isBlankText text = true
    · have hany : ∀ t : Session, t.literal x (some text) = (.ok (.number x), t) :=
        fun t => if_pos hblank
      rw [hany] at h
      cases h
      exact .inl ⟨rfl, hany⟩
    · rw [literal_eq_of_text s x hblank] at h
      obtain ⟨rfl, rfl⟩ := Prod.mk.inj h
      refine .inr ⟨text, rfl, rfl, fun t ht => ?_⟩
      rw [literal_eq_of_text t x hblank, ht]

theorem sameBindings_of_literal {s s' : Session} {x : Float} {unit : Option String}
    {o : Except Failure Value} (h : s.literal x unit = (o, s')) : SameBindings s s' := by
  rcases literal_cases h with ⟨rfl, -⟩ | ⟨text, -, rfl, -⟩
  · exact .refl s'
  · exact ⟨rfl, rfl⟩

theorem sameBindings_of_operate {s s' : Session} {operator : String} {left right : Value}
    {o : Except Failure Value} (h : s.operate operator left right = (o, s')) :
    SameBindings s s' := by
  cases h
  exact ⟨rfl, rfl⟩

/-- A call starts in a frame of its own. -/
theorem enter_eq (s : Session) (f : UserFunction) (arguments : List Value) :
    ∃ frame, s.enter f arguments = { s with context :=
      { s.context with
        current := some frame
        suspended := s.context.current :: s.context.suspended
        depth := s.context.depth + 1 } } :=
  ⟨f.frame arguments, s.enter_eq_frame f arguments⟩

theorem functions_enter (s : Session) (f : UserFunction) (arguments : List Value) :
    (s.enter f arguments).functions = s.functions := by
  obtain ⟨frame, h⟩ := s.enter_eq f arguments
  rw [h]

/-- Whoever leaves a call that has kept its frames is back where the call was entered. -/
theorem SameBindings.leave {s s' : Session} {f : UserFunction} {arguments : List Value}
    (h : SameBindings (s.enter f arguments) s') : SameBindings s s'.leave := by
  obtain ⟨frame, hframe⟩ := s.enter_eq f arguments
  obtain ⟨hcontext, hfunctions⟩ := h
  rw [hframe] at hcontext hfunctions
  refine ⟨?_, hfunctions⟩
  unfold Session.leave
  rw [hcontext]
  simp [Context.leave]

theorem PureBodies.enter {s : Session} (hs : s.PureBodies) (f : UserFunction)
    (arguments : List Value) : (s.enter f arguments).PureBodies := by
  intro key g hg
  rw [functions_enter] at hg
  exact hs key g hg

/-- The variables and functions are the same, and a call has got stuck. -/
structure Stuck (s s' : Session) : Prop where
  context : s.context.Stuck s'.context
  functions : s'.functions = s.functions

theorem SameBindings.stuck {s s' s'' : Session} (h : SameBindings s s') (h' : Stuck s' s'') :
    Stuck s s'' := by
  obtain ⟨hcontext, hfunctions⟩ := h'
  rw [h.1] at hcontext
  exact ⟨hcontext, hfunctions.trans h.2⟩

theorem Stuck.leave {s s' : Session} {f : UserFunction} {arguments : List Value}
    (h : Stuck (s.enter f arguments) s') : Stuck s s'.leave :=
  ⟨stuck_leave h.context, h.functions.trans (functions_enter s f arguments)⟩

theorem sameBindings_guarantee :
    Guarantee (fun n => n.isPure = true) PureBodies (fun _ => True) SameBindings Stuck where
  refl := .refl
  trans := .trans
  keeps hs h := h.pureBodies hs
  child := Node.isPure_of_mem_children
  body _ hs _ hf := hs _ _ hf
  literal _ _ h := sameBindings_of_literal h
  define hn := by simp [Node.isPure] at hn
  bind hn := by simp [Node.isPure] at hn
  operate _ _ _ h := sameBindings_of_operate h
  enter hs _ := hs.enter _ _
  leave _ _ h := h.leave
  begin _ := ⟨Context.stuck_begin .., rfl⟩
  after := SameBindings.stuck
  abandon _ _ h := h.leave

/-- **The evaluation of a pure node binds nothing**, not even through the functions it calls. -/
theorem Evaluates.sameBindings {calls : Nat} {room : Room} {s s' : Session} {n : Node}
    {o : Except Failure Value} (h : Evaluates calls room s n o s') (hn : n.isPure = true)
    (hs : s.PureBodies) : Leads SameBindings Stuck calls o s s' :=
  (h.leads sameBindings_guarantee hn hs).1

end Session

end Reckon
