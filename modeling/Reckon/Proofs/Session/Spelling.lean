import Reckon.Proofs.Session.Depth
import Reckon.Proofs.Session.Memory
import Reckon.Proofs.Table

/-!
# Names are compared without regard to case

A statement is a respelling of another one if they differ in nothing but spans and the spelling of
names, and names in the same place are folded to the same text (`Node.Respelled`). Two fresh sessions
that are given such statements step by step have the same outcomes, apart from the messages of
errors, and end with the same variables and functions, apart from spelling (`run_respelled`).

Names are looked up in the frames of a session, among its functions and among the built-in ones, and
the names of parameters are compared with each other. All of these fold the name first, so each has
one lemma here; `Evaluates.respelled` puts them together.
-/

namespace Reckon

mutual

/-- The nodes are the same, apart from spans and the spelling of names. -/
inductive Node.Respelled : Node → Node → Prop where
  | number {x : Float} {unit : Option String} {span span' : Span} :
      Node.Respelled (.number x unit span) (.number x unit span')
  | reference {name name' : String} {span span' : Span} (hname : Text.fold name = Text.fold name') :
      Node.Respelled (.reference name span) (.reference name' span')
  | unary {operator : String} {operand operand' : Node} {span span' : Span} :
      Node.Respelled operand operand' →
      Node.Respelled (.unary operator operand span) (.unary operator operand' span')
  | binary {operator : String} {left left' right right' : Node} {span span' : Span} :
      Node.Respelled left left' → Node.Respelled right right' →
      Node.Respelled (.binary left operator right span) (.binary left' operator right' span')
  | call {name name' : String} {arguments arguments' : List Node} {span span' : Span}
      (hname : Text.fold name = Text.fold name') : Node.RespelledAll arguments arguments' →
      Node.Respelled (.call name arguments span) (.call name' arguments' span')
  | comment {text : String} {span span' : Span} :
      Node.Respelled (.comment text span) (.comment text span')
  | assignment {name name' : String} {value value' : Node} {span span' : Span}
      (hname : Text.fold name = Text.fold name') : Node.Respelled value value' →
      Node.Respelled (.assignment name value span) (.assignment name' value' span')
  | definition {name name' : String} {parameters parameters' : List String} {body body' : Node}
      {span span' : Span} (hname : Text.fold name = Text.fold name')
      (hparameters : parameters.map Text.fold = parameters'.map Text.fold) :
      Node.Respelled body body' →
      Node.Respelled (.definition name parameters body span)
        (.definition name' parameters' body' span')
  | unknown {form : String} : Node.Respelled (.unknown form) (.unknown form)

/-- The same for several nodes. -/
inductive Node.RespelledAll : List Node → List Node → Prop where
  | nil : Node.RespelledAll [] []
  | cons {n n' : Node} {rest rest' : List Node} : Node.Respelled n n' →
      Node.RespelledAll rest rest' → Node.RespelledAll (n :: rest) (n' :: rest')

end

/-- The functions are the same, apart from spelling. -/
structure UserFunction.Respelled (f g : UserFunction) : Prop where
  name : Text.fold f.name = Text.fold g.name
  parameters : f.parameters.map Text.fold = g.parameters.map Text.fold
  body : f.body.Respelled g.body

theorem UserFunction.Respelled.length_eq {f g : UserFunction} (h : f.Respelled g) :
    f.parameters.length = g.parameters.length := by
  simpa using congrArg List.length h.parameters

/-- The failures are errors of the same class, or the same abort. -/
inductive Failure.Alike : Failure → Failure → Prop where
  | error {e e' : EvalError} (hkind : e.kind = e'.kind) : Alike (.error e) (.error e')
  | abort (a : Abort) : Alike (.abort a) (.abort a)

/-- The outcomes are the same, or failures that are alike. -/
inductive SameOutcome {α : Type} : Except Failure α → Except Failure α → Prop where
  | ok (v : α) : SameOutcome (.ok v) (.ok v)
  | error {e e' : Failure} (halike : e.Alike e') : SameOutcome (.error e) (.error e')

theorem Failure.Alike.refl : ∀ e : Failure, e.Alike e
  | .error _ => .error rfl
  | .abort a => .abort a

theorem SameOutcome.refl {α : Type} : ∀ o : Except Failure α, SameOutcome o o
  | .ok v => .ok v
  | .error e => .error (.refl e)

/-- The result without the message of an error. -/
def Result.withoutMessage : Result → Result
  | .value v => .value v
  | .error _ kind => .error none kind

/-- The message of an error does not change its class. -/
theorem Result.withoutMessage_ofError (e : EvalError) :
    (ofError e).withoutMessage = .error none e.kind := by
  unfold ofError ofMessage
  simp only
  split <;> rfl

theorem Builtin.ofName?_eq {name name' : String} (h : Text.fold name = Text.fold name') :
    ofName? name = ofName? name' := by
  unfold ofName?
  rw [h]

/-- The bindings have the same names in the same order, apart from spelling, with the same values. -/
def Bindings.Respelled : Bindings → Bindings → Prop := Table.Rel fun b c => b.value = c.value

theorem Bindings.Respelled.bind {b c : Bindings} (h : b.Respelled c) {name name' : String}
    (hname : Text.fold name = Text.fold name') (v : Value) :
    (b.bind name v).Respelled (c.bind name' v) := by
  unfold Bindings.bind
  rw [hname]
  exact h.insert _ rfl

theorem Bindings.Respelled.value? {b c : Bindings} (h : b.Respelled c) {name name' : String}
    (hname : Text.fold name = Text.fold name') :
    Option.Rel (· = ·) (b.value? name) (c.value? name') := by
  refine value?_rel ?_
  rw [← hname]
  exact h.get? _

namespace Session

/-- The sessions are the same, apart from the spelling of names and the frames that are suspended. -/
structure Respelled (s t : Session) : Prop where
  context : s.context.Related Bindings.Respelled t.context
  functions : Table.Rel UserFunction.Respelled s.functions t.functions
  catalog : s.catalog = t.catalog

/-! ### What a session does in one step -/

section Steps

variable {s s' t t' : Session} {name name' : String} {o : Except Failure Value}
  (h : s.Respelled t)
include h

theorem Respelled.fetch (hname : Text.fold name = Text.fold name') :
    SameOutcome (s.fetch name) (t.fetch name') := by
  have hrel : Option.Rel (· = ·) (s.context.get? name) (t.context.get? name') :=
    h.context.get? fun _ _ hbindings => hbindings.value? hname
  unfold Session.fetch
  generalize s.context.get? name = x, t.context.get? name' = y at hrel
  cases hrel with
  | some hvw => exact hvw ▸ .ok _
  | none => exact .error (.error rfl)

theorem Respelled.bind (hname : Text.fold name = Text.fold name') (v : Value) :
    (s.bind name v).Respelled (t.bind name' v) :=
  ⟨h.context.set fun _ _ hbindings => hbindings.bind hname v, h.functions, h.catalog⟩

omit h in
theorem Respelled.bindAll {parameters parameters' : List String}
    (hparameters : parameters.map Text.fold = parameters'.map Text.fold) :
    ∀ {s t : Session} (values : List Value), s.Respelled t →
      (s.bindAll (parameters.zip values)).Respelled (t.bindAll (parameters'.zip values)) := by
  induction parameters generalizing parameters' with
  | nil =>
    intro s t values h
    obtain rfl := List.map_eq_nil_iff.mp hparameters.symm
    exact h
  | cons name rest ih =>
    intro s t values h
    obtain ⟨name', rest', rfl, hname, hrest⟩ := List.map_eq_cons_iff.mp hparameters.symm
    cases values with
    | nil => exact h
    | cons v values => exact ih hrest.symm values (h.bind hname.symm v)

theorem Respelled.enter {f g : UserFunction} (hfg : f.Respelled g) (arguments : List Value) :
    (s.enter f arguments).Respelled (t.enter g arguments) :=
  bindAll hfg.parameters arguments ⟨h.context.enter .nil, h.functions, h.catalog⟩

theorem Respelled.begin (f g : UserFunction) : (s.begin f).Respelled (t.begin g) :=
  ⟨h.context.begin .nil, h.functions, h.catalog⟩

/-- The frames that are current after a call are those in which it was entered. -/
theorem Respelled.leave {f g : UserFunction} {arguments : List Value} (h' : s'.Respelled t')
    (hs : s'.context.suspended = (s.enter f arguments).context.suspended)
    (ht : t'.context.suspended = (t.enter g arguments).context.suspended) :
    s'.leave.Respelled t'.leave :=
  ⟨related_leave h.context h'.context hs ht, h'.functions, h'.catalog⟩

theorem Respelled.literal {x : Float} {unit : Option String} (hs : s.literal x unit = (o, s')) :
    ∃ t', t.literal x unit = (o, t') ∧ s'.Respelled t' := by
  rcases literal_cases hs with ⟨rfl, hany⟩ | ⟨text, -, rfl, hany⟩
  · exact ⟨t, hany t, h⟩
  · refine ⟨_, hany t (by rw [h.catalog]), h.context, h.functions, ?_⟩
    simp only [h.catalog]

theorem Respelled.define {parameters parameters' : List String} {body body' : Node}
    (hname : Text.fold name = Text.fold name')
    (hparameters : parameters.map Text.fold = parameters'.map Text.fold)
    (hbody : body.Respelled body') (hs : s.define name parameters body = (o, s')) :
    ∃ p t', t.define name' parameters' body' = (p, t') ∧ SameOutcome o p ∧ s'.Respelled t' := by
  have hduplicates : hasDuplicates parameters' = hasDuplicates parameters := by
    unfold hasDuplicates
    rw [hparameters]
  unfold Session.define at hs ⊢
  rw [hduplicates]
  split at hs
  · rename_i htwice
    cases hs
    rw [if_pos htwice]
    exact ⟨_, _, rfl, .error (.error rfl), h⟩
  · rename_i honce
    cases hs
    rw [if_neg honce, ← hname]
    exact ⟨_, _, rfl, .ok _, h.context,
      h.functions.insert _ ⟨hname, hparameters, hbody⟩, h.catalog⟩

theorem Respelled.operate {operator : String} {l r : Value}
    (hs : s.operate operator l r = (o, s')) :
    ∃ t', t.operate operator l r = (o, t') ∧ s'.Respelled t' := by
  unfold Session.operate at hs ⊢
  rw [← h.catalog]
  cases hs
  exact ⟨_, rfl, h.context, h.functions, rfl⟩

/-- The functions with a name are respellings of each other, or there is none in either session. -/
theorem Respelled.function? (hname : Text.fold name = Text.fold name') :
    Option.Rel UserFunction.Respelled (s.function? name) (t.function? name') := by
  unfold Session.function?
  rw [← hname]
  exact h.functions.get? _

end Steps

/-! ### Whole evaluations -/

theorem Respelled.function?_eq_none {s t : Session} (h : s.Respelled t) {name name' : String}
    (hname : Text.fold name = Text.fold name') (hf : s.function? name = none) :
    t.function? name' = none := by
  have hrel := h.function? hname
  rw [hf] at hrel
  generalize t.function? name' = x at hrel ⊢
  cases hrel
  rfl

theorem Respelled.exists_function? {s t : Session} (h : s.Respelled t) {name name' : String}
    (hname : Text.fold name = Text.fold name') {f : UserFunction} (hf : s.function? name = some f) :
    ∃ g, t.function? name' = some g ∧ f.Respelled g := by
  have hrel := h.function? hname
  rw [hf] at hrel
  generalize t.function? name' = x at hrel
  cases hrel with
  | some hfg => exact ⟨_, rfl, hfg⟩

mutual

/-- **Evaluation does not look at the spelling of names**: a respelling has the same outcome, and
the sessions stay the same, apart from spelling. -/
theorem Evaluates.respelled : ∀ {calls : Nat} {room : Room} {s s' : Session} {n : Node}
    {o : Except Failure Value}, Evaluates calls room s n o s' → ∀ {n' : Node} {t : Session},
    n.Respelled n' → s.Respelled t →
    ∃ p t', Evaluates calls room t n' p t' ∧ SameOutcome o p ∧ s'.Respelled t'
  | _, _, _, _, _, _, .tooDeep hroom => fun _ h => ⟨_, _, .tooDeep hroom, .refl _, h⟩
  | _, _, _, _, _, _, .number hroom hs => fun hn h => by
    cases hn with
    | number =>
      obtain ⟨t', ht, h'⟩ := h.literal hs
      exact ⟨_, t', .number hroom ht, .refl _, h'⟩
  | _, _, _, _, _, _, .reference hroom => fun hn h => by
    cases hn with
    | reference hname => exact ⟨_, _, .reference hroom, h.fetch hname, h⟩
  | _, _, _, _, _, _, .comment hroom => fun hn h => by
    cases hn with
    | comment => exact ⟨_, _, .comment hroom, .refl _, h⟩
  | _, _, _, _, _, _, .unknown hroom => fun hn h => by
    cases hn with
    | unknown => exact ⟨_, _, .unknown hroom, .refl _, h⟩
  | _, _, _, _, _, _, .definition hroom hs => fun hn h => by
    cases hn with
    | definition hname hparameters hbody =>
      obtain ⟨p, t', ht, ho, h'⟩ := h.define hname hparameters hbody hs
      exact ⟨p, t', .definition hroom ht, ho, h'⟩
  | _, _, _, _, _, _, .unaryFails hroom hs => fun hn h => by
    cases hn with
    | unary hoperand =>
      obtain ⟨_, t', ht, ⟨⟩ | halike, h'⟩ := hs.respelled hoperand h
      exact ⟨_, t', .unaryFails hroom ht, .error halike, h'⟩
  | _, _, _, _, _, _, .unary hroom hs => fun hn h => by
    cases hn with
    | unary hoperand =>
      obtain ⟨_, t', ht, ⟨⟩, h'⟩ := hs.respelled hoperand h
      exact ⟨_, t', .unary hroom ht, .refl _, h'⟩
  | _, _, _, _, _, _, .leftFails hroom hs => fun hn h => by
    cases hn with
    | binary hleft _ =>
      obtain ⟨_, t', ht, ⟨⟩ | halike, h'⟩ := hs.respelled hleft h
      exact ⟨_, t', .leftFails hroom ht, .error halike, h'⟩
  | _, _, _, _, _, _, .rightFails hroom hl hr => fun hn h => by
    cases hn with
    | binary hleft hright =>
      obtain ⟨_, t₁, ht₁, ⟨⟩, h₁⟩ := hl.respelled hleft h
      obtain ⟨_, t₂, ht₂, ⟨⟩ | halike, h₂⟩ := hr.respelled hright h₁
      exact ⟨_, t₂, .rightFails hroom ht₁ ht₂, .error halike, h₂⟩
  | _, _, _, _, _, _, .binary hroom hl hr hs => fun hn h => by
    cases hn with
    | binary hleft hright =>
      obtain ⟨_, t₁, ht₁, ⟨⟩, h₁⟩ := hl.respelled hleft h
      obtain ⟨_, t₂, ht₂, ⟨⟩, h₂⟩ := hr.respelled hright h₁
      obtain ⟨t', ht, h'⟩ := h₂.operate hs
      exact ⟨_, t', .binary hroom ht₁ ht₂ ht, .refl _, h'⟩
  | _, _, _, _, _, _, .assignmentFails hroom hs => fun hn h => by
    cases hn with
    | assignment _ hvalue =>
      obtain ⟨_, t', ht, ⟨⟩ | halike, h'⟩ := hs.respelled hvalue h
      exact ⟨_, t', .assignmentFails hroom ht, .error halike, h'⟩
  | _, _, _, _, _, _, .assignment hroom hs => fun hn h => by
    cases hn with
    | assignment hname hvalue =>
      obtain ⟨_, t', ht, ⟨⟩, h'⟩ := hs.respelled hvalue h
      exact ⟨_, _, .assignment hroom ht, .ok _, h'.bind hname _⟩
  | _, _, _, _, _, _, .argumentFails hroom hs => fun hn h => by
    cases hn with
    | call _ harguments =>
      obtain ⟨_, t', ht, ⟨⟩ | halike, h'⟩ := hs.respelled harguments h
      exact ⟨_, t', .argumentFails hroom ht, .error halike, h'⟩
  | _, _, _, _, _, _, .builtin hroom hs hf => fun hn h => by
    cases hn with
    | call hname harguments =>
      obtain ⟨_, t', ht, ⟨⟩, h'⟩ := hs.respelled harguments h
      rw [Builtin.ofName?_eq hname] at hf
      exact ⟨_, t', .builtin hroom ht hf, .refl _, h'⟩
  | _, _, _, _, _, _, .undefinedFunction hroom hs hbuiltin hf => fun hn h => by
    cases hn with
    | call hname harguments =>
      obtain ⟨_, t', ht, ⟨⟩, h'⟩ := hs.respelled harguments h
      rw [Builtin.ofName?_eq hname] at hbuiltin
      exact ⟨_, t', .undefinedFunction hroom ht hbuiltin (h'.function?_eq_none hname hf),
        .error (.error rfl), h'⟩
  | _, _, _, _, _, _, .argumentCount hroom hs hbuiltin hf hcount => fun hn h => by
    cases hn with
    | call hname harguments =>
      obtain ⟨_, t', ht, ⟨⟩, h'⟩ := hs.respelled harguments h
      rw [Builtin.ofName?_eq hname] at hbuiltin
      obtain ⟨g, hg, hfg⟩ := h'.exists_function? hname hf
      rw [hfg.length_eq] at hcount
      exact ⟨_, t', .argumentCount hroom ht hbuiltin hg hcount, .error (.error rfl), h'⟩
  | _, _, _, _, _, _, .callDepth hroom hs hbuiltin hf hcount => fun hn h => by
    cases hn with
    | call hname harguments =>
      obtain ⟨_, t', ht, ⟨⟩, h'⟩ := hs.respelled harguments h
      rw [Builtin.ofName?_eq hname] at hbuiltin
      obtain ⟨g, hg, hfg⟩ := h'.exists_function? hname hf
      rw [hfg.length_eq] at hcount
      exact ⟨_, t', .callDepth hroom ht hbuiltin hg hcount, .error (.error rfl), h'⟩
  | _, _, _, _, _, _, .entryFails hroom hs hbuiltin hf hcount hadmits => fun hn h => by
    cases hn with
    | call hname harguments =>
      obtain ⟨_, t', ht, ⟨⟩, h'⟩ := hs.respelled harguments h
      rw [Builtin.ofName?_eq hname] at hbuiltin
      obtain ⟨g, hg, hfg⟩ := h'.exists_function? hname hf
      rw [hfg.length_eq] at hcount
      rw [h'.context.depth] at hadmits
      exact ⟨_, _, .entryFails hroom ht hbuiltin hg hcount hadmits, .refl _, h'.begin _ _⟩
  | _, _, _, _, _, _, .call hroom hs hbuiltin hf hcount hadmits hbody => fun hn h => by
    cases hn with
    | call hname harguments =>
      obtain ⟨_, t₁, ht, ⟨⟩, h₁⟩ := hs.respelled harguments h
      rw [Builtin.ofName?_eq hname] at hbuiltin
      obtain ⟨g, hg, hfg⟩ := h₁.exists_function? hname hf
      rw [hfg.length_eq] at hcount
      rw [h₁.context.depth] at hadmits
      -- the parameters of both functions fold alike and are bound to the same values
      obtain ⟨p, t₂, hbody', ho, h₂⟩ := hbody.respelled hfg.body (h₁.enter hfg _)
      exact ⟨p, _, .call hroom ht hbuiltin hg hcount hadmits hbody', ho,
        h₁.leave h₂ hbody.suspended_eq hbody'.suspended_eq⟩

theorem EvaluatesAll.respelled : ∀ {calls : Nat} {room : Room} {s s' : Session}
    {ns : List Node} {o : Except Failure (List Value)}, EvaluatesAll calls room s ns o s' →
    ∀ {ns' : List Node} {t : Session}, Node.RespelledAll ns ns' → s.Respelled t →
    ∃ p t', EvaluatesAll calls room t ns' p t' ∧ SameOutcome o p ∧ s'.Respelled t'
  | _, _, _, _, _, _, .nil => fun hns h => by
    cases hns with
    | nil => exact ⟨_, _, .nil, .refl _, h⟩
  | _, _, _, _, _, _, .headFails hs => fun hns h => by
    cases hns with
    | cons hn _ =>
      obtain ⟨_, t', ht, ⟨⟩ | halike, h'⟩ := hs.respelled hn h
      exact ⟨_, t', .headFails ht, .error halike, h'⟩
  | _, _, _, _, _, _, .tailFails hs hrest => fun hns h => by
    cases hns with
    | cons hn hns =>
      obtain ⟨_, t₁, ht, ⟨⟩, h₁⟩ := hs.respelled hn h
      obtain ⟨_, t₂, htrest, ⟨⟩ | halike, h₂⟩ := hrest.respelled hns h₁
      exact ⟨_, t₂, .tailFails ht htrest, .error halike, h₂⟩
  | _, _, _, _, _, _, .cons hs hrest => fun hns h => by
    cases hns with
    | cons hn hns =>
      obtain ⟨_, t₁, ht, ⟨⟩, h₁⟩ := hs.respelled hn h
      obtain ⟨_, t₂, htrest, ⟨⟩, h₂⟩ := hrest.respelled hns h₁
      exact ⟨_, t₂, .cons ht htrest, .ok _, h₂⟩

end

theorem evaluate_respelled (limits : Limits) {s t : Session} {n n' : Node} (hn : n.Respelled n')
    (h : s.Respelled t) :
    (s.evaluate limits n).1.map Result.withoutMessage =
        (t.evaluate limits n').1.map Result.withoutMessage ∧
      (s.evaluate limits n).2.Respelled (t.evaluate limits n').2 := by
  have hcalls : t.callsLeft limits = s.callsLeft limits := by
    unfold callsLeft
    rw [h.context.depth]
  unfold evaluate
  rcases heval : eval (s.callsLeft limits) limits.nesting s n with ⟨o, s'⟩
  obtain ⟨p, t', ht, ho, h'⟩ := (eval_evaluates heval).respelled hn h
  rw [hcalls, ht.eval_eq]
  cases ho with
  | ok v => exact ⟨rfl, h'⟩
  | error halike =>
    cases halike with
    | error hkind =>
      refine ⟨congrArg Except.ok ?_, h'⟩
      rw [Result.withoutMessage_ofError, Result.withoutMessage_ofError, hkind]
    | abort a => cases a <;> exact ⟨rfl, h'⟩

/-- Evaluates nodes one after the other, whatever becomes of those before. -/
def run (limits : Limits) (s : Session) : List Node → List (Except Abort Result) × Session
  | [] => ([], s)
  | n :: rest =>
    let (outcome, s) := s.evaluate limits n
    let (outcomes, s) := s.run limits rest
    (outcome :: outcomes, s)

theorem Respelled.run (limits : Limits) {ns ns' : List Node}
    (hns : List.Forall₂ Node.Respelled ns ns') : ∀ {s t : Session}, s.Respelled t →
    (s.run limits ns).1.map (·.map Result.withoutMessage) =
        (t.run limits ns').1.map (·.map Result.withoutMessage) ∧
      (s.run limits ns).2.Respelled (t.run limits ns').2 := by
  induction hns with
  | nil => exact fun h => ⟨rfl, h⟩
  | cons hn _ ih =>
    intro s t h
    obtain ⟨hfirst, h₁⟩ := evaluate_respelled limits hn h
    obtain ⟨hrest, h₂⟩ := ih h₁
    exact ⟨congrArg₂ List.cons hfirst hrest, h₂⟩

/-- **Names are compared without regard to case, everywhere.** Two fresh sessions are given nodes one
after the other, and each node of the second one is a respelling of that of the first one. Then
corresponding nodes evaluate to the same value or to errors of the same class. In the end the same
variables are bound in the same order to the same values, and the same functions are defined in the
same order, with bodies that are respellings of each other. -/
theorem run_respelled (limits : Limits) (catalog : Catalog) (ns ns' : List Node)
    (hns : List.Forall₂ Node.Respelled ns ns') :
    let (outcomes, s) := (fresh catalog).run limits ns
    let (outcomes', t) := (fresh catalog).run limits ns'
    outcomes.map (·.map Result.withoutMessage) = outcomes'.map (·.map Result.withoutMessage) ∧
      Table.Rel (fun b c => b.value = c.value) s.context.globals t.context.globals ∧
      Table.Rel UserFunction.Respelled s.functions t.functions := by
  have hfresh : (fresh catalog).Respelled (fresh catalog) := ⟨⟨.nil, .none, rfl⟩, .nil, rfl⟩
  obtain ⟨houtcomes, h⟩ := hfresh.run limits hns
  exact ⟨houtcomes, h.context.globals, h.functions⟩

/-- A variable, a function and its parameter, each written in different ways. -/
theorem run_respelled_of_street :
    let product (a b : String) := Node.binary (.reference a .nowhere) "*" (.reference b .nowhere) .nowhere
    let ns := [.assignment "Straße" (.number 2 (some "km") .nowhere) .nowhere,
      .definition "Twice" ["A"] (product "a" "straße") .nowhere,
      .call "twice" [.number 3 none .nowhere] .nowhere]
    let ns' := [.assignment "STRASSE" (.number 2 (some "km") .nowhere) .nowhere,
      .definition "twice" ["a"] (product "A" "Strasse") .nowhere,
      .call "TWICE" [.number 3 none .nowhere] .nowhere]
    List.Forall₂ Node.Respelled ns ns' ∧
      ((fresh .standard).run .standard ns).1.map (·.map Result.withoutMessage) =
        ((fresh .standard).run .standard ns').1.map (·.map Result.withoutMessage) := by
  intro product ns ns'
  have hns : List.Forall₂ Node.Respelled ns ns' :=
    .cons (.assignment (by decide) .number) <|
    .cons (.definition (by decide) (by decide)
      (.binary (.reference (by decide)) (.reference (by decide)))) <|
    .cons (.call (by decide) (.cons .number .nil)) .nil
  exact ⟨hns, (run_respelled .standard .standard ns ns' hns).1⟩

end Session

end Reckon
