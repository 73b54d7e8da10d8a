import Reckon.Proofs.Node
import Reckon.Proofs.Session.Memory
import Reckon.Proofs.Table

/-!
# What the value of an expression depends on

An expression depends on the variables that it uses, on the functions that it can come to call, and
on the global variables that their bodies use: it has the same result in all sessions that agree on
these (`evaluate_eq_of_agreeOn`). So no function sees the variables of its caller.

Which functions can be called is followed through the bodies of functions (`CanCall`). Whatever is
called on the way can call nothing that is not reached already, so one set of names serves the whole
evaluation (`Agreement`). In a call both sessions have the same frame, and a name that is not in it is
looked up among the global variables, on which they agree (`Agreement.enter`).
-/

namespace Reckon

theorem Node.callees_subset {n m : Node} (h : m.parts ⊆ n.parts) : m.callees ⊆ n.callees :=
  List.filterMap_subset _ h

theorem Node.references_subset {n m : Node} (h : m.parts ⊆ n.parts) :
    m.references ⊆ n.references :=
  List.filterMap_subset _ h

namespace Session

/-- The user function that a name stands for in a call; built-in functions come first. -/
def callee? (s : Session) (name : String) : Option UserFunction :=
  match Builtin.ofName? name with
  | some _ => none
  | none => s.function? name

theorem callee?_of_not_builtin {s : Session} {name : String} (h : Builtin.ofName? name = none) :
    s.callee? name = s.function? name := by
  unfold callee?
  rw [h]

theorem callee?_enter (s : Session) (f : UserFunction) (arguments : List Value) (name : String) :
    (s.enter f arguments).callee? name = s.callee? name := by
  unfold callee? function?
  rw [functions_enter]

theorem callee?_eq_some {s : Session} {name : String} {f : UserFunction}
    (h : s.callee? name = some f) : Builtin.ofName? name = none ∧ s.function? name = some f := by
  unfold callee? at h
  split at h
  · cases h
  · rename_i hbuiltin
    exact ⟨hbuiltin, h⟩

/-- Where there is one function, it is the one that is called. -/
theorem eq_of_callee? {s : Session} {key name : String} {f g : UserFunction}
    (hs : s.functions = [(key, f)]) (hg : s.callee? name = some g) : g = f := by
  have hg := (callee?_eq_some hg).2
  unfold function? at hg
  rw [hs] at hg
  exact List.mem_singleton.mp (Table.mem_values_of_get? hg)

/-- Evaluating the node can come to calling a function by the name: it is called in the node itself,
or in the body of a function that can be called. -/
inductive CanCall (s : Session) (n : Node) : String → Prop where
  | direct {name : String} : name ∈ n.callees → CanCall s n name
  | through {name callee : String} {f : UserFunction} : CanCall s n name →
      s.callee? name = some f → callee ∈ f.body.callees → CanCall s n callee

/-- The sessions agree on what the node can reach: on the variables that it uses, on the functions
that it can come to call, and on the global variables that their bodies use. -/
structure AgreeOn (s t : Session) (n : Node) : Prop where
  depth : s.context.depth = t.context.depth
  catalog : s.catalog = t.catalog
  references : ∀ name ∈ n.references, s.context.get? name = t.context.get? name
  functions : ∀ name, s.CanCall n name → s.callee? name = t.callee? name
  globals : ∀ name f, s.CanCall n name → s.callee? name = some f → ∀ x ∈ f.body.references,
    Text.fold x ∉ f.parameters.map Text.fold →
      s.context.globals.value? x = t.context.globals.value? x

/-- As many calls are open in both sessions, if the room is limited, and the functions with names in
`K` are the same. Their bodies are pure, call functions with names in `K` only, and use global
variables only that have the same values in both sessions. -/
structure Agreement (K : String → Prop) (room : Room) (s t : Session) : Prop where
  depth : s.context.depth = t.context.depth ∨ room = .unlimited
  catalog : s.catalog = t.catalog
  functions : ∀ name, K name → s.callee? name = t.callee? name
  pure : ∀ name f, K name → s.callee? name = some f → f.body.isPure = true
  closed : ∀ name f, K name → s.callee? name = some f → ∀ callee ∈ f.body.callees, K callee
  globals : ∀ name f, K name → s.callee? name = some f → ∀ x ∈ f.body.references,
    Text.fold x ∉ f.parameters.map Text.fold →
      s.context.globals.value? x = t.context.globals.value? x

/-- The node is pure, calls functions with names in `K` only, and uses variables only that have the
same values in both sessions. -/
structure Covers (K : String → Prop) (s t : Session) (n : Node) : Prop where
  pure : n.isPure = true
  callees : ∀ name ∈ n.callees, K name
  references : ∀ name ∈ n.references, s.context.get? name = t.context.get? name

section Steps

variable {K : String → Prop} {room inner : Room} {s s' t : Session} {n m : Node}

theorem Covers.child (h : Covers K s t n) (hm : m ∈ n.children) : Covers K s t m where
  pure := Node.isPure_of_mem_children h.pure hm
  callees := fun name hname =>
    h.callees name (Node.callees_subset (Node.parts_subset_of_mem_children hm) hname)
  references := fun name hname =>
    h.references name (Node.references_subset (Node.parts_subset_of_mem_children hm) hname)

/-- An evaluation that binds nothing changes nothing in what a node is covered by. -/
theorem Covers.after (h : Covers K s t n) (hs : SameBindings s s') :
    Covers K s' { t with catalog := s'.catalog } n where
  pure := h.pure
  callees := h.callees
  references := by rw [hs.1]; exact h.references

theorem Agreement.deeper (h : Agreement K room s t) (hroom : room.deeper = some inner) :
    Agreement K inner s t where
  depth := h.depth.imp_right fun heq => by
    rw [heq, Room.deeper_unlimited] at hroom
    exact (Option.some.inj hroom).symm
  catalog := h.catalog
  functions := h.functions
  pure := h.pure
  closed := h.closed
  globals := h.globals

theorem Agreement.admits_eq (h : Agreement K room s t) :
    room.admits s.context.depth = room.admits t.context.depth := by
  rcases h.depth with heq | rfl
  · rw [heq]
  · rfl

theorem Agreement.withCatalog_eq (h : Agreement K room s t) : { t with catalog := s.catalog } = t := by
  rw [h.catalog]

theorem SameBindings.callee?_eq (hs : SameBindings s s') (name : String) :
    s'.callee? name = s.callee? name := by
  unfold callee? function?
  rw [hs.2]

/-- An evaluation that binds nothing leaves the sessions in agreement, if the second one comes to
know the same about units. -/
theorem Agreement.after (h : Agreement K room s t) (hs : SameBindings s s') :
    Agreement K room s' { t with catalog := s'.catalog } where
  depth := by rw [hs.1]; exact h.depth
  catalog := rfl
  functions := fun name hK => (hs.callee?_eq name).trans (h.functions name hK)
  pure := fun name f hK hf => h.pure name f hK ((hs.callee?_eq name).symm.trans hf)
  closed := fun name f hK hf => h.closed name f hK ((hs.callee?_eq name).symm.trans hf)
  globals := fun name f hK hf => by
    rw [hs.1]
    exact h.globals name f hK ((hs.callee?_eq name).symm.trans hf)

theorem Agreement.function?_eq (h : Agreement K room s t) {name : String} (hK : K name)
    (hbuiltin : Builtin.ofName? name = none) : t.function? name = s.function? name := by
  have hcallee := h.functions name hK
  rw [callee?_of_not_builtin hbuiltin, callee?_of_not_builtin hbuiltin] at hcallee
  exact hcallee.symm

theorem Agreement.literal (h : Agreement K room s t) {x : Float} {unit : Option String}
    {o : Except Failure Value} (hs : s.literal x unit = (o, s')) :
    t.literal x unit = (o, { t with catalog := s'.catalog }) := by
  rcases literal_cases hs with ⟨rfl, hany⟩ | ⟨text, -, rfl, hany⟩
  · rw [h.withCatalog_eq]
    exact hany t
  · have ht := hany t (by rw [h.catalog])
    rw [← h.catalog] at ht
    exact ht

theorem Agreement.operate (h : Agreement K room s t) {operator : String} {l r : Value}
    {o : Except Failure Value} (hs : s.operate operator l r = (o, s')) :
    t.operate operator l r = (o, { t with catalog := s'.catalog }) := by
  unfold Session.operate at hs ⊢
  rw [← h.catalog]
  cases hs
  rfl

theorem Covers.fetch_eq {name : String} {span : Span} (h : Covers K s t (.reference name span)) :
    s.fetch name = t.fetch name := by
  unfold fetch
  rw [h.references name (by simp [Node.references, Node.parts])]

/-- **In a call the sessions agree**, whatever variables the callers have. -/
theorem Agreement.enter (h : Agreement K room s t) {name : String} {f : UserFunction} (hK : K name)
    (hf : s.callee? name = some f) {arguments : List Value}
    (hcount : f.parameters.length = arguments.length) :
    Agreement K room (s.enter f arguments) (t.enter f arguments) ∧
      Covers K (s.enter f arguments) (t.enter f arguments) f.body := by
  rw [enter_eq_frame, enter_eq_frame]
  refine ⟨⟨h.depth.imp_left (congrArg (· + 1)), h.catalog, h.functions, h.pure, h.closed, h.globals⟩,
    h.pure name f hK hf, h.closed name f hK hf, fun x hx => ?_⟩
  show ((f.frame arguments).bindings.value? x).or (s.context.globals.value? x) =
    ((f.frame arguments).bindings.value? x).or (t.context.globals.value? x)
  by_cases hparameter : Text.fold x ∈ f.parameters.map Text.fold
  · have hbound := f.isSome_value?_frame hcount hparameter
    rw [Option.or_of_isSome hbound, Option.or_of_isSome hbound]
  · rw [h.globals name f hK hf x hx hparameter]

end Steps

/-- A call whose body changes nothing but the catalog changes nothing but the catalog. -/
theorem Evaluates.callReturns {calls : Nat} {room inner : Room} {s s' : Session}
    {name : String} {arguments : List Node} {span : Span} {values : List Value} {f : UserFunction}
    {o : Except Failure Value} {c : Catalog} (hroom : room.deeper = some inner)
    (harguments : EvaluatesAll (calls + 1) inner s arguments (.ok values) s')
    (hbuiltin : Builtin.ofName? name = none) (hf : s'.function? name = some f)
    (hcount : f.parameters.length = values.length)
    (hadmits : inner.admits s'.context.depth = true)
    (hbody : Evaluates calls inner (s'.enter f values) f.body o
      { s'.enter f values with catalog := c }) :
    Evaluates (calls + 1) room s (.call name arguments span) o { s' with catalog := c } := by
  have hleave : ({ s'.enter f values with catalog := c } : Session).leave =
      { s' with catalog := c } := by
    rw [enter_eq_frame]
    simp [leave, Context.leave]
  rw [← hleave]
  exact .call hroom harguments hbuiltin hf hcount hadmits hbody

section Parts

variable {K : String → Prop} {s t : Session} {operator name : String} {n left right : Node}
  {arguments : List Node} {span : Span}

theorem Covers.operand (h : Covers K s t (.unary operator n span)) : Covers K s t n :=
  h.child (by simp [Node.children])

theorem Covers.operands (h : Covers K s t (.binary left operator right span)) :
    Covers K s t left ∧ Covers K s t right :=
  ⟨h.child (by simp [Node.children]), h.child (by simp [Node.children])⟩

theorem Covers.argument (h : Covers K s t (.call name arguments span)) :
    ∀ n ∈ arguments, Covers K s t n :=
  fun _ hn => h.child hn

theorem Covers.callee (h : Covers K s t (.call name arguments span)) : K name :=
  h.callees name (by simp [Node.callees, Node.parts])

end Parts

/-! ### Whole evaluations -/

/-- In the evaluation from `s` to `s'` nothing is bound, and in the one from `t` everything but the
catalog stays as it is too; or the entry of a call fails in both. `E` says what the one from `t` can
come to. -/
def Follows {α : Type} (E : Except Failure α → Session → Prop) (o : Except Failure α)
    (s s' t : Session) : Prop :=
  E o { t with catalog := s'.catalog } ∧ SameBindings s s' ∨
    o = .error (.error .nesting) ∧ ∃ t', E o t' ∧ t'.catalog = s'.catalog

namespace Follows

variable {α β : Type} {E : Except Failure α → Session → Prop} {E' : Except Failure β → Session → Prop}
  {s s₁ s' t : Session}

theorem of_ok {a : α} (h : Follows E (.ok a) s s' t) :
    E (.ok a) { t with catalog := s'.catalog } ∧ SameBindings s s' :=
  h.resolve_right fun h => nomatch h.1

/-- Whatever fails because a part fails does so in both. -/
theorem fails {e : Failure} (h : Follows E (.error e) s s' t)
    (hE : ∀ {t' : Session}, E (.error e) t' → E' (.error e) t') : Follows E' (.error e) s s' t := by
  rcases h with ⟨ht, hs⟩ | ⟨he, t', ht, hcatalog⟩
  · exact .inl ⟨hE ht, hs⟩
  · cases he
    exact .inr ⟨rfl, t', hE ht, hcatalog⟩

theorem after {o : Except Failure α} (hs : SameBindings s s₁)
    (h : Follows E o s₁ s' { t with catalog := s₁.catalog }) : Follows E o s s' t :=
  h.imp_left fun ⟨ht, hs'⟩ => ⟨ht, hs.trans hs'⟩

end Follows

mutual

/-- **Sessions in agreement evaluate what they cover alike**, and bind nothing. -/
theorem Evaluates.agree {K : String → Prop} : ∀ {calls : Nat} {room : Room} {s s' : Session}
    {n : Node} {o : Except Failure Value}, Evaluates calls room s n o s' → ∀ {t : Session},
    Agreement K room s t → Covers K s t n → Follows (Evaluates calls room t n) o s s' t
  | _, _, s, _, _, _, .tooDeep hroom => fun h _ => by
    refine .inl ⟨?_, .refl s⟩
    rw [h.withCatalog_eq]
    exact .tooDeep hroom
  | _, _, s, _, _, _, .comment hroom => fun h _ => by
    refine .inl ⟨?_, .refl s⟩
    rw [h.withCatalog_eq]
    exact .comment hroom
  | _, _, s, _, _, _, .unknown hroom => fun h _ => by
    refine .inl ⟨?_, .refl s⟩
    rw [h.withCatalog_eq]
    exact .unknown hroom
  | _, _, s, _, _, _, .reference hroom => fun h hn => by
    refine .inl ⟨?_, .refl s⟩
    rw [h.withCatalog_eq, hn.fetch_eq]
    exact .reference hroom
  | _, _, _, _, _, _, .number hroom hs => fun h _ =>
    .inl ⟨.number hroom (h.literal hs), sameBindings_of_literal hs⟩
  | _, _, _, _, _, _, .definition .. | _, _, _, _, _, _, .assignment ..
  | _, _, _, _, _, _, .assignmentFails .. => fun _ hn => by
    have hpure := hn.pure
    simp [Node.isPure] at hpure
  | _, _, _, _, _, _, .unaryFails hroom hs => fun h hn =>
    (hs.agree (h.deeper hroom) hn.operand).fails (.unaryFails hroom)
  | _, _, _, _, _, _, .unary hroom hs => fun h hn => by
    have h := h.deeper hroom
    obtain ⟨ht, hsame⟩ := (hs.agree h hn.operand).of_ok
    exact .inl ⟨.unary hroom ht, hsame⟩
  | _, _, _, _, _, _, .leftFails hroom hs => fun h hn =>
    (hs.agree (h.deeper hroom) hn.operands.1).fails (.leftFails hroom)
  | _, _, _, _, _, _, .rightFails hroom hl hr => fun h hn => by
    have h := h.deeper hroom
    obtain ⟨hleft, hright⟩ := hn.operands
    obtain ⟨htl, hsame⟩ := (hl.agree h hleft).of_ok
    exact .after hsame ((hr.agree (h.after hsame) (hright.after hsame)).fails
      (.rightFails hroom htl))
  | _, _, _, _, _, _, .binary hroom hl hr hs => fun h hn => by
    have h := h.deeper hroom
    obtain ⟨hleft, hright⟩ := hn.operands
    obtain ⟨htl, hsame⟩ := (hl.agree h hleft).of_ok
    obtain ⟨htr, hsame'⟩ := (hr.agree (h.after hsame) (hright.after hsame)).of_ok
    exact .inl ⟨.binary hroom htl htr (((h.after hsame).after hsame').operate hs),
      (hsame.trans hsame').trans (sameBindings_of_operate hs)⟩
  | _, _, _, _, _, _, .argumentFails hroom hs => fun h hn =>
    (hs.agree (h.deeper hroom) hn.argument).fails (.argumentFails hroom)
  | _, _, _, _, _, _, .builtin hroom hs hf => fun h hn => by
    have h := h.deeper hroom
    obtain ⟨ht, hsame⟩ := (hs.agree h hn.argument).of_ok
    exact .inl ⟨.builtin hroom ht hf, hsame⟩
  | _, _, _, _, _, _, .undefinedFunction hroom hs hbuiltin hf => fun h hn => by
    have h := h.deeper hroom
    obtain ⟨ht, hsame⟩ := (hs.agree h hn.argument).of_ok
    have hf' := ((h.after hsame).function?_eq hn.callee hbuiltin).trans hf
    exact .inl ⟨.undefinedFunction hroom ht hbuiltin hf', hsame⟩
  | _, _, _, _, _, _, .argumentCount hroom hs hbuiltin hf hcount => fun h hn => by
    have h := h.deeper hroom
    obtain ⟨ht, hsame⟩ := (hs.agree h hn.argument).of_ok
    have hf' := ((h.after hsame).function?_eq hn.callee hbuiltin).trans hf
    exact .inl ⟨.argumentCount hroom ht hbuiltin hf' hcount, hsame⟩
  | _, _, _, _, _, _, .callDepth hroom hs hbuiltin hf hcount => fun h hn => by
    have h := h.deeper hroom
    obtain ⟨ht, hsame⟩ := (hs.agree h hn.argument).of_ok
    have hf' := ((h.after hsame).function?_eq hn.callee hbuiltin).trans hf
    exact .inl ⟨.callDepth hroom ht hbuiltin hf' hcount, hsame⟩
  | _, _, _, _, _, _, .entryFails hroom hs hbuiltin hf hcount hadmits => fun h hn => by
    have h := h.deeper hroom
    obtain ⟨ht, hsame⟩ := (hs.agree h hn.argument).of_ok
    have h' := h.after hsame
    have hf' := (h'.function?_eq hn.callee hbuiltin).trans hf
    rw [h'.admits_eq] at hadmits
    exact .inr ⟨rfl, _, .entryFails hroom ht hbuiltin hf' hcount hadmits, rfl⟩
  | _, _, _, _, _, _, .call hroom hs hbuiltin hf hcount hadmits hbody => fun h hn => by
    have h := h.deeper hroom
    obtain ⟨ht, hsame⟩ := (hs.agree h hn.argument).of_ok
    have h' := h.after hsame
    have hf' := (h'.function?_eq hn.callee hbuiltin).trans hf
    -- inside the call both sessions have the same frame, whatever was bound outside
    obtain ⟨hentered, hcovered⟩ :=
      h'.enter hn.callee ((callee?_of_not_builtin hbuiltin).trans hf) hcount
    rw [h'.admits_eq] at hadmits
    rcases hbody.agree hentered hcovered with ⟨htbody, hsame'⟩ | ⟨ho, t', htbody, hcatalog⟩
    · exact .inl ⟨(Evaluates.callReturns hroom ht hbuiltin hf' hcount hadmits htbody :),
        hsame.trans hsame'.leave⟩
    · exact .inr ⟨ho, _, .call hroom ht hbuiltin hf' hcount hadmits htbody, hcatalog⟩

theorem EvaluatesAll.agree {K : String → Prop} : ∀ {calls : Nat} {room : Room}
    {s s' : Session} {ns : List Node} {o : Except Failure (List Value)},
    EvaluatesAll calls room s ns o s' → ∀ {t : Session}, Agreement K room s t →
    (∀ n ∈ ns, Covers K s t n) → Follows (EvaluatesAll calls room t ns) o s s' t
  | _, _, s, _, _, _, .nil => fun h _ => by
    refine .inl ⟨?_, .refl s⟩
    rw [h.withCatalog_eq]
    exact .nil
  | _, _, _, _, _, _, .headFails hs => fun h hns =>
    (hs.agree h (List.forall_mem_cons.mp hns).1).fails .headFails
  | _, _, _, _, _, _, .tailFails hs hrest => fun h hns => by
    obtain ⟨hn, hns⟩ := List.forall_mem_cons.mp hns
    obtain ⟨ht, hsame⟩ := (hs.agree h hn).of_ok
    exact .after hsame ((hrest.agree (h.after hsame) fun n hn => (hns n hn).after hsame).fails
      (.tailFails ht))
  | _, _, _, _, _, _, .cons hs hrest => fun h hns => by
    obtain ⟨hn, hns⟩ := List.forall_mem_cons.mp hns
    obtain ⟨ht, hsame⟩ := (hs.agree h hn).of_ok
    obtain ⟨htrest, hsame'⟩ :=
      (hrest.agree (h.after hsame) fun n hn => (hns n hn).after hsame).of_ok
    exact .inl ⟨.cons ht htrest, hsame.trans hsame'⟩

end

section Expression

variable {s t : Session} {e : Node}

theorem AgreeOn.agreement (h : s.AgreeOn t e) (hbodies : ∀ name f, s.CanCall e name →
    s.callee? name = some f → f.body.isPure = true) (room : Room) :
    Agreement (s.CanCall e) room s t where
  depth := .inl h.depth
  catalog := h.catalog
  functions := h.functions
  pure := hbodies
  closed := fun _ _ hK hf _ hcallee => hK.through hf hcallee
  globals := h.globals

theorem AgreeOn.covers (h : s.AgreeOn t e) (hpure : e.isPure = true) :
    Covers (s.CanCall e) s t e where
  pure := hpure
  callees := fun _ hname => .direct hname
  references := h.references

/-- In a call, a variable that the expression does not name makes no difference to what the
expression can reach. -/
theorem agreeOn_bind {frame : Frame} (hcall : s.context.current = some frame) {name : String}
    (hname : Text.fold name ∉ e.references.map Text.fold) (v : Value) :
    s.AgreeOn (s.bind name v) e := by
  unfold bind Context.set
  rw [hcall]
  refine ⟨rfl, rfl, fun x hx => ?_, fun _ _ => rfl, fun _ _ _ _ _ _ _ => rfl⟩
  have hne : Text.fold x ≠ Text.fold name := fun heq =>
    hname (heq ▸ List.mem_map_of_mem hx)
  unfold Context.get?
  rw [hcall]
  simp only
  rw [Bindings.value?_bind, if_neg hne]

/-- **An expression depends only on what it can reach**, and never on the variables of a caller.
Let neither the expression nor the body of a function that it can come to call have an assignment or
a definition in it. Then in two sessions that agree on the variables that the expression uses, on the
functions that it can come to call and on the global variables that these use, it evaluates to the
same result, also if that is an error, and teaches the sessions the same about units. -/
theorem evaluate_eq_of_agreeOn (limits : Limits) (hpure : e.isPure = true)
    (hbodies : ∀ name f, s.CanCall e name → s.callee? name = some f → f.body.isPure = true)
    (h : s.AgreeOn t e) :
    (s.evaluate limits e).1 = (t.evaluate limits e).1 ∧
      (s.evaluate limits e).2.catalog = (t.evaluate limits e).2.catalog := by
  have hcalls : t.callsLeft limits = s.callsLeft limits := by
    unfold callsLeft
    rw [h.depth]
  unfold evaluate
  rcases heval : eval (s.callsLeft limits) limits.nesting s e with ⟨o, s'⟩
  obtain ⟨t', ht, hcatalog⟩ : ∃ t', Evaluates (s.callsLeft limits) limits.nesting t e o t' ∧
      t'.catalog = s'.catalog := by
    rcases (eval_evaluates heval).agree (h.agreement hbodies _) (h.covers hpure) with
      ⟨ht, -⟩ | ⟨-, ht⟩
    · exact ⟨_, ht, rfl⟩
    · exact ht
  rw [hcalls, ht.eval_eq]
  rcases o with (e | a) | v
  · exact ⟨rfl, hcatalog.symm⟩
  · cases a <;> exact ⟨rfl, hcatalog.symm⟩
  · exact ⟨rfl, hcatalog.symm⟩

/-- In a call of `g(x)`, the value of `x` makes no difference to `f(2)`, where `f(y) = y + x`. -/
theorem evaluate_eq_of_agreeOn_in_call :
    let f : UserFunction :=
      ⟨"f", ["y"], .binary (.reference "y" .nowhere) "+" (.reference "x" .nowhere) .nowhere⟩
    let e : Node := .call "f" [.number 2 none .nowhere] .nowhere
    let s : Session := ({ (fresh .standard).bind "x" (.number 1) with
      functions := [("f", f)] } : Session).enter ⟨"g", ["x"], e⟩ [.number 5]
    let t := s.bind "x" (.number 7)
    e.isPure = true ∧
      (∀ name f, s.CanCall e name → s.callee? name = some f → f.body.isPure = true) ∧
      s.AgreeOn t e ∧ (s.evaluate .standard e).1 = (t.evaluate .standard e).1 := by
  intro f e s t
  have hpure : e.isPure = true := by decide
  have hbodies : ∀ name g, s.CanCall e name → s.callee? name = some g → g.body.isPure = true := by
    intro name g _ hg
    have hfunction : s.function? name = some g := by
      unfold callee? at hg
      split at hg
      · cases hg
      · exact hg
    -- there is no other function than `f`
    have hg : g ∈ Table.values [("f", f)] := Table.mem_values_of_get? hfunction
    obtain rfl := List.mem_singleton.mp hg
    decide
  have hagree : s.AgreeOn t e := agreeOn_bind rfl (by decide) _
  exact ⟨hpure, hbodies, hagree, (evaluate_eq_of_agreeOn .standard hpure hbodies hagree).1⟩

end Expression

end Session

end Reckon
