import Reckon.Proofs.Node
import Reckon.Proofs.Session.Evaluation

/-!
# What evaluations guarantee

An evaluation leads from session to session in a few kinds of steps: a literal has its unit looked
up, a definition is stored, a variable is bound, an operator is applied, a call is entered and left.
So a relation between sessions holds between the first and the last session of every evaluation if
each kind of step stays within it (`Evaluates.leads`).

Some steps do so for certain nodes, sessions and values only. Therefore a guarantee is about nodes
with `N` in sessions with `I` whose values have `V`, and it says that an evaluation leads to no
others.

One kind of step is the last of every evaluation: a call whose entry fails stays begun. What is true
of all other steps may be false of this one, so what holds of it is told apart.
-/

namespace Reckon.Session

/-- **Values with `V` only** come up while nodes with `N` are evaluated in sessions with `I`. -/
structure Produces (N : Node → Prop) (I : Session → Prop) (V : Value → Prop) : Prop where
  literal : ∀ {s s' : Session} {x : Float} {unit : Option String} {span : Span} {v : Value},
    N (.number x unit span) → I s → s.literal x unit = (.ok v, s') → V v
  fetch : ∀ {s : Session} {name : String} {v : Value}, I s → s.fetch name = .ok v → V v
  /-- Comments and definitions have the value zero. -/
  zero : V (.number 0)
  unary : ∀ {operator : String} {v w : Value}, V v → Arithmetic.unary operator v = .ok w → V w
  operate : ∀ {s s' : Session} {operator : String} {l r v : Value}, I s → V l → V r →
    s.operate operator l r = (.ok v, s') → V v
  builtin : ∀ {f : Builtin} {vs : List Value} {v : Value}, (∀ v ∈ vs, V v) → f.call vs = .ok v → V v

theorem Produces.any {N : Node → Prop} {I : Session → Prop} : Produces N I fun _ => True :=
  ⟨fun _ _ _ => trivial, fun _ _ => trivial, trivial, fun _ _ => trivial, fun _ _ _ _ => trivial,
    fun _ _ => trivial⟩

/-- **Every step stays within `R`**, and leads from nodes with `N` and sessions with `I` to such
nodes and sessions, as long as the values have `V`. If the last step is a call whose entry fails,
`Q` is what holds of all steps together. -/
structure Guarantee (N : Node → Prop) (I : Session → Prop) (V : Value → Prop)
    (R Q : Session → Session → Prop) : Prop where
  values : Produces N I V := by exact .any
  refl : ∀ s, R s s
  trans : ∀ {s s' s'' : Session}, R s s' → R s' s'' → R s s''
  keeps : ∀ {s s' : Session}, I s → R s s' → I s' := by intros; trivial
  child : ∀ {n k : Node}, N n → k ∈ n.children → N k := by intros; trivial
  /-- The body that a call leads to. -/
  body : ∀ {s : Session} {name : String} {arguments : List Node} {span : Span} {f : UserFunction},
    N (.call name arguments span) → I s → Builtin.ofName? name = none →
    s.function? name = some f → N f.body := by intros; trivial
  literal : ∀ {s s' : Session} {x : Float} {unit : Option String} {span : Span}
    {o : Except Failure Value}, N (.number x unit span) → I s → s.literal x unit = (o, s') → R s s'
  define : ∀ {s s' : Session} {name : String} {parameters : List String} {body : Node} {span : Span}
    {o : Except Failure Value}, N (.definition name parameters body span) → I s →
    s.define name parameters body = (o, s') → R s s'
  bind : ∀ {s : Session} {name : String} {value : Node} {span : Span} {v : Value},
    N (.assignment name value span) → I s → V v → R s (s.bind name v)
  operate : ∀ {s s' : Session} {operator : String} {l r : Value} {o : Except Failure Value}, I s →
    V l → V r → s.operate operator l r = (o, s') → R s s'
  enter : ∀ {s : Session} {f : UserFunction} {vs : List Value}, I s → (∀ v ∈ vs, V v) →
    I (s.enter f vs) := by intros; trivial
  /-- What is guaranteed inside a call is guaranteed for the whole call. -/
  leave : ∀ {s s' : Session} {f : UserFunction} {vs : List Value}, I s → (∀ v ∈ vs, V v) →
    R (s.enter f vs) s' → R s s'.leave
  begin : ∀ {s : Session} {f : UserFunction}, I s → Q s (s.begin f) := by intros; trivial
  after : ∀ {s s' s'' : Session}, R s s' → Q s' s'' → Q s s'' := by intros; trivial
  /-- A call is left as well if one fails that its body enters. -/
  abandon : ∀ {s s' : Session} {f : UserFunction} {vs : List Value}, I s → (∀ v ∈ vs, V v) →
    Q (s.enter f vs) s' → Q s s'.leave := by intros; trivial

/-- The sessions are related by `R`; or the entry of a call has failed, which takes a call that may be
opened, and they are related by `Q`. -/
def Leads (R Q : Session → Session → Prop) (calls : Nat) {α : Type} (o : Except Failure α)
    (s s' : Session) : Prop := R s s' ∨ calls ≠ 0 ∧ o = .error (.error .nesting) ∧ Q s s'

namespace Leads

variable {R Q : Session → Session → Prop} {calls : Nat} {α β : Type} {o : Except Failure α}
  {s s' : Session}

theorem of_ok {a : α} (h : Leads R Q calls (.ok a) s s') : R s s' :=
  h.resolve_right fun h => nomatch h.2.1

theorem elim (h : Leads R R calls o s s') : R s s' := Or.elim h id (·.2.2)

/-- Whatever fails, fails with the error of its part. -/
theorem of_error {e : Failure} (h : Leads R Q calls (.error e : Except Failure α) s s') :
    Leads R Q calls (.error e : Except Failure β) s s' :=
  h.imp_right fun ⟨hcalls, he, hq⟩ => ⟨hcalls, by cases he; rfl, hq⟩

end Leads

theorem eq_zero_of_define {s s' : Session} {name : String} {parameters : List String} {body : Node}
    {v : Value} (h : s.define name parameters body = (.ok v, s')) : v = .number 0 := by
  unfold define at h
  split at h <;> cases h
  rfl

section Guarantee

variable {N : Node → Prop} {I : Session → Prop} {V : Value → Prop} {R Q : Session → Session → Prop}
  (hR : Guarantee N I V R Q)
include hR

theorem Leads.prepend {calls : Nat} {α : Type} {o : Except Failure α} {s s' s'' : Session}
    (h : R s s') (h' : Leads R Q calls o s' s'') : Leads R Q calls o s s'' :=
  h'.imp (hR.trans h) fun ⟨hcalls, ho, hq⟩ => ⟨hcalls, ho, hR.after h hq⟩

theorem Leads.leave {calls : Nat} {o : Except Failure Value} {s s' : Session} {f : UserFunction}
    {vs : List Value} (hs : I s) (hvs : ∀ v ∈ vs, V v) (h : Leads R Q calls o (s.enter f vs) s') :
    Leads R Q (calls + 1) o s s'.leave :=
  h.imp (hR.leave hs hvs) fun ⟨_, ho, hq⟩ => ⟨calls.succ_ne_zero, ho, hR.abandon hs hvs hq⟩

mutual

/-- **What every step guarantees, an evaluation guarantees**, however it ends. -/
theorem Evaluates.leads : ∀ {calls : Nat} {room : Room} {s s' : Session} {n : Node}
    {o : Except Failure Value}, Evaluates calls room s n o s' → N n → I s →
    Leads R Q calls o s s' ∧ ∀ v, o = .ok v → V v
  | _, _, s, _, _, _, .tooDeep _ | _, _, s, _, _, _, .unknown _ => fun _ _ =>
    ⟨.inl (hR.refl s), fun _ h => nomatch h⟩
  | _, _, s, _, _, _, .comment _ => fun _ _ =>
    ⟨.inl (hR.refl s), fun v h => by cases h; exact hR.values.zero⟩
  | _, _, s, _, _, _, .reference _ => fun _ hs =>
    ⟨.inl (hR.refl s), fun _ h => hR.values.fetch hs h⟩
  | _, _, _, _, _, _, .number _ h => fun hn hs =>
    ⟨.inl (hR.literal hn hs h), fun v hv => by subst hv; exact hR.values.literal hn hs h⟩
  | _, _, _, _, _, _, .definition _ h => fun hn hs =>
    ⟨.inl (hR.define hn hs h),
      fun v hv => by subst hv; rw [eq_zero_of_define h]; exact hR.values.zero⟩
  | _, _, _, _, _, _, .unaryFails _ h => fun hn hs =>
    ⟨(h.leads (hR.child hn (by simp [Node.children])) hs).1, fun _ h => nomatch h⟩
  | _, _, _, _, _, _, .unary _ h => fun hn hs => by
    obtain ⟨hs', hv⟩ := h.leads (hR.child hn (by simp [Node.children])) hs
    exact ⟨.inl hs'.of_ok, fun _ hw => hR.values.unary (hv _ rfl) hw⟩
  | _, _, _, _, _, _, .leftFails _ h => fun hn hs =>
    ⟨(h.leads (hR.child hn (by simp [Node.children])) hs).1, fun _ h => nomatch h⟩
  | _, _, _, _, _, _, .rightFails _ hl hr => fun hn hs => by
    have hs₁ := (hl.leads (hR.child hn (by simp [Node.children])) hs).1.of_ok
    have hs₂ := (hr.leads (hR.child hn (by simp [Node.children])) (hR.keeps hs hs₁)).1
    exact ⟨.prepend hR hs₁ hs₂, fun _ h => nomatch h⟩
  | _, _, _, _, _, _, .binary _ hl hr h => fun hn hs => by
    obtain ⟨hs₁, hvl⟩ := hl.leads (hR.child hn (by simp [Node.children])) hs
    have hi₁ := hR.keeps hs hs₁.of_ok
    obtain ⟨hs₂, hvr⟩ := hr.leads (hR.child hn (by simp [Node.children])) hi₁
    have hi₂ := hR.keeps hi₁ hs₂.of_ok
    have hoperate := hR.operate hi₂ (hvl _ rfl) (hvr _ rfl) h
    refine ⟨.inl (hR.trans (hR.trans hs₁.of_ok hs₂.of_ok) hoperate), fun v hv => ?_⟩
    subst hv
    exact hR.values.operate hi₂ (hvl _ rfl) (hvr _ rfl) h
  | _, _, _, _, _, _, .assignmentFails _ h => fun hn hs =>
    ⟨(h.leads (hR.child hn (by simp [Node.children])) hs).1, fun _ h => nomatch h⟩
  | _, _, _, _, _, _, .assignment _ h => fun hn hs => by
    obtain ⟨hs', hv⟩ := h.leads (hR.child hn (by simp [Node.children])) hs
    have hbind := hR.bind hn (hR.keeps hs hs'.of_ok) (hv _ rfl)
    exact ⟨.inl (hR.trans hs'.of_ok hbind), hv⟩
  | _, _, _, _, _, _, .argumentFails _ h => fun hn hs =>
    ⟨(h.leads (fun _ hk => hR.child hn hk) hs).1.of_error, fun _ h => nomatch h⟩
  | _, _, _, _, _, _, .undefinedFunction _ h _ _ | _, _, _, _, _, _, .argumentCount _ h _ _ _
  | _, _, _, _, _, _, .callDepth _ h _ _ _ => fun hn hs =>
    ⟨.inl (h.leads (fun _ hk => hR.child hn hk) hs).1.of_ok, fun _ h => nomatch h⟩
  | _, _, _, _, _, _, .builtin _ h _ => fun hn hs => by
    obtain ⟨hs', hvs⟩ := h.leads (fun _ hk => hR.child hn hk) hs
    exact ⟨.inl hs'.of_ok, fun _ hv => hR.values.builtin (hvs _ rfl) (eq_ok_of_lift hv)⟩
  | _, _, _, _, _, _, .entryFails _ h _ _ _ _ => fun hn hs => by
    have hs' := (h.leads (fun _ hk => hR.child hn hk) hs).1.of_ok
    refine ⟨.inr ⟨Nat.succ_ne_zero _, rfl, ?_⟩, fun _ h => nomatch h⟩
    exact hR.after hs' (hR.begin (hR.keeps hs hs'))
  | _, _, _, _, _, _, .call _ h hbuiltin hf _ _ hbody => fun hn hs => by
    obtain ⟨hs', hvs⟩ := h.leads (fun _ hk => hR.child hn hk) hs
    have hi := hR.keeps hs hs'.of_ok
    -- the body is evaluated between the session after the arguments and the one after the call
    obtain ⟨hs'', hv⟩ := hbody.leads (hR.body hn hi hbuiltin hf) (hR.enter hi (hvs _ rfl))
    exact ⟨.prepend hR hs'.of_ok (.leave hR hi (hvs _ rfl) hs''), hv⟩

theorem EvaluatesAll.leads : ∀ {calls : Nat} {room : Room} {s s' : Session}
    {ns : List Node} {o : Except Failure (List Value)}, EvaluatesAll calls room s ns o s' →
    (∀ n ∈ ns, N n) → I s → Leads R Q calls o s s' ∧ ∀ vs, o = .ok vs → ∀ v ∈ vs, V v
  | _, _, s, _, _, _, .nil => fun _ _ => ⟨.inl (hR.refl s), fun vs h v hv => by cases h; cases hv⟩
  | _, _, _, _, _, _, .headFails h => fun hns hs =>
    ⟨(h.leads (List.forall_mem_cons.mp hns).1 hs).1.of_error, fun _ h => nomatch h⟩
  | _, _, _, _, _, _, .tailFails h hrest => fun hns hs => by
    obtain ⟨hn, hns⟩ := List.forall_mem_cons.mp hns
    have hs' := (h.leads hn hs).1.of_ok
    exact ⟨.prepend hR hs' (hrest.leads hns (hR.keeps hs hs')).1, fun _ h => nomatch h⟩
  | _, _, _, _, _, _, .cons h hrest => fun hns hs => by
    obtain ⟨hn, hns⟩ := List.forall_mem_cons.mp hns
    obtain ⟨hs', hv⟩ := h.leads hn hs
    obtain ⟨hs'', hvs⟩ := hrest.leads hns (hR.keeps hs hs'.of_ok)
    refine ⟨.inl (hR.trans hs'.of_ok hs''.of_ok), fun vs heq => ?_⟩
    cases heq
    exact List.forall_mem_cons.mpr ⟨hv _ rfl, hvs _ rfl⟩

end

end Guarantee

/-! ### Relations that every step stays within -/

section Total

variable {N : Node → Prop} {I : Session → Prop} {V : Value → Prop} {R : Session → Session → Prop}
  (hR : Guarantee N I V R R) {calls : Nat} {room : Room} {s s' : Session}
include hR

theorem Evaluates.guarantee {n : Node} {o : Except Failure Value}
    (h : Evaluates calls room s n o s') (hn : N n) (hs : I s) :
    R s s' ∧ ∀ v, o = .ok v → V v :=
  (h.leads hR hn hs).imp_left Leads.elim

theorem EvaluatesAll.guarantee {ns : List Node} {o : Except Failure (List Value)}
    (h : EvaluatesAll calls room s ns o s') (hns : ∀ n ∈ ns, N n) (hs : I s) :
    R s s' ∧ ∀ vs, o = .ok vs → ∀ v ∈ vs, V v :=
  (h.leads hR hns hs).imp_left Leads.elim

end Total

end Reckon.Session
