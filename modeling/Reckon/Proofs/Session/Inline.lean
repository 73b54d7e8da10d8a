import Mathlib.Data.List.Forall2
import Reckon.Proofs.Session.Termination
import Reckon.Proofs.Session.Traceless

/-!
# A call and the body in its place

A call evaluates its arguments once, in order, and then the body of the function in a frame of its
own. In the body with the arguments in place of the parameters, they are evaluated wherever a
parameter is used: not at all, or several times, in another order, and with one more call left.
That makes no difference to a successful call of a function whose evaluation leaves no trace but in
the memory of products of units (`evaluate_inlined`).

The two evaluations are compared step by step (`Evaluates.inlined`). A variable of the body is a
parameter, and then the argument has the value of the parameter whenever it is evaluated (`Stands`),
or it is a global variable. The memories stay related by a congruence: the questions that come up in
arguments may be asked at any time, as long as they clash with no question of the call
(`Memory.Matches`).
-/

namespace Reckon

namespace Node

mutual

/-- The node with other nodes in place of variables. -/
def substitute (replacement? : String → Option Node) : Node → Node
  | number value unit span => number value unit span
  | reference name span => (replacement? name).getD (reference name span)
  | comment text span => comment text span
  | unknown form => unknown form
  | unary operator operand span => unary operator (operand.substitute replacement?) span
  | binary left operator right span =>
    binary (left.substitute replacement?) operator (right.substitute replacement?) span
  | call name arguments span => call name (substituteAll replacement? arguments) span
  | assignment name value span => assignment name (value.substitute replacement?) span
  | definition name parameters body span =>
    definition name parameters (body.substitute replacement?) span

/-- Several nodes with other nodes in place of variables. -/
def substituteAll (replacement? : String → Option Node) : List Node → List Node
  | [] => []
  | n :: ns => n.substitute replacement? :: substituteAll replacement? ns

end

namespace Traceless

variable {c : Catalog} {N : String → Prop} {replacement? : String → Option Node}

mutual

/-- Traceless nodes in place of variables leave a node traceless. -/
theorem substitute (hreplaced : ∀ name n, replacement? name = some n → n.Traceless c N) :
    ∀ {n : Node}, n.Traceless c N → (n.substitute replacement?).Traceless c N
  | number .., h | comment .., h | unknown _, h => by rwa [Node.substitute]
  | assignment .., h | definition .., h => by
    have hpure := h.pure
    simp [isPure] at hpure
  | reference name _, h => by
    rw [Node.substitute]
    cases hname : replacement? name with
    | none => exact h
    | some n => exact hreplaced name n hname
  | unary .., h => by
    rw [Node.substitute]
    exact .of_operand (substitute hreplaced h.operand)
  | binary .., h => by
    rw [Node.substitute]
    exact .of_operands (substitute hreplaced h.operands.1) (substitute hreplaced h.operands.2)
  | call .., h => by
    rw [Node.substitute]
    exact .of_arguments h.callee (substituteAll hreplaced h.argument)

theorem substituteAll (hreplaced : ∀ name n, replacement? name = some n → n.Traceless c N) :
    ∀ {ns : List Node}, (∀ n ∈ ns, n.Traceless c N) →
    ∀ n ∈ Node.substituteAll replacement? ns, n.Traceless c N
  | [], _ => by simp [Node.substituteAll]
  | n :: ns, h => by
    obtain ⟨hn, hns⟩ := List.forall_mem_cons.mp h
    rw [Node.substituteAll]
    exact List.forall_mem_cons.mpr ⟨substitute hreplaced hn, substituteAll hreplaced hns⟩

end

end Traceless

end Node

theorem Bindings.value?_bindAll (bindings : List (String × Value)) (name : String) :
    ∀ b : Bindings, (b.bindAll bindings).value? name =
      ((bindings.findRev? fun p => Text.fold p.1 = Text.fold name).map (·.2)).or (b.value? name) := by
  induction bindings with
  | nil => exact fun b => rfl
  | cons p rest ih =>
    intro b
    rw [bindAll, ih, value?_bind, List.findRev?]
    cases rest.findRev? fun p => Text.fold p.1 = Text.fold name with
    | some q => rfl
    | none =>
      by_cases hname : Text.fold name = Text.fold p.1
      · simp [hname]
      · simp [hname, Ne.symm hname]

namespace UserFunction

variable (f : UserFunction)

/-- The argument for a parameter; of parameters with the same name, the last one counts. -/
def argument? {α : Type} (arguments : List α) (name : String) : Option α :=
  ((f.parameters.zip arguments).findRev? fun p => Text.fold p.1 = Text.fold name).map (·.2)

/-- The body with the arguments in place of the parameters. -/
def inlined (arguments : List Node) : Node := f.body.substitute (f.argument? arguments)

/-- **The frame of a call binds the parameters to the arguments.** -/
theorem value?_frame (arguments : List Value) (name : String) :
    (f.frame arguments).bindings.value? name = f.argument? arguments name := by
  unfold frame argument?
  rw [Bindings.value?_bindAll]
  exact Option.or_none

theorem mem_of_argument? {α : Type} {arguments : List α} {name : String} {a : α}
    (h : f.argument? arguments name = some a) : a ∈ arguments := by
  obtain ⟨p, hp, rfl⟩ := Option.map_eq_some_iff.mp h
  rw [List.findRev?_eq_find?_reverse] at hp
  have hmem := List.mem_reverse.mp (List.mem_of_find?_eq_some hp)
  exact (List.of_mem_zip hmem).2

/-- Arguments that are related one by one are related for each parameter. -/
theorem argument?_rel {α β : Type} {R : α → β → Prop} {as : List α} {bs : List β}
    (h : List.Forall₂ R as bs) (name : String) :
    Option.Rel R (f.argument? as name) (f.argument? bs name) := by
  unfold argument?
  generalize f.parameters = parameters
  induction h generalizing parameters with
  | nil => simp
  | @cons a b as bs hab _ ih =>
    cases parameters with
    | nil => exact .none
    | cons p rest =>
      have hrest := ih rest
      rw [List.zip_cons_cons, List.zip_cons_cons, List.findRev?, List.findRev?]
      generalize (rest.zip as).findRev? _ = x, (rest.zip bs).findRev? _ = y at hrest ⊢
      rcases x with _ | x <;> rcases y with _ | y
      · simp only
        split
        · exact .some hab
        · exact .none
      · cases hrest
      · cases hrest
      · exact hrest

end UserFunction

namespace Session

/-- The node has the value whenever it is evaluated in the course of a call: with the memory of the
call or one that is related to it. -/
def Stands (R : Memory → Memory → Prop) (calls : Nat) (s : Session) (n : Node) (v : Value) : Prop :=
  ∀ m m', R m m' → ∃ m'', Evaluates calls .unlimited (s.prepared m') n (.ok v) (s.prepared m'') ∧
    R m m''

/-- What inlining a call relies on: in the global frame of `s`, the functions with names in `N` are
traceless, `R` relates memories that answer the questions in `K` alike, and the arguments of `f` stand
for the values. -/
structure Inlines (K : Question → Prop) (R : Memory → Memory → Prop) (c : Catalog)
    (N : String → Prop) (calls : Nat) (s : Session) (f : UserFunction) (arguments : List Node)
    (values : List Value) : Prop where
  congruence : Memory.Congruence K R
  current : s.context.current = none
  traceless : s.Traceless c N
  arguments : List.Forall₂ (Stands R (calls + 1) s) arguments values

section Inlines

variable {K : Question → Prop} {R : Memory → Memory → Prop} {c : Catalog} {N : String → Prop}
  {calls : Nat} {room inner : Room} {s σ σ' : Session} {f : UserFunction}
  {arguments : List Node} {values : List Value} {name : String} {span : Span} {v : Value}
  {m : Memory}

theorem Inlines.traceless_of_only (h : Inlines K R c N calls s f arguments values)
    (hσ : OnlyMemory (s.enter f values) σ) : σ.Traceless c N :=
  (h.traceless.enter f values).after hσ

/-- Outside of the call the catalog is the same, once the spellings have been gathered. -/
theorem Inlines.catalog_prepared (h : Inlines K R c N calls s f arguments values)
    (hσ : σ.Traceless c N) (m : Memory) : (σ.prepared m).catalog = (s.prepared m).catalog :=
  (hσ.catalog_prepared m).trans (h.traceless.catalog_prepared m).symm

/-- What can be called in the call is the same outside. -/
theorem Inlines.agreement (h : Inlines K R c N calls s f arguments values)
    (hσ : OnlyMemory (s.enter f values) σ) (m : Memory) :
    Agreement N .unlimited (σ.prepared m) (s.prepared m) where
  depth := .inr rfl
  catalog := h.catalog_prepared (h.traceless_of_only hσ) m
  functions name _ := (hσ.bindings.callee?_eq name).trans (callee?_enter s f values name)
  pure name g hN hg := ((h.traceless_of_only hσ).body name g hN hg).pure
  closed name g hN hg := ((h.traceless_of_only hσ).body name g hN hg).callees
  globals name g _ _ x _ _ := by
    have hglobals : σ.context.globals = s.context.globals := by
      rw [hσ.bindings.1, enter_eq_frame]
    exact congrArg (fun b : Bindings => b.value? x) hglobals

/-- A literal has the same value outside. -/
theorem Inlines.literal (h : Inlines K R c N calls s f arguments values)
    (hσ : OnlyMemory (s.enter f values) σ) {x : Float} {unit : Option String}
    (hunit : ∀ t ∈ unit.toList, c.Settles t) (hs : σ.literal x unit = (.ok v, σ')) (m : Memory) :
    (s.prepared m).literal x unit = (.ok v, s.prepared m) := by
  have hσt := h.traceless_of_only hσ
  have hsettles : ∀ t ∈ unit.toList, σ.catalog.Settles t := fun t ht => hσt.settles (hunit t ht)
  have houtside := (h.agreement hσ m).literal (literal_prepared hsettles m hs)
  rw [h.catalog_prepared (hσt.after (onlyMemory_literal hsettles hs)) m] at houtside
  exact houtside

/-- A variable has the same value in the call as what stands for it outside. -/
theorem Inlines.reference (h : Inlines K R c N calls s f arguments values)
    (hσ : OnlyMemory (s.enter f values) σ) (hm : R σ.catalog.memory m)
    (hfetch : σ.fetch name = .ok v) :
    ∃ m', Evaluates (calls + 1) .unlimited (s.prepared m)
      ((Node.reference name span).substitute (f.argument? arguments)) (.ok v) (s.prepared m') ∧
      R σ.catalog.memory m' := by
  have hrel := f.argument?_rel h.arguments name
  have hget : σ.context.get? name = (f.argument? values name).or (s.context.globals.value? name) := by
    rw [hσ.bindings.1, ← f.value?_frame, enter_eq_frame]
    rfl
  unfold fetch at hfetch
  rw [hget] at hfetch
  rw [Node.substitute]
  generalize f.argument? arguments name = a, f.argument? values name = w at hrel hfetch
  cases hrel with
  | some hstands =>
    cases hfetch
    exact hstands _ m hm
  | none =>
    -- not a parameter: the global variable
    refine ⟨m, ?_, hm⟩
    have hglobal : (s.prepared m).fetch name = .ok v := by
      unfold fetch Context.get?
      rw [show (s.prepared m).context.current = none from h.current]
      exact hfetch
    rw [← hglobal]
    exact .reference rfl

/-- An operator has the same value outside: what it does depends on the memory only. -/
theorem Inlines.operate (h : Inlines K R c N calls s f arguments values)
    (hσ : OnlyMemory (s.enter f values) σ) {operator : String} {left right : Value}
    (hs : σ.operate operator left right = (.ok v, σ'))
    (hasked : ∀ q ∈ (Inquiry.binary operator left right).asked σ.catalog.memory, K q)
    (hm : R σ.catalog.memory m) :
    ∃ m', (s.prepared m).operate operator left right = (.ok v, s.prepared m') ∧
      R σ'.catalog.memory m' := by
  obtain ⟨m', hs', hm'⟩ := operate_congruent h.congruence hs hasked hm
  have hσ' := h.traceless_of_only (hσ.trans (onlyMemory_operate hs))
  have houtside := (h.agreement hσ m).operate hs'
  rw [h.catalog_prepared hσ' m'] at houtside
  exact ⟨m', houtside, hm'⟩

/-- A function that is called in the call has the same value outside, with one more call left. -/
theorem Inlines.body (h : Inlines K R c N (calls + 1) s f arguments values)
    (hσ : OnlyMemory (s.enter f values) σ) {g : UserFunction} {ws : List Value} (hN : N name)
    (hg : σ.callee? name = some g) (hcount : g.parameters.length = ws.length)
    (hbody : Evaluates calls inner (σ.enter g ws) g.body (.ok v) σ')
    (hK : Task.AsksOnly K ⟨calls, inner, σ.enter g ws, g.body⟩) (hm : R σ.catalog.memory m) :
    ∃ m', Evaluates (calls + 1) .unlimited ((s.prepared m).enter g ws) g.body (.ok v)
      { (s.prepared m).enter g ws with catalog := (s.prepared m').catalog } ∧
      R σ'.catalog.memory m' := by
  have hσg := (h.traceless_of_only hσ).enter g ws
  have htraceless := (h.traceless_of_only hσ).body name g hN hg
  rw [← catalog_enter σ g ws] at hm
  -- first with the other memory, then without a limit, then outside, then with one more call
  obtain ⟨m', hbody', hm'⟩ := hbody.congruent h.congruence (hσg.tame htraceless hK) hm
  rw [← enter_prepared] at hbody'
  have hunlimited := hbody'.unlimited.resolve_left (by simp)
  obtain ⟨hentered, hcovered⟩ := (h.agreement hσ m).enter hN hg hcount
  have houtside := (hunlimited.agree hentered hcovered).of_ok.1
  rw [h.catalog_prepared (hσg.after (hbody.traceless hσg htraceless)) m'] at houtside
  exact ⟨m', houtside.anotherCall.resolve_left (by simp), hm'⟩

end Inlines

mutual

/-- **Outside of the call, with the arguments in place of the parameters, the parts of its body have
the values that they have inside.** -/
theorem Evaluates.inlined {K : Question → Prop} {R : Memory → Memory → Prop} {c : Catalog}
    {N : String → Prop} {s : Session} {f : UserFunction} {arguments : List Node}
    {values : List Value} : ∀ {calls : Nat} {room : Room} {σ σ' : Session} {n : Node}
    {o : Except Failure Value}, Evaluates calls room σ n o σ' →
    Inlines K R c N calls s f arguments values → OnlyMemory (s.enter f values) σ →
    n.Traceless c N → Task.AsksOnly K ⟨calls, room, σ, n⟩ → ∀ {v : Value} {m : Memory},
    o = .ok v → R σ.catalog.memory m →
    ∃ m', Evaluates (calls + 1) .unlimited (s.prepared m) (n.substitute (f.argument? arguments))
      (.ok v) (s.prepared m') ∧ R σ'.catalog.memory m'
  | _, _, _, _, _, _, .tooDeep _ | _, _, _, _, _, _, .unknown _
  | _, _, _, _, _, _, .unaryFails .. | _, _, _, _, _, _, .leftFails ..
  | _, _, _, _, _, _, .rightFails .. | _, _, _, _, _, _, .assignmentFails ..
  | _, _, _, _, _, _, .argumentFails .. | _, _, _, _, _, _, .undefinedFunction ..
  | _, _, _, _, _, _, .argumentCount .. | _, _, _, _, _, _, .callDepth ..
  | _, _, _, _, _, _, .entryFails .. => fun _ _ _ _ _ _ ho => by cases ho
  | _, _, _, _, _, _, .definition .. | _, _, _, _, _, _, .assignment .. => fun _ _ hn => by
    have hpure := hn.pure
    simp [Node.isPure] at hpure
  | _, _, _, _, _, _, .comment _ => fun _ _ _ _ v m ho hm => by
    cases ho
    exact ⟨m, .comment rfl, hm⟩
  | _, _, _, _, _, _, .reference _ => fun h hσ _ _ v m ho hm => h.reference hσ hm ho
  | _, _, _, _, _, _, .number _ hs => fun h hσ hn _ v m ho hm => by
    subst ho
    have houtside := h.literal hσ (by simpa [Node.unitTexts] using hn.units) hs m
    rw [← literal_memory hs] at hm
    exact ⟨m, .number rfl houtside, hm⟩
  | _, _, _, _, _, _, .unary hroom hs => fun h hσ hn hK v m ho hm => by
    obtain ⟨m', ht, hm'⟩ := hs.inlined h hσ hn.operand (hK.spawned (.operand hroom)) rfl hm
    rw [← ho]
    exact ⟨m', .unary rfl ht, hm'⟩
  | _, _, _, _, _, _, .binary hroom hl hr hs => fun h hσ hn hK v m ho hm => by
    obtain ⟨hnl, hnr⟩ := hn.operands
    have hσ₁ := hσ.trans (hl.traceless (h.traceless_of_only hσ) hnl)
    obtain ⟨m₁, htl, hm₁⟩ := hl.inlined h hσ hnl (hK.spawned (.left hroom)) rfl hm
    obtain ⟨m₂, htr, hm₂⟩ := hr.inlined h hσ₁ hnr (hK.spawned (.right hroom hl)) rfl hm₁
    have hasked := fun q hq => hK q ⟨_, _, _, _, _, .refl, .binary hroom hl hr, hq⟩
    subst ho
    have hσ₂ := hσ₁.trans (hr.traceless (h.traceless_of_only hσ₁) hnr)
    obtain ⟨m₃, ht, hm₃⟩ := h.operate hσ₂ hs hasked hm₂
    exact ⟨m₃, .binary rfl htl htr ht, hm₃⟩
  | _, _, _, _, _, _, .builtin hroom hs hf => fun h hσ hn hK v m ho hm => by
    obtain ⟨m', ht, hm'⟩ := hs.inlined h hσ hn.argument
      (fun q hq => hK q (.of_arguments hroom hq)) rfl hm
    rw [← ho]
    exact ⟨m', .builtin rfl ht hf, hm'⟩
  | _, _, _, _, _, _, .call hroom hs hbuiltin hf hcount hadmits hbody =>
    fun h hσ hn hK v m ho hm => by
    have hσ₁ := hσ.trans (hs.traceless (h.traceless_of_only hσ) hn.argument)
    obtain ⟨m₁, ht, hm₁⟩ := hs.inlined h hσ hn.argument
      (fun q hq => hK q (.of_arguments hroom hq)) rfl hm
    have hg := (callee?_of_not_builtin hbuiltin).trans hf
    subst ho
    -- the arguments are substituted, but the body of the inner call is not: it sees its own frame
    obtain ⟨m₂, htbody, hm₂⟩ := h.body hσ₁ hn.callee hg hcount hbody
      (hK.spawned (.body hroom hs hbuiltin hf hcount hadmits)) hm₁
    have hf' := ((h.agreement hσ₁ m₁).function?_eq hn.callee hbuiltin).trans hf
    exact ⟨m₂, (Evaluates.callReturns Room.deeper_unlimited ht hbuiltin hf' hcount rfl htbody :), hm₂⟩

theorem EvaluatesAll.inlined {K : Question → Prop} {R : Memory → Memory → Prop} {c : Catalog}
    {N : String → Prop} {s : Session} {f : UserFunction} {arguments : List Node}
    {values : List Value} : ∀ {calls : Nat} {room : Room} {σ σ' : Session} {ns : List Node}
    {o : Except Failure (List Value)}, EvaluatesAll calls room σ ns o σ' →
    Inlines K R c N calls s f arguments values → OnlyMemory (s.enter f values) σ →
    (∀ n ∈ ns, n.Traceless c N) → (∀ q, Task.AsksAny calls room σ ns q → K q) →
    ∀ {vs : List Value} {m : Memory}, o = .ok vs → R σ.catalog.memory m →
    ∃ m', EvaluatesAll (calls + 1) .unlimited (s.prepared m)
      (Node.substituteAll (f.argument? arguments) ns) (.ok vs) (s.prepared m') ∧
      R σ'.catalog.memory m'
  | _, _, _, _, _, _, .nil => fun _ _ _ _ vs m ho hm => by
    cases ho
    exact ⟨m, .nil, hm⟩
  | _, _, _, _, _, _, .headFails _ | _, _, _, _, _, _, .tailFails .. => fun _ _ _ _ _ _ ho => by
    cases ho
  | _, _, _, _, _, _, .cons hs hrest => fun h hσ hns hK vs m ho hm => by
    cases ho
    obtain ⟨hn, hns⟩ := List.forall_mem_cons.mp hns
    have hσ₁ := hσ.trans (hs.traceless (h.traceless_of_only hσ) hn)
    obtain ⟨m₁, ht, hm₁⟩ := hs.inlined h hσ hn (fun q hq => hK q (.head hq)) rfl hm
    obtain ⟨m₂, htrest, hm₂⟩ := hrest.inlined h hσ₁ hns (fun q hq => hK q (.tail hs hq)) rfl hm₁
    exact ⟨m₂, .cons ht htrest, hm₂⟩

end

/-! ### Arguments -/

/-- The memories answer the questions in `K` of a call alike, and the second one answers the questions
in `A` of its arguments as at the start. Those in `D` are about products that are new then. -/
structure Alongside (D A K : Question → Prop) (start m m' : Memory) : Prop where
  alike : m.Matches D K m'
  arguments : start.Matches D A m'

section Arguments

variable {D A K : Question → Prop} {start : Memory}
  (hclash : ∀ q r, D q → K r → ¬q.Clash r) (hmet : ∀ q, A q → ¬D q → start.HasMet q)
include hclash hmet

theorem alongside_congruence : Memory.Congruence K (Alongside D A K start) where
  form := fun h hu => h.alike.firstForm_eq hu
  noted := fun h hq => ⟨h.alike.noted hclash hq, h.arguments.noted_of_hasMet hclash hmet hq⟩

variable (hsub : ∀ q, A q → K q)
include hsub

/-- A question that comes up in an argument may be asked of one memory alone: it is in `D`, or it is
about a product that has been met. -/
theorem noted_argument {m m' : Memory} {q : Question} (h : m.Matches D K m')
    (hstart : start.Matches D A m') (hq : A q) : m.Matches D K (m'.noted q) := by
  by_cases hD : D q
  · exact h.noted_right hclash hD (hsub q hq)
  · rw [Memory.noted_of_hasMet (hstart.hasMet hq hD (hmet q hq hD))]
    exact h

/-- Wherever an argument is evaluated, that keeps the memory alongside the one of the call. -/
theorem argument_congruence (m : Memory) :
    Memory.Congruence A fun x y => x.Matches D A y ∧ Alongside D A K start m y where
  form := fun h hu => h.1.firstForm_eq hu
  noted := fun h hq => ⟨h.1.noted (fun q r hq hr => hclash q r hq (hsub r hr)) hq,
    noted_argument hclash hmet hsub h.2.alike h.2.arguments hq,
    h.2.arguments.noted_of_hasMet hclash hmet (hsub _ hq)⟩

variable {c : Catalog} {N : String → Prop} {calls : Nat} {room : Room} {s t t' : Session}

theorem Evaluates.stands {n : Node} {v : Value} (h : Evaluates calls room t n (.ok v) t')
    (hs : s.Traceless c N) (ht : OnlyMemory s t) (hn : n.Traceless c N)
    (hA : Task.AsksOnly A ⟨calls, room, t, n⟩) (hstart : start.Matches D K t.catalog.memory) :
    Stands (Alongside D A K start) calls s n v := by
  intro m m' hm
  have ht' := ht.trans (h.traceless (hs.after ht) hn)
  obtain ⟨m'', h', -, hm''⟩ := h.congruent (argument_congruence hclash hmet hsub m)
    ((hs.after ht).tame hn hA) ⟨(hstart.mono hsub).symm.trans hm.arguments, hm⟩
  rw [ht.prepared, ht'.prepared] at h'
  exact ⟨m'', h'.unlimited.resolve_left (by simp), hm''⟩

/-- **Each argument of a call stands for its value**, and together they teach the memory only what is
asked in arguments. -/
theorem EvaluatesAll.stand (hs : s.Traceless c N) : ∀ {ns : List Node} {vs : List Value}
    {t : Session}, EvaluatesAll calls room t ns (.ok vs) t' → OnlyMemory s t →
    (∀ n ∈ ns, n.Traceless c N) → (∀ q, Task.AsksAny calls room t ns q → A q) →
    start.Matches D K t.catalog.memory →
    List.Forall₂ (Stands (Alongside D A K start) calls s) ns vs ∧
      start.Matches D K t'.catalog.memory := by
  intro ns
  induction ns with
  | nil =>
    intro vs t h _ _ _ hstart
    cases h
    exact ⟨.nil, hstart⟩
  | cons n rest ih =>
    intro vs t h ht hns hA hstart
    obtain ⟨hn, hrest⟩ := List.forall_mem_cons.mp hns
    cases h with
    | cons h hall =>
      have hask : Task.AsksOnly A ⟨calls, room, t, n⟩ := fun q hq => hA q (.head hq)
      have hafter := h.keeps_memory
        (fun hm hq => noted_argument hclash hmet hsub hm (hm.mono hsub) hq)
        ((hs.after ht).tame hn hask) hstart
      obtain ⟨hstand, hend⟩ := ih hall (ht.trans (h.traceless (hs.after ht) hn)) hrest
        (fun q hq => hA q (.tail h hq)) hafter
      exact ⟨.cons (h.stands hclash hmet hsub hs ht hn hask hstart) hstand, hend⟩

end Arguments

/-! ### Whole calls -/

/-- A call of a user function that has a value is a call of its body. -/
theorem Evaluates.call_cases {calls : Nat} {room : Room} {s s' : Session} {name : String}
    {arguments : List Node} {span : Span} {o : Except Failure Value} {v : Value}
    (h : Evaluates calls room s (.call name arguments span) o s') (ho : o = .ok v)
    (hbuiltin : Builtin.ofName? name = none) :
    ∃ k inner s₁ s₂ f values, calls = k + 1 ∧ room.deeper = some inner ∧
      EvaluatesAll (k + 1) inner s arguments (.ok values) s₁ ∧ s₁.function? name = some f ∧
      f.parameters.length = values.length ∧ inner.admits s₁.context.depth = true ∧
      Evaluates k inner (s₁.enter f values) f.body (.ok v) s₂ := by
  cases h with
  | call hroom hall _ hf hcount hadmits hbody =>
    subst ho
    exact ⟨_, _, _, _, _, _, rfl, hroom, hall, hf, hcount, hadmits, hbody⟩
  | builtin _ _ hf =>
    rw [hbuiltin] at hf
    cases hf
  | tooDeep _ | argumentFails _ _ | undefinedFunction _ _ _ _ | argumentCount _ _ _ _ _
  | callDepth _ _ _ _ _ | entryFails _ _ _ _ _ _ => cases ho

/-- In the global frame, the body with the arguments in place of the parameters has the value of the
call, if nothing limits how deep it is nested. -/
theorem Evaluates.call_inlined {c : Catalog} {N : String → Prop} {calls : Nat} {room : Room}
    {s s' : Session} {name : String} {arguments : List Node} {span : Span} {f : UserFunction}
    {o : Except Failure Value} {v : Value}
    (h : Evaluates calls room s (.call name arguments span) o s')
    (ho : o = .ok v) (hglobal : s.context.current = none) (hf : s.callee? name = some f)
    (hs : s.Traceless c N) (hcall : (Node.call name arguments span).Traceless c N)
    (hclash : ∀ inner, room.deeper = some inner → ∀ q r, Task.AsksAny calls inner s arguments q →
      ¬s.catalog.memory.HasMet q → Task.Asks ⟨calls, room, s, .call name arguments span⟩ r →
      ¬q.Clash r) :
    ∃ t, Evaluates calls .unlimited (s.prepared s.catalog.memory) (f.inlined arguments) (.ok v) t := by
  obtain ⟨hbuiltin, hfunction⟩ := callee?_eq_some hf
  obtain ⟨k, inner, s₁, s₂, g, values, rfl, hroom, hall, hg, hcount, hadmits, hbody⟩ :=
    h.call_cases ho hbuiltin
  -- `A` are the questions of the arguments, `D` those of them that are new
  let A := Task.AsksAny (k + 1) inner s arguments
  let D := fun q => A q ∧ ¬s.catalog.memory.HasMet q
  have hclash : ∀ q r, D q → Task.Asks ⟨k + 1, room, s, .call name arguments span⟩ r → ¬q.Clash r :=
    fun q r hq => hclash inner hroom q r hq.1 hq.2
  have hmet : ∀ q, A q → ¬D q → s.catalog.memory.HasMet q :=
    fun q hq hD => Classical.byContradiction fun hnew => hD ⟨hq, hnew⟩
  have hsub : ∀ q, A q → Task.Asks ⟨k + 1, room, s, .call name arguments span⟩ q :=
    fun _ hq => Task.Asks.of_arguments hroom hq
  have hs₁ := hall.traceless hs hcall.argument
  -- the arguments store no function, so the one that is called was there before
  obtain rfl : f = g := by
    unfold function? at hg
    rw [hs₁.bindings.2] at hg
    exact Option.some.inj (hfunction.symm.trans hg)
  obtain ⟨hstand, hstart⟩ := hall.stand hclash hmet hsub hs (.refl s) hcall.argument (fun _ hq => hq)
    (.refl s.catalog.memory)
  have hinlines : Inlines _ _ c N k s f arguments values :=
    ⟨alongside_congruence hclash hmet, hglobal, hs, hstand⟩
  have hentered : OnlyMemory (s.enter f values) (s₁.enter f values) := hs₁.enter f values
  have hasks : Task.AsksOnly (Task.Asks ⟨k + 1, room, s, .call name arguments span⟩)
      ⟨k, inner, s₁.enter f values, f.body⟩ :=
    fun _ hq => hq.of_spawns (.body hroom hall hbuiltin hg hcount hadmits)
  obtain ⟨m, hinlined, -⟩ := hbody.inlined hinlines hentered
    (hs.body name f hcall.callee hf) hasks rfl
    (⟨by rw [catalog_enter]; exact hstart.symm, .refl _⟩ :
      Alongside D A _ s.catalog.memory _ s.catalog.memory)
  exact ⟨_, hinlined⟩

/-- **A call that succeeds has the value of the body with the arguments in place of the parameters.**
In the global frame, let neither the arguments nor the bodies of functions that can be called have an
assignment or a definition in them, let their unit texts leave the known units as they are, and let no
question about a new product of units that comes up in the arguments clash with one that comes up in
the call. If the call has a value, then so has the body with the arguments in place of the parameters,
and it is the same, unless that is nested too deeply. -/
theorem evaluate_inlined {s : Session} (limits : Limits) {name : String} {arguments : List Node}
    {span : Span} {f : UserFunction} {v : Value} (hglobal : s.context.isGlobal = true)
    (hf : s.callee? name = some f)
    (harguments : ∀ n ∈ arguments, n.isPure = true ∧ ∀ t ∈ n.unitTexts, s.catalog.Settles t)
    (hbodies : ∀ callee g, s.CanCall (.call name arguments span) callee →
      s.callee? callee = some g → g.body.isPure = true ∧ ∀ t ∈ g.body.unitTexts, s.catalog.Settles t)
    (hclash : ∀ inner, limits.nesting.deeper = some inner → ∀ q r,
      Task.AsksAny (s.callsLeft limits) inner s arguments q → ¬s.catalog.memory.HasMet q →
      (s.task limits (.call name arguments span)).Asks r → ¬q.Clash r)
    (h : (s.evaluate limits (.call name arguments span)).1 = .ok (.value v)) :
    (s.evaluate limits (f.inlined arguments)).1 = .ok (.value v) ∨
      (s.evaluate limits (f.inlined arguments)).1 = .ok (.ofError .nesting) := by
  have htraceless : s.Traceless s.catalog (s.CanCall (.call name arguments span)) := by
    refine ⟨.refl _, fun callee g hcallee hg => ?_⟩
    obtain ⟨hpure, hunits⟩ := hbodies callee g hcallee hg
    exact ⟨hpure, fun _ hx => hcallee.through hg hx, hunits⟩
  have hcall : (Node.call name arguments span).Traceless s.catalog
      (s.CanCall (.call name arguments span)) := by
    refine ⟨?_, fun _ hx => .direct hx, fun t ht => ?_⟩
    · rw [Node.isPure, Node.arePure_iff]
      exact fun n hn => (harguments n hn).1
    · rw [Node.unitTexts] at ht
      obtain ⟨n, hn, ht⟩ := Node.mem_unitTextsAll.mp ht
      exact (harguments n hn).2 t ht
  have hinlinedTraceless : (f.inlined arguments).Traceless s.catalog
      (s.CanCall (.call name arguments span)) :=
    .substitute (fun _ n hn => hcall.argument n (f.mem_of_argument? hn))
      (htraceless.body name f hcall.callee hf)
  rcases hevaluate : s.evaluate limits (.call name arguments span) with ⟨r, s'⟩
  rw [hevaluate] at h
  obtain ⟨o, hrun, ⟨w, ho, hw⟩ | ⟨-, hno⟩⟩ := exists_evaluates hevaluate
  · cases h.symm.trans hw
    obtain ⟨t, hinlined⟩ := hrun.call_inlined ho (Option.isNone_iff_eq_none.mp hglobal) hf htraceless
      hcall hclash
    -- the evaluation within the limit is nested too deeply, or it goes the same way without it and
    -- with the spellings gathered
    rcases heval : eval (s.callsLeft limits) limits.nesting s (f.inlined arguments) with ⟨o', t'⟩
    unfold evaluate
    rw [heval]
    rcases (eval_evaluates heval).unlimited with rfl | hunlimited
    · exact .inr rfl
    · obtain ⟨m, hprepared, -⟩ := hunlimited.congruent
        (Memory.congruence_of_preserved (K := fun _ => True) (P := fun _ => True) fun _ _ => trivial)
        (htraceless.tame hinlinedTraceless fun _ _ => trivial) ⟨rfl, trivial⟩
      have hsame := hprepared.eval_eq.symm.trans hinlined.eval_eq
      cases (Prod.mk.inj hsame).1
      exact .inl rfl
  · exact absurd h (hno v)

open Unit.Known

/-- `f(d, 1)` with `f(x, y) = X + x` has the value of `d + d`. -/
theorem evaluate_inlined_of_double :
    let f : UserFunction :=
      ⟨"f", ["x", "y"], .binary (.reference "X" .nowhere) "+" (.reference "x" .nowhere) .nowhere⟩
    let s : Session :=
      { (fresh .standard).bind "d" (.quantity ⟨2, [(meter, 1)]⟩) with functions := [("f", f)] }
    let arguments : List Node := [.reference "d" .nowhere, .number 1 none .nowhere]
    let call : Node := .call "f" arguments .nowhere
    (∀ n ∈ arguments, n.isPure = true ∧ ∀ t ∈ n.unitTexts, s.catalog.Settles t) ∧
      (∀ callee g, s.CanCall call callee → s.callee? callee = some g →
        g.body.isPure = true ∧ ∀ t ∈ g.body.unitTexts, s.catalog.Settles t) ∧
      (∀ room q, ¬Task.AsksAny (s.callsLeft .standard) room s arguments q) ∧
      ∃ v, (s.evaluate .standard call).1 = .ok (.value v) ∧
        ((s.evaluate .standard (f.inlined arguments)).1 = .ok (.value v) ∨
          (s.evaluate .standard (f.inlined arguments)).1 = .ok (.ofError .nesting)) := by
  intro f s arguments call
  have harguments : ∀ n ∈ arguments, n.isPure = true ∧ ∀ t ∈ n.unitTexts, s.catalog.Settles t := by
    simp [arguments, Node.isPure, Node.unitTexts]
  have hbodies : ∀ callee g, s.CanCall call callee → s.callee? callee = some g →
      g.body.isPure = true ∧ ∀ t ∈ g.body.unitTexts, s.catalog.Settles t := by
    intro callee g _ hg
    obtain rfl := eq_of_callee? (rfl : s.functions = [("f", f)]) hg
    simp [f, Node.isPure, Node.unitTexts]
  have hasks : ∀ room q, ¬Task.AsksAny (s.callsLeft .standard) room s arguments q := by
    rintro room q ⟨before, n, after, values, s', hsplit, -, hq⟩
    have hn : n ∈ arguments := hsplit ▸ List.mem_append_right _ List.mem_cons_self
    simp only [arguments, List.mem_cons, List.not_mem_nil, or_false] at hn
    rcases hn with rfl | rfl
    all_goals exact Task.not_asks_of_idle (by rintro u ⟨⟩) (by rintro operator l r s ⟨⟩) hq
  have hbuiltin : Builtin.ofName? "f" = none := by decide
  obtain ⟨v, hsum⟩ := exists_operate
    (rfl : (s.enter f [.quantity ⟨2, [(meter, 1)]⟩, .number 1]).catalog.memory = .empty)
    (by decide +kernel : (Arithmetic.binary .empty "+" (.quantity ⟨2, [(meter, 1)]⟩)
      (.quantity ⟨2, [(meter, 1)]⟩)).1.isOk = true)
  have hcall : Evaluates (s.callsLeft .standard) Limits.standard.nesting s call (.ok v) _ :=
    .call rfl (.cons (.reference rfl) (.cons (.number rfl rfl) .nil)) hbuiltin rfl rfl rfl
      (.binary rfl (.reference rfl) (.reference rfl) hsum)
  have h : (s.evaluate .standard call).1 = .ok (.value v) := by
    unfold evaluate
    rw [hcall.eval_eq]
  exact ⟨harguments, hbodies, hasks, v, h, evaluate_inlined .standard rfl rfl harguments hbodies
    (fun _ _ _ _ hq => absurd hq (hasks _ _)) h⟩

/-! ### Clashes -/

/-- A product of units that is a length if its exponents are added up in this order. -/
def orderedLength : Units := [(mile, .float 0.1), (yard, .float 0.7), (foot, .float 0.2)]

/-- The same product in another order, in which the sum of the exponents is less than one. -/
def reorderedLength : Units := [(yard, .float 0.7), (foot, .float 0.2), (mile, .float 0.1)]

/-- One of the product in the first order. -/
def ordered : Value := .quantity ⟨1, orderedLength⟩

/-- One of the product in the other order. -/
def reordered : Value := .quantity ⟨1, reorderedLength⟩

/-- One meter times the product in the first order. -/
def orderedArea : Value := .quantity ⟨1, orderedLength ++ [(meter, 1)]⟩

/-- The function `f(x, y) = y`. -/
def secondOf : UserFunction := ⟨"f", ["x", "y"], .reference "y" .nowhere⟩

theorem inlined_secondOf (a b : Node) : secondOf.inlined [a, b] = b := by
  have hargument : secondOf.argument? [a, b] "y" = some b := by
    simp [secondOf, UserFunction.argument?]
  unfold UserFunction.inlined
  show (Node.reference "y" .nowhere).substitute _ = b
  rw [Node.substitute, hargument, Option.getD_some]

/-- A session that has the products and the function. -/
def clashing : Session :=
  { (((fresh .standard).bind "p" ordered).bind "q" reordered).bind "w" orderedArea with
    functions := [("f", secondOf)] }

/-- The sum `p + p`. -/
def orderedSum : Node := .binary (.reference "p" .nowhere) "+" (.reference "p" .nowhere) .nowhere

/-- The quotient `w / q`. -/
def clashingQuotient : Node :=
  .binary (.reference "w" .nowhere) "/" (.reference "q" .nowhere) .nowhere

/-- After `p + p` has been worked out, `w / q` has a value. -/
theorem exists_evaluate_call :
    ∃ v, (clashing.evaluate .standard (.call "f" [orderedSum, clashingQuotient] .nowhere)).1 =
      .ok (.value v) := by
  let m := (Arithmetic.binary .empty "+" ordered ordered).2
  have hmemory : ∀ m, (clashing.withMemory m).catalog.memory = m := fun _ => rfl
  obtain ⟨x, hsum⟩ := exists_operate (rfl : clashing.catalog.memory = .empty)
    (by decide +kernel : (Arithmetic.binary .empty "+" ordered ordered).1.isOk = true)
  obtain ⟨v, hquotient⟩ := exists_operate (hmemory m)
    (by decide +kernel : (Arithmetic.binary m "/" orderedArea reordered).1.isOk = true)
  let inner : Room := ⟨some 999, Limits.standard.nesting.entry⟩
  have hfirst : Evaluates 50 inner clashing orderedSum (.ok x) (clashing.withMemory m) :=
    .binary rfl (.reference rfl) (.reference rfl) hsum
  have hsecond : Evaluates 50 inner (clashing.withMemory m) clashingQuotient (.ok v) _ :=
    .binary rfl (.reference rfl) (.reference rfl) hquotient
  have hbuiltin : Builtin.ofName? "f" = none := by decide
  have hcall : Evaluates (clashing.callsLeft .standard) Limits.standard.nesting clashing
      (.call "f" [orderedSum, clashingQuotient] .nowhere) (.ok v) _ :=
    .call rfl (.cons hfirst (.cons hsecond .nil)) hbuiltin rfl rfl rfl (.reference rfl)
  refine ⟨v, ?_⟩
  unfold evaluate
  rw [hcall.eval_eq]

/-- On its own `w / q` is refused. -/
theorem evaluate_quotient : ∃ message, (clashing.evaluate .standard clashingQuotient).1 =
    .ok (.error message .unsupportedOperator) := by
  have hkind : (match (Arithmetic.binary .empty "/" orderedArea reordered).1 with
      | .error (.error e) => some e.kind
      | _ => none) = some ErrorKind.unsupportedOperator := by decide +kernel
  rcases hbinary : Arithmetic.binary .empty "/" orderedArea reordered with ⟨(e | a) | v, m⟩ <;>
    rw [hbinary] at hkind
  · have hkind : e.kind = .unsupportedOperator := Option.some.inj hkind
    have hrefused : clashing.operate "/" orderedArea reordered =
        (.error (.error e), clashing.withMemory m) := by
      unfold operate
      rw [show clashing.catalog.memory = .empty from rfl, hbinary]
      rfl
    have hfails : Evaluates (clashing.callsLeft .standard) Limits.standard.nesting clashing
        clashingQuotient (.error (.error e)) _ :=
      .binary rfl (.reference rfl) (.reference rfl) hrefused
    obtain ⟨message, he⟩ := Result.ofError_eq e
    refine ⟨some message, ?_⟩
    unfold evaluate
    rw [hfails.eval_eq]
    simp only
    rw [he, hkind]
  · cases hkind
  · cases hkind

/-- **Without the condition on clashes, a call need not have the value of its body**: with
`f(x, y) = y`, the first argument of `f(p + p, w / q)` makes known a product of units in the order in
which its dimension is a length, and `w / q` alone has it in the other order. -/
theorem inlined_fails_at_clash :
    ¬∀ (s : Session) (limits : Limits) (name : String) (arguments : List Node) (span : Span)
      (f : UserFunction) (v : Value), s.context.isGlobal = true → s.callee? name = some f →
      (∀ n ∈ arguments, n.isPure = true ∧ ∀ t ∈ n.unitTexts, s.catalog.Settles t) →
      (∀ callee g, s.CanCall (.call name arguments span) callee → s.callee? callee = some g →
        g.body.isPure = true ∧ ∀ t ∈ g.body.unitTexts, s.catalog.Settles t) →
      (s.evaluate limits (.call name arguments span)).1 = .ok (.value v) →
      (s.evaluate limits (f.inlined arguments)).1 = .ok (.value v) ∨
        (s.evaluate limits (f.inlined arguments)).1 = .ok (.ofError .nesting) := by
  intro hclaim
  have harguments : ∀ n ∈ [orderedSum, clashingQuotient],
      n.isPure = true ∧ ∀ t ∈ n.unitTexts, clashing.catalog.Settles t := by
    simp [orderedSum, clashingQuotient, Node.isPure, Node.unitTexts]
  have hbodies : ∀ callee g,
      clashing.CanCall (.call "f" [orderedSum, clashingQuotient] .nowhere) callee →
      clashing.callee? callee = some g →
      g.body.isPure = true ∧ ∀ t ∈ g.body.unitTexts, clashing.catalog.Settles t := by
    intro callee g _ hg
    obtain rfl := eq_of_callee? (rfl : clashing.functions = [("f", secondOf)]) hg
    simp [secondOf, Node.isPure, Node.unitTexts]
  obtain ⟨v, hvalue⟩ := exists_evaluate_call
  obtain ⟨message, hrefused⟩ := evaluate_quotient
  have hinlined := hclaim clashing .standard "f" _ .nowhere secondOf v rfl rfl harguments hbodies
    hvalue
  rw [inlined_secondOf, hrefused] at hinlined
  rcases hinlined with hsame | hnesting
  · cases hsame
  · obtain ⟨_, hn⟩ := Result.ofError_eq .nesting
    rw [hn] at hnesting
    cases hnesting

end Session

end Reckon
