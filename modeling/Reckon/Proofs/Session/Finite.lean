import Reckon.Proofs.Decimal.Bits
import Reckon.Proofs.Document.Inert
import Reckon.Proofs.Node
import Reckon.Proofs.Session.Depth
import Reckon.Proofs.Session.Frames

/-!
# Infinity and NaN come from literals only

A session that is given finite numbers never holds or answers anything else
(`history_finite`).

* Operators and built-in functions check what they return, except for signs in front of numbers. The
  opposite of a finite number is finite, so it needs no check (`Arithmetic.unary_isFinite`).
* Evaluation takes all other values from literals, variables and arguments. So it preserves that all
  bound values and all literals in function bodies are finite (`Evaluates.isFinite`), and this holds
  at every moment of it (`Task.IsFinite.passes`).
-/

namespace Reckon

/-- The number, or the number of units, is finite. -/
def Value.IsFinite (v : Value) : Prop := v.magnitude.isFinite = true

theorem Value.isFinite_zero : (Value.number 0).IsFinite := rfl

namespace Node

/-- All numbers that are written in a node are finite. -/
def IsFinite (n : Node) : Prop := ∀ x ∈ n.literals, x.isFinite = true

theorem IsFinite.child {n k : Node} (hn : n.IsFinite) (hk : k ∈ n.children) : k.IsFinite :=
  fun x hx => hn x (List.filterMap_subset _ (parts_subset_of_mem_children hk) hx)

end Node

/-! ### Operators and functions -/

namespace Arithmetic

/-- The outcome is no infinite number and no NaN. -/
def Guarded (o : Except Failure Value) : Prop := ∀ v, o = .ok v → v.IsFinite

theorem guarded_error (e : Failure) : Guarded (.error e) := by
  intro v h
  cases h

theorem guarded_check (v : Value) (e : Failure) :
    Guarded (if v.magnitude.isFinite then .ok v else .error e) := by
  split
  · rename_i hfinite
    intro w h
    cases h
    exact hfinite
  · exact guarded_error e

theorem guarded_number (symbol : String) (x : Float) : Guarded (number symbol x) :=
  guarded_check (.number x) _

theorem guarded_quantity (symbol : String) (q : Quantity) : Guarded (quantity symbol q) :=
  guarded_check (.quantity q) _

theorem guarded_composed (symbol : String) (outcome : Except Failure Quantity × Memory) :
    Guarded (composed symbol outcome).1 := by
  obtain ⟨e | q, m⟩ := outcome
  · exact guarded_error e
  · exact guarded_quantity symbol q

theorem guarded_combine (m : Memory) (symbol : String) (operation : Float → Float → Float)
    (left right : Quantity) : Guarded (combine m symbol operation left right).1 := by
  unfold combine
  split
  · exact guarded_error _
  · split
    · split
      · exact guarded_error _
      · exact guarded_error _
      · exact guarded_quantity _ _
    · exact guarded_error _

theorem guarded_divideAlike (m : Memory) (left right : Quantity) (l r : Dimension) :
    Guarded (divideAlike m left right l r).1 := by
  unfold divideAlike
  split
  · exact guarded_error _
  · exact guarded_error _
  · split
    · exact guarded_error _
    · exact guarded_quantity _ _

theorem guarded_divideQuantities (m : Memory) (left right : Quantity) :
    Guarded (divideQuantities m left right).1 := by
  unfold divideQuantities
  split
  · exact guarded_error _
  · split
    · exact guarded_divideAlike _ _ _ _ _
    · split
      · exact guarded_error _
      · exact guarded_composed _ _

theorem Guarded.ite {o o' : Except Failure Value} {p : Prop} [Decidable p] (h : Guarded o)
    (h' : Guarded o') : Guarded (if p then o else o') := by
  split
  · exact h
  · exact h'

theorem guarded_apply (m : Memory) :
    ∀ (op : Operator) (left right : Value), Guarded (apply m op left right).1
  | .add, .number _, .number _ | .subtract, .number _, .number _ | .multiply, .number _, .number _
  | .power, .number _, .number _ => guarded_number _ _
  | .divide, .number _, .number _ => (guarded_error _).ite (guarded_number _ _)
  | .add, .quantity _, .quantity _ | .subtract, .quantity _, .quantity _ =>
    guarded_combine _ _ _ _ _
  | .multiply, .quantity _, .quantity _ => guarded_composed _ _
  | .divide, .quantity _, .quantity _ => guarded_divideQuantities _ _ _
  | .multiply, .quantity _, .number _ | .multiply, .number _, .quantity _ => guarded_quantity _ _
  | .divide, .quantity _, .number _ => (guarded_error _).ite (guarded_quantity _ _)
  | .add, .number _, .quantity _ | .add, .quantity _, .number _ | .subtract, .number _, .quantity _
  | .subtract, .quantity _, .number _ | .divide, .number _, .quantity _
  | .power, .number _, .quantity _ | .power, .quantity _, _ => guarded_error _

/-- **Every operator checks its result.** -/
theorem guarded_binary (m : Memory) (symbol : String) (left right : Value) :
    Guarded (binary m symbol left right).1 := by
  unfold binary
  split
  · exact guarded_apply _ _ _ _
  · exact guarded_error _

/-- **A sign in front of a finite value gives a finite value**, although that of a number is not
checked. -/
theorem unary_isFinite {symbol : String} {v w : Value} (hv : v.IsFinite)
    (h : unary symbol v = .ok w) : w.IsFinite := by
  unfold unary at h
  split at h
  · cases h
    exact hv
  · split at h
    · cases v with
      | number x =>
        cases h
        exact (Decimal.isFinite_neg x).trans hv
      | quantity q => exact guarded_quantity _ _ w h
    · cases h

end Arithmetic

/-- **Every function checks its result.** -/
theorem Builtin.call_isFinite {f : Builtin} {arguments : List Value} {v : Value}
    (h : f.call arguments = .ok v) : v.IsFinite := by
  unfold call at h
  split at h
  · split at h
    · cases h
    · split at h
      · cases h
      · simp only at h
        split at h
        · rename_i hfinite
          cases h
          exact hfinite
        · cases h
  · cases h

namespace Session

/-- All bound values and all numbers that are written in function bodies are finite. -/
structure IsFinite (s : Session) : Prop where
  frames : s.context.Frames fun b => ∀ binding ∈ Table.values b, binding.value.IsFinite
  bodies : ∀ f ∈ s.userFunctions, f.body.IsFinite

/-! ### One step of an evaluation -/

section IsFinite

variable {s s' : Session} {o : Except Failure Value} {name : String} {v : Value}

theorem IsFinite.fetch (hs : s.IsFinite) (h : s.fetch name = .ok v) : v.IsFinite := by
  unfold Session.fetch at h
  split at h
  · rename_i hget
    cases h
    refine hs.frames.get? (fun b hb hvalue => ?_) hget
    obtain ⟨binding, hbinding, rfl⟩ := Option.map_eq_some_iff.mp hvalue
    exact hb binding (Table.mem_values_of_get? hbinding)
  · cases h

theorem IsFinite.bind (hs : s.IsFinite) (name : String) (hv : v.IsFinite) :
    (s.bind name v).IsFinite := by
  refine ⟨hs.frames.set fun b hb binding hbinding => ?_, hs.bodies⟩
  rcases Table.mem_values_insert hbinding with rfl | h
  · exact hv
  · exact hb binding h

theorem IsFinite.bindAll {bindings : List (String × Value)} : ∀ {s : Session}, s.IsFinite →
    (∀ b ∈ bindings, b.2.IsFinite) → (s.bindAll bindings).IsFinite := by
  induction bindings with
  | nil => exact fun hs _ => hs
  | cons b rest ih =>
    intro s hs hbindings
    obtain ⟨hb, hrest⟩ := List.forall_mem_cons.mp hbindings
    exact ih (hs.bind b.1 hb) hrest

theorem IsFinite.opened (hs : s.IsFinite) (name : String) :
    ({ s with context := s.context.enter name } : Session).IsFinite :=
  ⟨hs.frames.enter (fun _ h => nomatch h) name, hs.bodies⟩

theorem IsFinite.enter (hs : s.IsFinite) (f : UserFunction) {arguments : List Value}
    (harguments : ∀ v ∈ arguments, v.IsFinite) : (s.enter f arguments).IsFinite :=
  (hs.opened f.name).bindAll fun _ hb => harguments _ (List.of_mem_zip hb).2

theorem IsFinite.begin (hs : s.IsFinite) (f : UserFunction) : (s.begin f).IsFinite :=
  ⟨hs.frames.begin (fun _ h => nomatch h) f.name, hs.bodies⟩

theorem IsFinite.leave (hs : s.IsFinite) : s.leave.IsFinite := ⟨hs.frames.leave, hs.bodies⟩

theorem IsFinite.body (hs : s.IsFinite) {f : UserFunction} (h : s.function? name = some f) :
    f.body.IsFinite :=
  hs.bodies f (Table.mem_values_of_get? h)

theorem IsFinite.sameBindings (hs : s.IsFinite) (h : SameBindings s s') : s'.IsFinite where
  frames := by rw [h.1]; exact hs.frames
  bodies := by unfold userFunctions; rw [h.2]; exact hs.bodies

theorem isFinite_of_literal {x : Float} {unit : Option String} (hx : x.isFinite = true)
    (h : s.literal x unit = (.ok v, s')) : v.IsFinite := by
  unfold literal at h
  split at h
  · cases h
    exact hx
  · split at h
    · cases h
      exact hx
    · split at h <;> cases h
      exact hx

theorem IsFinite.define (hs : s.IsFinite) {parameters : List String} {body : Node}
    (hbody : body.IsFinite) (h : s.define name parameters body = (o, s')) : s'.IsFinite := by
  unfold Session.define at h
  split at h <;> cases h
  · exact hs
  · refine ⟨hs.frames, fun f hf => ?_⟩
    rcases Table.mem_values_insert hf with rfl | hf
    · exact hbody
    · exact hs.bodies f hf

theorem isFinite_of_operate {operator : String} {l r : Value}
    (h : s.operate operator l r = (.ok v, s')) : v.IsFinite := by
  refine Arithmetic.guarded_binary s.catalog.memory operator l r v ?_
  exact congrArg Prod.fst h

end IsFinite

/-! ### Evaluations -/

theorem isFinite_produces : Produces Node.IsFinite IsFinite Value.IsFinite where
  literal hn _ h := isFinite_of_literal (hn _ List.mem_cons_self) h
  fetch hs h := hs.fetch h
  zero := Value.isFinite_zero
  unary hv h := Arithmetic.unary_isFinite hv h
  operate _ _ _ h := isFinite_of_operate h
  builtin _ h := Builtin.call_isFinite h

theorem isFinite_guarantee : Guarantee Node.IsFinite IsFinite Value.IsFinite
    (fun s s' => s.IsFinite → s'.IsFinite) (fun s s' => s.IsFinite → s'.IsFinite) where
  values := isFinite_produces
  refl _ := id
  trans h h' hs := h' (h hs)
  keeps hs h := h hs
  child hn hk := hn.child hk
  body _ hs _ hf := hs.body hf
  literal _ _ h hs := hs.sameBindings (sameBindings_of_literal h)
  define hn _ h hs := hs.define (hn.child (by simp [Node.children])) h
  bind _ _ hv hs := hs.bind _ hv
  operate _ _ _ h hs := hs.sameBindings (sameBindings_of_operate h)
  enter hs hvs := hs.enter _ hvs
  leave hs hvs h _ := (h (hs.enter _ hvs)).leave
  begin _ hs := hs.begin _
  after h h' hs := h' (h hs)
  abandon hs hvs h _ := (h (hs.enter _ hvs)).leave

/-- **Evaluation makes finite values of finite ones.** -/
theorem Evaluates.isFinite {calls : Nat} {room : Room} {s s' : Session} {n : Node}
    {o : Except Failure Value} (h : Evaluates calls room s n o s') (hn : n.IsFinite)
    (hs : s.IsFinite) : s'.IsFinite ∧ ∀ v, o = .ok v → v.IsFinite := by
  obtain ⟨hkeeps, hvalue⟩ := h.guarantee isFinite_guarantee hn hs
  exact ⟨hkeeps hs, hvalue⟩

theorem EvaluatesAll.isFinite {calls : Nat} {room : Room} {s s' : Session} {ns : List Node}
    {o : Except Failure (List Value)} (h : EvaluatesAll calls room s ns o s')
    (hns : ∀ n ∈ ns, n.IsFinite) (hs : s.IsFinite) :
    s'.IsFinite ∧ ∀ vs, o = .ok vs → ∀ v ∈ vs, v.IsFinite := by
  obtain ⟨hkeeps, hvalues⟩ := h.guarantee isFinite_guarantee hns hs
  exact ⟨hkeeps hs, hvalues⟩

/-! ### Every moment of an evaluation -/

/-- The task is to evaluate a node with finite literals in a session with finite values. -/
structure Task.IsFinite (t : Task) : Prop where
  session : t.session.IsFinite
  node : t.node.IsFinite

theorem Task.IsFinite.spawned {t u : Task} (h : t.IsFinite) (hu : Spawns t u) : u.IsFinite := by
  obtain ⟨hn, hs⟩ := isFinite_guarantee.spawned hu h.node h.session
  exact ⟨hs, hn⟩

theorem Task.IsFinite.shows {t : Task} {u : Session} (h : t.IsFinite) (hu : t.Shows u) :
    u.IsFinite := by
  obtain ⟨hs, hn⟩ := h
  cases hu with
  | start => exact hs
  | finish heval => exact (heval.isFinite hn hs).1
  | @binding _ _ _ _ _ _ _ _ values f bound rest _ harguments _ _ _ _ hbound =>
    obtain ⟨hs', hvs⟩ := harguments.isFinite (fun _ hk => hn.child hk) hs
    refine (hs'.opened f.name).bindAll fun b hb => hvs _ rfl _ ?_
    have hzip : b ∈ f.parameters.zip values := by
      rw [hbound]
      exact List.mem_append_left _ hb
    exact (List.of_mem_zip hzip).2

/-- **At every moment of a task with finite numbers, all frames have finite values only.** -/
theorem Task.IsFinite.passes {t : Task} {u : Session} (h : t.IsFinite) (hu : t.Passes u) :
    u.IsFinite := by
  obtain ⟨v, hreach, hshows⟩ := hu
  have hv : v.IsFinite := hreach.passes_on Task.IsFinite.spawned h
  exact hv.shows hshows

/-! ### Whole sessions -/

theorem isFinite_fresh (catalog : Catalog) : (fresh catalog).IsFinite :=
  ⟨.empty fun _ h => (nomatch h), fun _ h => nomatch h⟩

theorem IsFinite.clear {s : Session} (hs : s.IsFinite) : s.clear.IsFinite :=
  ⟨hs.frames.reset fun _ h => (nomatch h), fun _ h => nomatch h⟩

theorem isFinite_kept (limits : Limits) : Keeps limits Node.IsFinite IsFinite where
  evaluate := fun {s n} hn hs => by
    obtain ⟨o, h, -⟩ := exists_evaluates (rfl : s.evaluate limits n = _)
    exact (h.isFinite hn hs).1
  clear := IsFinite.clear

theorem IsFinite.undertakes {limits : Limits} {s : Session} {r : Request} {t : Task}
    (hs : s.IsFinite) (hr : ∀ n, r.Holds n → n.IsFinite) (ht : Undertakes limits s r t) :
    t.IsFinite := by
  cases ht with
  | node n => exact ⟨hs, hr n (.node n)⟩
  | text hn => exact ⟨hs, hr _ (.text hn)⟩
  | @line text raw line before after n _ s' _ hlines hbefore _ hn _ =>
    have hmem : (line, raw) ∈ numberedLines text := by
      rw [hlines]
      exact List.mem_append_right _ List.mem_cons_self
    have hs' := (isFinite_kept limits).evaluateLines before (fun l hl n hn => ?_) hs.clear
    · rw [hbefore] at hs'
      exact ⟨hs', hr n (.line hmem hn)⟩
    · have hl' : l ∈ numberedLines text := by
        rw [hlines]
        exact List.mem_append_left _ hl
      exact hr n (.line hl' hn)

/-- The results that a request is answered with: for a document those of its lines, for what ends
without a result none. -/
def answers (limits : Limits) (s : Session) : Request → List Result
  | .text text => (s.evaluateText limits text).1.toOption.toList
  | .node n => (s.evaluate limits n).1.toOption.toList
  | .document text =>
    ((Document.evaluate s limits text).1.map (·.lines.filterMap (·.result))).toOption.getD []
  | .clear => []

theorem eq_ok_of_mem_toOption {o : Except Abort Result} {r : Result}
    (h : r ∈ o.toOption.toList) : o = .ok r := by
  cases o with
  | error a => cases h
  | ok r' => rw [List.mem_singleton.mp h]

theorem evaluates_of_value {limits : Limits} {s : Session} {n : Node} {v : Value}
    (h : (s.evaluate limits n).1 = .ok (.value v)) :
    ∃ s', Evaluates (s.callsLeft limits) limits.nesting s n (.ok v) s' := by
  rcases hrun : s.evaluate limits n with ⟨r, s'⟩
  rw [hrun] at h
  obtain ⟨o, heval, ⟨w, rfl, hw⟩ | ⟨-, hfails⟩⟩ := exists_evaluates hrun
  · cases hw.symm.trans h
    exact ⟨s', heval⟩
  · exact absurd h (hfails v)

/-- A value that is answered is that of an evaluation which the request comes to. -/
theorem exists_undertakes_of_mem_answers {limits : Limits} {s : Session} {r : Request} {v : Value}
    (h : .value v ∈ s.answers limits r) : ∃ t s', Undertakes limits s r t ∧
      Evaluates t.calls t.room t.session t.node (.ok v) s' := by
  cases r with
  | node n =>
    obtain ⟨s', heval⟩ := evaluates_of_value (eq_ok_of_mem_toOption h)
    exact ⟨_, s', .node n, heval⟩
  | text text =>
    have hvalue := eq_ok_of_mem_toOption h
    unfold evaluateText at hvalue
    split at hvalue
    · exact absurd (Except.ok.inj hvalue) (ofMessage_ne_value _ _ v)
    · rename_i n hn
      obtain ⟨s', heval⟩ := evaluates_of_value hvalue
      exact ⟨_, s', .text hn, heval⟩
  | document text =>
    unfold answers Document.evaluate at h
    simp only at h
    split at h
    · cases h
    · rename_i hblank
      split at h
      · cases h
      · rename_i lines s' hrun
        obtain ⟨outcome, houtcome, hresult⟩ := List.mem_filterMap.mp h
        obtain ⟨before, line, raw, after, outcomes, s₁, s₂, hlines, hbefore, hgives⟩ :=
          Document.exists_gives_of_mem _ hrun houtcome
        -- only a line that is evaluated has a value
        cases hgives with
        | blank | comment => cases hresult
        | malformed => exact absurd (Option.some.inj hresult) (ofMessage_ne_value _ _ v)
        | @evaluated n _ _ _ hraw hparse hcomment heval _ =>
          cases hresult
          obtain ⟨s', heval⟩ := evaluates_of_value (congrArg Prod.fst heval)
          have hn : n.isComment = false := by
            cases n with
            | comment text span => exact absurd rfl (hcomment text span)
            | _ => rfl
          exact ⟨_, s', .line (Bool.eq_false_iff.mpr hblank) hlines hbefore hraw hparse hn, heval⟩
  | clear => cases h

/-- **Infinity and NaN can only enter through a literal.** In a session that has been given finite
numbers only, also in function bodies, all values are finite, in whatever frame they are bound. If
what is asked of it next has finite numbers only as well, this holds at every moment of the
evaluations that the request comes to, and all values that are answered are finite. -/
theorem history_finite (limits : Limits) (catalog : Catalog) (steps : List Step)
    (hsteps : ∀ step ∈ steps, ∀ n, step.Holds n → ∀ x ∈ n.literals, x.isFinite = true) :
    let s := history limits catalog steps
    let finite : Bindings → Prop := fun b =>
      ∀ binding ∈ Table.values b, binding.value.magnitude.isFinite = true
    s.context.Frames finite ∧
    ∀ r : Request, (∀ n, r.Holds n → ∀ x ∈ n.literals, x.isFinite = true) →
      (∀ v, .value v ∈ s.answers limits r → v.magnitude.isFinite = true) ∧
      (s.serve limits r).context.Frames finite ∧
      ∀ t u, Undertakes limits s r t → t.Passes u → u.context.Frames finite := by
  intro s finite
  have hs : s.IsFinite := (isFinite_kept limits).history (fun _ hs => ⟨hs.frames, hs.bodies⟩)
    (isFinite_fresh catalog) steps hsteps
  refine ⟨hs.frames, fun r hr => ⟨fun v hv => ?_, ?_, fun t u ht hu => ?_⟩⟩
  · obtain ⟨t, s', ht, heval⟩ := exists_undertakes_of_mem_answers hv
    have htask := hs.undertakes hr ht
    exact (heval.isFinite htask.node htask.session).2 v rfl
  · exact ((isFinite_kept limits).serve hr hs).frames
  · exact ((hs.undertakes hr ht).passes hu).frames

/-- After `x = 1e308`, the answer to `-x` is finite. -/
theorem history_finite_of_large :
    let assignment := Node.assignment "x" (.number 1e308 none .nowhere) .nowhere
    let steps := [Step.request (.node assignment)]
    let r := Request.node (.unary "-" (.reference "x" .nowhere) .nowhere)
    (∀ step ∈ steps, ∀ n, step.Holds n → ∀ x ∈ n.literals, x.isFinite = true) ∧
    (∀ n, r.Holds n → ∀ x ∈ n.literals, x.isFinite = true) ∧
    ∃ v, .value v ∈ (history .standard .standard steps).answers .standard r ∧
      v.magnitude.isFinite = true := by
  intro assignment steps r
  have hsteps : ∀ step ∈ steps, ∀ n, step.Holds n → ∀ x ∈ n.literals, x.isFinite = true := by
    intro step hstep n hn x hx
    obtain rfl := List.mem_singleton.mp hstep
    obtain ⟨⟩ : Request.Holds (.node assignment) n := hn
    have hx : x ∈ [1e308] := by simpa [assignment, Node.literals, Node.parts] using hx
    obtain rfl := List.mem_singleton.mp hx
    decide +kernel
  have hr : ∀ n, r.Holds n → ∀ x ∈ n.literals, x.isFinite = true := by
    intro n hn x hx
    obtain ⟨⟩ : Request.Holds (.node (.unary "-" (.reference "x" .nowhere) .nowhere)) n := hn
    simp [Node.literals, Node.parts] at hx
  have hassigned : Evaluates ((fresh .standard).callsLeft .standard) Limits.standard.nesting
      (fresh .standard) assignment (.ok (.number 1e308))
      ((fresh .standard).bind "x" (.number 1e308)) := .assignment rfl (.number rfl rfl)
  have hs : history .standard .standard steps = (fresh .standard).bind "x" (.number 1e308) := by
    show ((fresh .standard).evaluate .standard assignment).2 = _
    unfold evaluate
    rw [hassigned.eval_eq]
  have hanswer : .value (.number (-1e308)) ∈
      (history .standard .standard steps).answers .standard r := by
    have hfetch : ((fresh .standard).bind "x" (.number 1e308)).fetch "x" = .ok (.number 1e308) := by
      unfold fetch
      rw [show ((fresh .standard).bind "x" (.number 1e308)).context.get? "x" = some (.number 1e308)
        from Context.get?_set_self .empty "x" _]
    have hnegated : Evaluates ((fresh .standard).callsLeft .standard) Limits.standard.nesting
        ((fresh .standard).bind "x" (.number 1e308)) (.unary "-" (.reference "x" .nowhere) .nowhere)
        (Arithmetic.unary "-" (.number 1e308)) ((fresh .standard).bind "x" (.number 1e308)) :=
      .unary rfl (hfetch ▸ .reference rfl)
    rw [hs]
    show _ ∈ (((fresh .standard).bind "x" (.number 1e308)).evaluate .standard
      (.unary "-" (.reference "x" .nowhere) .nowhere)).1.toOption.toList
    unfold evaluate
    have hcalls : ((fresh .standard).bind "x" (.number 1e308)).callsLeft .standard =
        (fresh .standard).callsLeft .standard := rfl
    rw [hcalls, hnegated.eval_eq]
    exact List.mem_singleton_self _
  exact ⟨hsteps, hr, _, hanswer,
    ((history_finite .standard .standard steps hsteps).2 r hr).1 _ hanswer⟩

end Session

end Reckon
