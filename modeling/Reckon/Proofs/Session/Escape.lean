import Reckon.Proofs.Arithmetic
import Reckon.Proofs.Builtin
import Reckon.Proofs.Session.Termination
import Reckon.Proofs.Unit.Resolution

/-!
# What makes an evaluation abort

An evaluation has a result, a value or an error, unless it aborts. A task stumbles if it is to read
the text of a unit that cannot be worked out, or to apply an operator that gives up.

* A task aborts if it stumbles, or if a task aborts that it spawns (`Task.aborts_iff`).
* No task spawns tasks without end. So a task aborts if and only if it reaches one that stumbles
  (`Task.aborts_iff_reaches`).
-/

namespace Reckon.Session

namespace Task

/-- The task ends in an abort. -/
def Aborts (t : Task) (a : Abort) : Prop :=
  ∃ s, Evaluates t.calls t.room t.session t.node (.error (.abort a)) s

/-- The task is to read a number with a unit, and looking the unit up aborts. -/
inductive Misreads : Task → Abort → Prop where
  | number {calls : Nat} {room inner : Room} {s : Session} {x : Float} {text : String}
      {span : Span} {a : Abort} (hroom : room.deeper = some inner) :
      Text.isBlankText text = false → (s.catalog.resolve text).1 = .error (.abort a) →
      Misreads ⟨calls, room, s, .number x (some text) span⟩ a

/-- The task is to apply an operator to two quantities, and the operator gives up. -/
def Balks (t : Task) (a : Abort) : Prop :=
  ∃ symbol p q s op, t.Applies symbol (.quantity p) (.quantity q) s ∧
    Operator.ofText? symbol = some op ∧ Arithmetic.GivesUp s.catalog.memory p q a op

/-- The task itself brings the abort about. -/
def Stumbles (t : Task) (a : Abort) : Prop := t.Misreads a ∨ t.Balks a

end Task

/-! ### Several nodes -/

/-- Several nodes fail because one of them does, after those before it have had values. -/
theorem EvaluatesAll.exists_fails {calls : Nat} {room : Room} {s' : Session} {e : Failure}
    (ns : List Node) : ∀ {s : Session} {o : Except Failure (List Value)},
    EvaluatesAll calls room s ns o s' → o = .error e →
    ∃ before n after values s₁, ns = before ++ n :: after ∧
      EvaluatesAll calls room s before (.ok values) s₁ ∧
      Evaluates calls room s₁ n (.error e) s' := by
  induction ns with
  | nil =>
    intro s o h ho
    cases h
    cases ho
  | cons n rest ih =>
    intro s o h ho
    cases h with
    | headFails hn =>
      cases ho
      exact ⟨[], n, rest, [], s, rfl, .nil, hn⟩
    | tailFails hn hrest =>
      obtain ⟨before, n', after, values, s₁, rfl, hbefore, hfails⟩ := ih hrest ho
      exact ⟨n :: before, n', after, _ :: values, s₁, rfl, .cons hn hbefore, hfails⟩
    | cons hn hrest => cases ho

theorem EvaluatesAll.append_fails {calls : Nat} {room : Room} {s₁ s' : Session} {e : Failure}
    {n : Node} (after : List Node) (hn : Evaluates calls room s₁ n (.error e) s')
    (before : List Node) : ∀ {s : Session} {values : List Value},
    EvaluatesAll calls room s before (.ok values) s₁ →
    EvaluatesAll calls room s (before ++ n :: after) (.error e) s' := by
  induction before with
  | nil =>
    intro s values h
    cases h
    exact .headFails hn
  | cons m before ih =>
    intro s values h
    cases h with
    | cons hm hbefore => exact .tailFails hm (ih hbefore)

/-! ### One step -/

variable {a : Abort}

theorem literal_aborts_iff {s : Session} {x : Float} {unit : Option String} :
    (s.literal x unit).1 = .error (.abort a) ↔
      ∃ text, unit = some text ∧ Text.isBlankText text = false ∧
        (s.catalog.resolve text).1 = .error (.abort a) := by
  cases unit with
  | none => simp [literal]
  | some text =>
    cases hblank : Text.isBlankText text with
    | true => simp [literal, hblank]
    | false =>
      rw [literal_eq_of_text s x (by simp [hblank])]
      rcases hresolve : (s.catalog.resolve text).1 with e | units <;>
        simp [Except.map, hblank, hresolve]

theorem fetch_ne_abort {s : Session} {name : String} : s.fetch name ≠ .error (.abort a) := by
  unfold fetch
  split <;> simp

theorem lift_ne_abort {o : Except EvalError Value} : lift o ≠ .error (.abort a) := by
  cases o <;> exact nofun

theorem define_ne_abort {s s' : Session} {name : String} {parameters : List String} {body : Node} :
    s.define name parameters body ≠ (.error (.abort a), s') := by
  unfold define
  split <;> exact nofun

namespace Task

/-- What stumbles aborts. -/
theorem Stumbles.aborts {t : Task} (h : t.Stumbles a) : t.Aborts a := by
  rcases h with hunit | ⟨symbol, p, q, s, op, happlies, hop, hgives⟩
  · cases hunit with
    | @number _ _ _ s x text _ _ hroom hblank hresolve =>
      have hliteral : (s.literal x (some text)).1 = .error (.abort a) :=
        literal_aborts_iff.mpr ⟨text, rfl, hblank, hresolve⟩
      exact ⟨_, .number hroom (Prod.ext hliteral rfl)⟩
  · cases happlies with
    | binary hroom hl hr =>
      have hbinary := Arithmetic.binary_aborts_iff.mpr ⟨op, p, q, hop, rfl, rfl, hgives⟩
      exact ⟨_, .binary hroom hl hr (Prod.ext hbinary rfl)⟩

/-- A task fails in the way in which a task fails that it spawns. -/
theorem Aborts.of_spawns {t u : Task} (h : Spawns t u) (hu : u.Aborts a) : t.Aborts a := by
  obtain ⟨s', hu⟩ := hu
  cases h with
  | operand hroom => exact ⟨s', .unaryFails hroom hu⟩
  | left hroom => exact ⟨s', .leftFails hroom hu⟩
  | right hroom hl => exact ⟨s', .rightFails hroom hl hu⟩
  | value hroom => exact ⟨s', .assignmentFails hroom hu⟩
  | argument hroom hbefore => exact ⟨s', .argumentFails hroom (.append_fails _ hu _ hbefore)⟩
  | body hroom hargs hbuiltin hf hcount hadmits =>
    exact ⟨s'.leave, .call hroom hargs hbuiltin hf hcount hadmits hu⟩

/-- **A task aborts if it stumbles or if what it spawns aborts**, and for no other reason. -/
theorem aborts_iff {t : Task} :
    t.Aborts a ↔ t.Stumbles a ∨ ∃ u, Spawns t u ∧ u.Aborts a := by
  constructor
  · rintro ⟨s', h⟩
    obtain ⟨calls, room, s, n⟩ := t
    simp only at h
    generalize ho : (Except.error (Failure.abort a) : Except Failure Value) = o at h
    cases h with
    | tooDeep | comment | unknown | assignment | undefinedFunction | argumentCount | callDepth
    | entryFails => cases ho
    | reference => exact absurd ho.symm fetch_ne_abort
    | builtin => exact absurd ho.symm lift_ne_abort
    | unary => exact absurd ho.symm Arithmetic.unary_ne_abort
    | definition _ h =>
      rw [← ho] at h
      exact absurd h define_ne_abort
    | number hroom h =>
      rw [← ho] at h
      obtain ⟨text, rfl, hblank, hresolve⟩ := literal_aborts_iff.mp (congrArg Prod.fst h)
      exact .inl (.inl (.number hroom hblank hresolve))
    | binary hroom hl hr h =>
      rw [← ho] at h
      obtain ⟨op, p, q, hop, rfl, rfl, hgives⟩ :=
        Arithmetic.binary_aborts_iff.mp (congrArg Prod.fst h)
      exact .inl (.inr ⟨_, p, q, _, op, .binary hroom hl hr, hop, hgives⟩)
    | unaryFails hroom h =>
      cases ho
      exact .inr ⟨_, .operand hroom, s', h⟩
    | leftFails hroom h =>
      cases ho
      exact .inr ⟨_, .left hroom, s', h⟩
    | rightFails hroom hl h =>
      cases ho
      exact .inr ⟨_, .right hroom hl, s', h⟩
    | assignmentFails hroom h =>
      cases ho
      exact .inr ⟨_, .value hroom, s', h⟩
    | argumentFails hroom h =>
      cases ho
      -- the argument that aborts is a task in the session that those before it leave
      obtain ⟨before, n, after, values, s₁, rfl, hbefore, hn⟩ := h.exists_fails _ rfl
      exact .inr ⟨_, .argument hroom hbefore, s', hn⟩
    | call hroom hargs hbuiltin hf hcount hadmits hbody =>
      cases ho
      exact .inr ⟨_, .body hroom hargs hbuiltin hf hcount hadmits, _, hbody⟩
  · rintro (h | ⟨u, hspawns, hu⟩)
    · exact h.aborts
    · exact hu.of_spawns hspawns

/-! ### Whole evaluations -/

/-- **A task aborts if and only if it reaches one that stumbles.** -/
theorem aborts_iff_reaches {t : Task} : t.Aborts a ↔ ∃ u, Reaches t u ∧ u.Stumbles a := by
  constructor
  · -- the way down to the task that stumbles comes to an end
    induction t using spawns_wellFounded.induction with
    | _ t ih =>
      intro h
      rcases aborts_iff.mp h with hstumbles | ⟨u, hspawns, hu⟩
      · exact ⟨t, .refl, hstumbles⟩
      · obtain ⟨v, hreach, hv⟩ := ih u hspawns hu
        exact ⟨v, .head hspawns hreach, hv⟩
  · rintro ⟨u, hreach, hu⟩
    induction hreach using Relation.ReflTransGen.head_induction_on with
    | refl => exact hu.aborts
    | head hspawns _ ih => exact ih.of_spawns hspawns

end Task

/-- An abort that is not the depth of a text leaves no result. -/
theorem evaluate_aborts_iff_task {limits : Limits} {s : Session} {n : Node} :
    (s.evaluate limits n).1 = .error a ↔ a ≠ .tooDeep ∧ (s.task limits n).Aborts a := by
  have haborts : (s.task limits n).Aborts a ↔
      (eval (s.callsLeft limits) limits.nesting s n).1 = .error (.abort a) := by
    constructor
    · rintro ⟨s', h⟩
      rw [show eval (s.callsLeft limits) limits.nesting s n = _ from h.eval_eq]
    · intro h
      exact ⟨_, eval_evaluates (Prod.ext h rfl)⟩
  rw [haborts]
  unfold evaluate
  rcases eval (s.callsLeft limits) limits.nesting s n with ⟨(e | b) | v, s'⟩
  · simp
  · cases b with
    | tooDeep =>
      simp only [reduceCtorEq, false_iff, not_and]
      rintro hne ⟨⟩
      exact hne rfl
    | zeroDivision | overflow | domain | notReal | noSymbol | noDimension =>
      simp only [Except.error.injEq, Failure.abort.injEq]
      constructor
      · rintro rfl
        exact ⟨by decide, rfl⟩
      · exact And.right
  · simp

/-- **What makes an evaluation abort.** An evaluation has a result, a value or an error, unless it
comes to a number with a unit whose text aborts, or to an operator on two quantities that gives up:
one of them has a unit that does not exist, or a conversion aborts. Nothing else aborts, and no
division by zero is passed over: operators in which one would abort are the same functions, and so
are calls of functions whose formulas can have no value. -/
theorem evaluate_aborts_iff (limits : Limits) (s : Session) (n : Node) (a : Abort) :
    ((s.evaluate limits n).1 = .error a ↔
      a ≠ .tooDeep ∧ ∃ u, Reaches (s.task limits n) u ∧ (u.Misreads a ∨ u.Balks a)) ∧
    (∀ m symbol l r, Arithmetic.Checked.binary m symbol l r = Arithmetic.binary m symbol l r) ∧
    ∀ f arguments, Builtin.Checked.call f arguments = .ok (f.call arguments) := by
  refine ⟨?_, Arithmetic.checked_binary, Builtin.checked_call⟩
  rw [evaluate_aborts_iff_task, Task.aborts_iff_reaches]
  rfl

/-! ### An operator that gives up -/

/-- A catalog with a word for a product that is made of a unit of level. Such a unit measures a
difference when it is not alone, and differences of levels have no unit. -/
def levels : Catalog := .withAliases [("p", "decibel*second"), ("q", "meter")]

open Unit.Known in
theorem resolve_levels :
    levels.resolve "p" = (.ok [(.missing "delta_decibel", 1), (second, 1)], levels) ∧
      levels.resolve "q" = (.ok [(meter, 1)], levels) := by
  constructor
  · have hread : UnitTerm.read "decibel*second" = .ok (1, [("decibel", 1), ("second", 1)]) :=
      UnitTerm.read_product "decibel" "second" (by decide) (by decide +kernel)
    -- the registry knows the unit, and no unit for its differences
    obtain ⟨u, hu, hname, hlevel⟩ : ∃ u, Registry.standard.find? "decibel" = some u ∧
        u.name = "decibel" ∧ u.isMultiplicative = false := by
      have hany : (Registry.standard.find? "decibel").any
          (fun u => u.name = "decibel" ∧ u.isMultiplicative = false) = true := by decide +kernel
      obtain ⟨u, hu, h⟩ := Option.any_eq_true _ _ |>.mp hany
      exact ⟨u, hu, of_decide_eq_true h⟩
    have hdifference : Registry.standard.find? "delta_decibel" = none :=
      Option.isNone_iff_eq_none.mp (by decide +kernel)
    have hrecognize : Registry.standard.recognize? "decibel" = some (.unit u) := by
      unfold Registry.recognize?
      rw [if_neg (by decide), hu]
    have hremember : Registry.standard.remember u = .standard := by
      unfold Registry.remember
      rw [hname, hu]
      rfl
    have hfactor : Registry.standard.asFactor false u = .missing "delta_decibel" := by
      unfold Registry.asFactor
      rw [hlevel, hname]
      show (Registry.standard.find? "delta_decibel").getD (.missing "delta_decibel") = _
      rw [hdifference]
      rfl
    have hparse : Registry.standard.parse "decibel*second" =
        (.ok [(.missing "delta_decibel", 1), (second, 1)], .standard) := by
      unfold Registry.parse
      rw [hread]
      simp only [Registry.lookUp, hrecognize, hremember]
      rw [show (([("decibel", 1), ("second", 1)] : Powers String).length == 1) = false from rfl]
      simp only [Bool.false_and, hfactor]
      rfl
    rw [Catalog.resolve_of_alias (by decide +kernel) hparse]
    rfl
  · have hread : UnitTerm.read "meter" = .ok (1, [("meter", 1)]) :=
      UnitTerm.read_name "meter" (by decide) (by decide +kernel)
    have hparse : Registry.standard.parse "meter" = (.ok [(meter, 1)], .standard) :=
      Registry.parse_of_name hread rfl
    rw [Catalog.resolve_of_alias (by decide +kernel) hparse]
    rfl

/-- A number that has a unit comes to nothing but looking the unit up. -/
theorem not_misreads_of_resolve {calls : Nat} {room : Room} {s : Session} {x : Float}
    {text : String} {span : Span} {units : Units} (h : (s.catalog.resolve text).1 = .ok units)
    {u : Task} (hu : Reaches ⟨calls, room, s, .number x (some text) span⟩ u) : ¬u.Misreads a := by
  rcases Relation.ReflTransGen.cases_head hu with rfl | ⟨v, hspawns, -⟩
  · intro hmisreads
    cases hmisreads with
    | number _ _ hresolve =>
      rw [h] at hresolve
      cases hresolve
  · cases hspawns

/-- A product with a unit that does not exist, plus a length. -/
def levelPlusLength : Node :=
  .binary (.number 1 (some "p") .nowhere) "+" (.number 1 (some "q") .nowhere) .nowhere

/-- **An operator can abort although all units are found.** -/
theorem evaluate_aborts_at_sum :
    ((fresh levels).evaluate .standard levelPlusLength).1 = .error .noDimension ∧
      ∀ u a, Reaches ((fresh levels).task .standard levelPlusLength) u → ¬u.Misreads a := by
  obtain ⟨hp, hq⟩ := resolve_levels
  have hliteral : ∀ {text : String} {units : Units}, Text.isBlankText text = false →
      levels.resolve text = (.ok units, levels) →
      (fresh levels).literal 1 (some text) = (.ok (.quantity ⟨1, units⟩), fresh levels) := by
    intro text units hblank hresolve
    have hfresh : (fresh levels).catalog.resolve text = _ := hresolve
    rw [literal_eq_of_text _ 1 (by simp [hblank]), hfresh]
    rfl
  have hleft := hliteral (by decide) hp
  have hright := hliteral (by decide) hq
  refine ⟨evaluate_aborts_iff_task.mpr ⟨by decide, ?_⟩, fun u a hu => ?_⟩
  · have happlies : Task.Applies ((fresh levels).task .standard levelPlusLength) "+" _ _ _ :=
      .binary rfl (.number rfl hleft) (.number rfl hright)
    have hplus : Operator.ofText? "+" = some .add := rfl
    refine Task.Stumbles.aborts (.inr ⟨"+", _, _, _, .add, happlies, hplus, ?_⟩)
    refine .unmeasured (by decide) rfl fun hdefined => ?_
    exact absurd hdefined.1 (by decide)
  · unfold task levelPlusLength at hu
    rcases Relation.ReflTransGen.cases_head hu with rfl | ⟨v, hspawns, hv⟩
    · intro hmisreads
      cases hmisreads
    · cases hspawns with
      | left => exact not_misreads_of_resolve (congrArg Prod.fst hp) hv
      | right _ hl =>
        cases hl with
        | number _ h =>
          rw [hleft] at h
          cases h
          exact not_misreads_of_resolve (congrArg Prod.fst hq) hv

end Reckon.Session
