import Mathlib.Data.List.Forall2
import Reckon.Proofs.Session.Depth
import Reckon.Proofs.Session.Memory
import Reckon.Proofs.Unit.Alike

/-!
# Units do not depend on magnitudes

Two sessions are parallel if they differ in nothing but the magnitudes of their variables: the same
names are bound, to values of the same units. Where a node has a value in both of two parallel
sessions, the values have the same units, and the sessions after it are parallel again
(`Evaluates.parallel`).
-/

namespace Reckon

/-- The bindings have the same keys, and values of the same units. -/
def Bindings.Parallel (b c : Bindings) : Prop :=
  ∀ key, Option.Rel (fun x y : Binding => x.value.SameUnits y.value) (Table.get? b key)
    (Table.get? c key)

namespace Bindings.Parallel

variable {b c : Bindings}

theorem bind (h : b.Parallel c) (name : String) {v w : Value} (hvw : v.SameUnits w) :
    (b.bind name v).Parallel (c.bind name w) := by
  intro key
  unfold Bindings.bind
  rw [Table.get?_insert, Table.get?_insert]
  split
  · exact .some hvw
  · exact h key

theorem value? (h : b.Parallel c) (name : String) :
    Option.Rel Value.SameUnits (b.value? name) (c.value? name) :=
  value?_rel (h (Text.fold name))

end Bindings.Parallel

namespace Session

/-- The sessions differ only in the magnitudes of their variables, in the global frame and in the
current one. -/
structure Parallel (s t : Session) : Prop where
  globals : s.context.globals.Parallel t.context.globals
  current : Option.Rel (fun f g : Frame => f.bindings.Parallel g.bindings) s.context.current
    t.context.current
  depth : s.context.depth = t.context.depth
  functions : s.functions = t.functions
  catalog : s.catalog = t.catalog

/-! ### What a session does in one step -/

section Steps

variable {s s' t t' : Session} {v w : Value} (h : s.Parallel t)
include h

theorem Parallel.context : s.context.Related Bindings.Parallel t.context :=
  ⟨h.globals, h.current, h.depth⟩

omit h in
theorem parallel_of_context (hcontext : s.context.Related Bindings.Parallel t.context)
    (hfunctions : s.functions = t.functions) (hcatalog : s.catalog = t.catalog) : s.Parallel t :=
  ⟨hcontext.globals, hcontext.current, hcontext.depth, hfunctions, hcatalog⟩

theorem Parallel.fetch {name : String} (hv : s.fetch name = .ok v) (hw : t.fetch name = .ok w) :
    v.SameUnits w := by
  have hrel : Option.Rel Value.SameUnits (s.context.get? name) (t.context.get? name) :=
    h.context.get? fun _ _ hbindings => hbindings.value? name
  unfold Session.fetch at hv hw
  generalize s.context.get? name = x, t.context.get? name = y at hrel hv hw
  cases hrel with
  | some hvw =>
    cases hv
    cases hw
    exact hvw
  | none => cases hv

theorem Parallel.bind (name : String) (hvw : v.SameUnits w) :
    (s.bind name v).Parallel (t.bind name w) :=
  parallel_of_context (h.context.set fun _ _ hbindings => hbindings.bind name hvw) h.functions
    h.catalog

omit h in
theorem Parallel.bindAll {vs ws : List Value} (hvws : List.Forall₂ Value.SameUnits vs ws) :
    ∀ {s t : Session} (names : List String), s.Parallel t →
      (s.bindAll (names.zip vs)).Parallel (t.bindAll (names.zip ws)) := by
  induction hvws with
  | nil =>
    intro s t names h
    rw [List.zip_nil_right]
    exact h
  | cons hvw _ ih =>
    intro s t names h
    cases names with
    | nil => exact h
    | cons name names => exact ih names (h.bind name hvw)

theorem Parallel.enter (f : UserFunction) {vs ws : List Value}
    (hvws : List.Forall₂ Value.SameUnits vs ws) : (s.enter f vs).Parallel (t.enter f ws) :=
  bindAll hvws f.parameters
    (parallel_of_context (h.context.enter fun _ => .none) h.functions h.catalog)

/-- The frames that are current after a call are those in which it was entered. -/
theorem Parallel.leave {f g : UserFunction} {vs ws : List Value} (h' : s'.Parallel t')
    (hs : s'.context.suspended = (s.enter f vs).context.suspended)
    (ht : t'.context.suspended = (t.enter g ws).context.suspended) :
    s'.leave.Parallel t'.leave :=
  parallel_of_context (related_leave h.context h'.context hs ht) h'.functions h'.catalog

theorem Parallel.literal {x : Float} {unit : Option String} (hs : s.literal x unit = (.ok v, s'))
    (ht : t.literal x unit = (.ok w, t')) : v.SameUnits w ∧ s'.Parallel t' := by
  have hrefl : ∀ v : Value, v.SameUnits v := by
    intro v
    cases v with
    | number x => exact .number x x
    | quantity q => exact .quantity q.magnitude q.magnitude q.units
  rcases literal_cases hs with ⟨rfl, hany⟩ | ⟨text, -, rfl, hany⟩
  · rw [hany t] at ht
    cases ht
    exact ⟨hrefl v, h⟩
  · rw [hany t (by rw [h.catalog])] at ht
    cases ht
    exact ⟨hrefl v, h.globals, h.current, h.depth, h.functions, by simp only [h.catalog]⟩

theorem Parallel.define {name : String} {parameters : List String} {body : Node}
    (hs : s.define name parameters body = (.ok v, s'))
    (ht : t.define name parameters body = (.ok w, t')) : v.SameUnits w ∧ s'.Parallel t' := by
  unfold Session.define at hs ht
  split at hs
  · cases hs
  · rename_i hduplicates
    rw [if_neg hduplicates] at ht
    cases hs
    cases ht
    exact ⟨.number 0 0, h.globals, h.current, h.depth, by simp only [h.functions], h.catalog⟩

theorem Parallel.operate {operator : String} {l l' r r' : Value} (hl : l.SameUnits l')
    (hr : r.SameUnits r') (hs : s.operate operator l r = (.ok v, s'))
    (ht : t.operate operator l' r' = (.ok w, t')) : v.SameUnits w ∧ s'.Parallel t' := by
  have halike := Inquiry.alike_binary operator hl hr
  rw [operate_eq] at hs ht
  rw [← h.catalog] at ht
  obtain ⟨hv, rfl⟩ := Prod.mk.inj hs
  obtain ⟨hw, rfl⟩ := Prod.mk.inj ht
  obtain ⟨hvw, hmemory⟩ := halike.both (Prod.ext hv rfl) (Prod.ext hw rfl)
  refine ⟨hvw, h.globals, h.current, h.depth, h.functions, ?_⟩
  exact congrArg₂ Catalog.withMemory h.catalog hmemory

end Steps

/-- The value of a built-in function is a number. -/
theorem sameUnits_lift {f g : Builtin} {us us' : List Value} {v w : Value}
    (hv : lift (f.call us) = .ok v) (hw : lift (g.call us') = .ok w) : v.SameUnits w := by
  have hnumber : ∀ {f : Builtin} {us : List Value} {v : Value}, lift (f.call us) = .ok v →
      ∃ x, v = .number x := by
    intro f us v h
    have hshape := (Builtin.call_sound (m := .empty) (eq_ok_of_lift h)).2.1
    cases v with
    | number x => exact ⟨x, rfl⟩
    | quantity q => cases hshape
  obtain ⟨x, rfl⟩ := hnumber hv
  obtain ⟨y, rfl⟩ := hnumber hw
  exact .number x y

/-! ### Whole evaluations -/

mutual

/-- **Evaluations in parallel sessions stay parallel** as long as both succeed. -/
theorem Evaluates.parallel : ∀ {calls : Nat} {room : Room} {s s' t t' : Session} {n : Node}
    {o p : Except Failure Value}, Evaluates calls room s n o s' → Evaluates calls room t n p t' →
    s.Parallel t → ∀ {v w : Value}, o = .ok v → p = .ok w → v.SameUnits w ∧ s'.Parallel t'
  | _, _, _, _, _, _, _, _, _, .tooDeep _, _ | _, _, _, _, _, _, _, _, _, .unknown _, _
  | _, _, _, _, _, _, _, _, _, .unaryFails _ _, _ | _, _, _, _, _, _, _, _, _, .leftFails _ _, _
  | _, _, _, _, _, _, _, _, _, .rightFails _ _ _, _
  | _, _, _, _, _, _, _, _, _, .assignmentFails _ _, _
  | _, _, _, _, _, _, _, _, _, .argumentFails _ _, _
  | _, _, _, _, _, _, _, _, _, .undefinedFunction _ _ _ _, _
  | _, _, _, _, _, _, _, _, _, .argumentCount _ _ _ _ _, _
  | _, _, _, _, _, _, _, _, _, .callDepth _ _ _ _ _, _
  | _, _, _, _, _, _, _, _, _, .entryFails _ _ _ _ _ _, _ => fun _ _ _ hv _ => nomatch hv
  | _, _, _, _, _, _, _, _, _, .number _ hs, ht => fun h _ _ hv hw => by
    subst hv hw
    cases ht with
    | number _ ht => exact h.literal hs ht
  | _, _, _, _, _, _, _, _, _, .definition _ hs, ht => fun h _ _ hv hw => by
    subst hv hw
    cases ht with
    | definition _ ht => exact h.define hs ht
  | _, _, _, _, _, _, _, _, _, .reference _, ht => fun h _ _ hv hw => by
    cases ht with
    | reference _ => exact ⟨h.fetch hv hw, h⟩
    | tooDeep => cases hw
  | _, _, _, _, _, _, _, _, _, .comment _, ht => fun h _ _ hv hw => by
    cases hv
    cases ht with
    | comment _ => cases hw; exact ⟨.number 0 0, h⟩
    | tooDeep => cases hw
  | _, _, _, _, _, _, _, _, _, .unary hroom hs, ht => fun h _ _ hv hw => by
    cases ht with
    | unary hroom' ht =>
      cases hroom.symm.trans hroom'
      obtain ⟨hoperand, h'⟩ := hs.parallel ht h rfl rfl
      exact ⟨Arithmetic.sameUnits_unary hoperand hv hw, h'⟩
    | tooDeep | unaryFails => cases hw
  | _, _, _, _, _, _, _, _, _, .binary hroom hsl hsr hs, ht => fun h _ _ hv hw => by
    subst hv
    cases ht with
    | binary hroom' htl htr ht =>
      subst hw
      cases hroom.symm.trans hroom'
      obtain ⟨hl, h₁⟩ := hsl.parallel htl h rfl rfl
      obtain ⟨hr, h₂⟩ := hsr.parallel htr h₁ rfl rfl
      exact h₂.operate hl hr hs ht
    | tooDeep | leftFails | rightFails => cases hw
  | _, _, _, _, _, _, _, _, _, .assignment hroom hs, ht => fun h _ _ hv hw => by
    cases hv
    cases ht with
    | assignment hroom' ht =>
      cases hw
      cases hroom.symm.trans hroom'
      obtain ⟨hvw, h'⟩ := hs.parallel ht h rfl rfl
      exact ⟨hvw, h'.bind _ hvw⟩
    | tooDeep | assignmentFails => cases hw
  | _, _, _, _, _, _, _, _, _, .builtin hroom hs hf, ht => fun h _ _ hv hw => by
    cases ht with
    | builtin hroom' ht _ =>
      cases hroom.symm.trans hroom'
      obtain ⟨-, h'⟩ := hs.parallel ht h rfl rfl
      exact ⟨sameUnits_lift hv hw, h'⟩
    | call _ _ hbuiltin => rw [hf] at hbuiltin; cases hbuiltin
    | tooDeep | argumentFails | undefinedFunction | argumentCount | callDepth | entryFails => cases hw
  | _, _, _, _, _, _, _, _, _, .call hroom hs hbuiltin hf _ _ hbody, ht => fun h _ _ hv hw => by
    cases ht with
    | call hroom' ht _ hg _ _ hbody' =>
      cases hroom.symm.trans hroom'
      obtain ⟨hvws, h₁⟩ := hs.parallel ht h rfl rfl
      -- both sessions have the same functions by the time the arguments are evaluated
      unfold function? at hf hg
      rw [h₁.functions, hg] at hf
      cases hf
      obtain ⟨hvw, h₂⟩ := hbody.parallel hbody' (h₁.enter _ hvws) hv hw
      exact ⟨hvw, h₁.leave h₂ hbody.suspended_eq hbody'.suspended_eq⟩
    | builtin _ _ hf' => rw [hbuiltin] at hf'; cases hf'
    | tooDeep | argumentFails | undefinedFunction | argumentCount | entryFails => cases hw

theorem EvaluatesAll.parallel : ∀ {calls : Nat} {room : Room} {s s' t t' : Session}
    {ns : List Node} {o p : Except Failure (List Value)}, EvaluatesAll calls room s ns o s' →
    EvaluatesAll calls room t ns p t' → s.Parallel t → ∀ {vs ws : List Value}, o = .ok vs →
    p = .ok ws → List.Forall₂ Value.SameUnits vs ws ∧ s'.Parallel t'
  | _, _, _, _, _, _, _, _, _, .headFails _, _ | _, _, _, _, _, _, _, _, _, .tailFails _ _, _ =>
    fun _ _ _ hv _ => nomatch hv
  | _, _, _, _, _, _, _, _, _, .nil, ht => fun h _ _ hv hw => by
    cases hv
    cases ht with
    | nil => cases hw; exact ⟨.nil, h⟩
  | _, _, _, _, _, _, _, _, _, .cons hs hrest, ht => fun h _ _ hv hw => by
    cases hv
    cases ht with
    | cons ht hrest' =>
      cases hw
      obtain ⟨hvw, h₁⟩ := hs.parallel ht h rfl rfl
      obtain ⟨hvws, h₂⟩ := hrest.parallel hrest' h₁ rfl rfl
      exact ⟨.cons hvw hvws, h₂⟩
    | headFails | tailFails => cases hw

end

/-- **Units do not depend on magnitudes.** If two sessions differ only in the magnitudes of their
variables and a node has a value in both, then the values are both numbers or both quantities of the
same units, and the sessions after it again differ only in magnitudes. -/
theorem evaluate_parallel (limits : Limits) (n : Node) {s s' t t' : Session} {v w : Value}
    (h : s.Parallel t) (hs : s.evaluate limits n = (.ok (.value v), s'))
    (ht : t.evaluate limits n = (.ok (.value w), t')) : v.SameUnits w ∧ s'.Parallel t' := by
  have hvalue : ∀ {s s' : Session} {v : Value}, s.evaluate limits n = (.ok (.value v), s') →
      Evaluates (s.callsLeft limits) limits.nesting s n (.ok v) s' := by
    intro s s' v h
    obtain ⟨o, heval, ⟨w, rfl, hw⟩ | ⟨-, hnone⟩⟩ := exists_evaluates h
    · cases hw
      exact heval
    · exact absurd rfl (hnone v)
  have hcalls : t.callsLeft limits = s.callsLeft limits := by
    unfold callsLeft
    rw [h.depth]
  have ht := hvalue ht
  rw [hcalls] at ht
  exact (hvalue hs).parallel ht h rfl rfl

open Unit.Known in
/-- Two meters squared and three meters squared are areas in the same units. -/
theorem evaluate_parallel_of_square :
    let side (x : Float) : Session := (fresh .standard).bind "x" (.quantity ⟨x, [(meter, 1)]⟩)
    let square : Node := .binary (.reference "x" .nowhere) "*" (.reference "x" .nowhere) .nowhere
    (side 2).Parallel (side 3) ∧ ∃ v w s' t',
      (side 2).evaluate .standard square = (.ok (.value v), s') ∧
      (side 3).evaluate .standard square = (.ok (.value w), t') ∧
      v.SameUnits w ∧ s'.Parallel t' := by
  intro side square
  have hsides : (side 2).Parallel (side 3) := by
    have hfresh : (fresh .standard).Parallel (fresh .standard) :=
      ⟨fun _ => .none, .none, rfl, rfl, rfl⟩
    exact hfresh.bind "x" (.quantity 2 3 _)
  have hvalue : ∀ x : Float, (Arithmetic.binary .empty "*" (.quantity ⟨x, [(meter, 1)]⟩)
      (.quantity ⟨x, [(meter, 1)]⟩)).1.isOk = true →
      ∃ v s', (side x).evaluate .standard square = (.ok (.value v), s') := by
    intro x hok
    rcases hbinary : Arithmetic.binary .empty "*" (.quantity ⟨x, [(meter, 1)]⟩)
      (.quantity ⟨x, [(meter, 1)]⟩) with ⟨e | v, m⟩
    · rw [hbinary] at hok
      cases hok
    · have hoperate : (side x).operate "*" (.quantity ⟨x, [(meter, 1)]⟩)
          (.quantity ⟨x, [(meter, 1)]⟩) = (.ok v, (side x).withMemory m) := by
        unfold operate
        rw [show (side x).catalog.memory = .empty from rfl, hbinary]
        rfl
      have heval : Evaluates ((side x).callsLeft .standard) Limits.standard.nesting (side x) square
          (.ok v) _ := .binary rfl (.reference rfl) (.reference rfl) hoperate
      refine ⟨v, (side x).withMemory m, ?_⟩
      unfold evaluate
      rw [heval.eval_eq]
  obtain ⟨v, s', hs⟩ := hvalue 2 (by decide +kernel)
  obtain ⟨w, t', ht⟩ := hvalue 3 (by decide +kernel)
  exact ⟨hsides, v, w, s', t', hs, ht, evaluate_parallel .standard square hsides hs ht⟩

end Session

end Reckon
