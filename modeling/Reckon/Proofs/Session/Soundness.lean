import Reckon.Proofs.Session.Genuine
import Reckon.Proofs.Session.Outline
import Reckon.Proofs.Unit.Composition
import Reckon.Proofs.Unit.Resolution

/-!
# Dimensional analysis is sound

Where an evaluation gives a value, dimensional analysis of the same node in the outline of the
session gives the shape of the value, and the outline of the session that the evaluation leaves
(`Evaluates.outline`). The dimensions of units are taken from the memory after the evaluation, or
from any later one.
-/

namespace Reckon.Session

mutual

/-- **The shape of a value is what dimensional analysis says it is.** -/
theorem Evaluates.outline {m : Memory} (hm : m.Nameable) : ∀ {calls : Nat} {room : Room}
    {s s' : Session} {n : Node} {o : Except Failure Value}, Evaluates calls room s n o s' →
    s.Genuine → s'.catalog.memory.Extends m → ∀ v, o = .ok v →
    (s.outline m).eval m calls n = some (v.shape m, s'.outline m)
  | _, _, _, _, _, _, .tooDeep _ | _, _, _, _, _, _, .unknown _ | _, _, _, _, _, _, .unaryFails _ _
  | _, _, _, _, _, _, .leftFails _ _ | _, _, _, _, _, _, .rightFails _ _ _
  | _, _, _, _, _, _, .assignmentFails _ _ | _, _, _, _, _, _, .argumentFails _ _
  | _, _, _, _, _, _, .undefinedFunction _ _ _ _ | _, _, _, _, _, _, .argumentCount _ _ _ _ _
  | _, _, _, _, _, _, .callDepth _ _ _ _ _ | _, _, _, _, _, _, .entryFails _ _ _ _ _ _ =>
    fun _ _ _ h => nomatch h
  | _, _, _, _, _, _, .comment _ => fun _ _ v h => by
    cases h
    rw [Outline.eval]
    rfl
  | _, _, s, _, _, _, @Evaluates.reference _ _ _ _ name _ _ => fun _ _ v h => by
    rw [Outline.eval, outline_get?]
    unfold fetch at h
    split at h
    · rename_i hget
      cases h
      rw [hget]
      rfl
    · cases h
  | _, _, _, _, _, _, .number _ h => fun _ _ v hv => by
    rw [Outline.eval]
    subst hv
    exact outline_literal h
  | _, _, _, _, _, _, .definition _ h => fun _ _ v hv => by
    rw [Outline.eval]
    subst hv
    exact outline_define h
  | _, _, _, _, _, _, .unary _ h => fun hs hext v hv => by
    have hoperand := h.outline hm hs hext _ rfl
    have hshape := (Arithmetic.unary_sound m ((h.genuine hs).2 _ rfl) hv).1
    simp only [Outline.eval, hoperand, hshape, Option.bind_eq_bind, Option.bind_some,
      Option.pure_def]
  | _, _, _, _, _, _, @Evaluates.binary _ _ _ _ _ s₂ _ _ _ operator _ l r _ _ hl hr h =>
    fun hs hext v hv => by
    subst hv
    obtain ⟨hs₁, hgl⟩ := hl.genuine hs
    obtain ⟨hs₂, hgr⟩ := hr.genuine hs₁
    -- what the operands look up is still known after the operator
    have hext₂ := (operate_extends h).trans hext
    have hleft := hl.outline hm hs (hr.memory_extends.trans hext₂) _ rfl
    have hright := hr.outline hm hs₁ hext₂ _ rfl
    rcases hbinary : Arithmetic.binary s₂.catalog.memory operator l r with ⟨o, m₁⟩
    unfold operate at h
    rw [hbinary] at h
    obtain ⟨rfl, rfl⟩ := Prod.mk.inj h
    have hshape := (Arithmetic.binary_sound (hgl _ rfl) (hgr _ rfl) hext hm hbinary).1
    simp only [Outline.eval, hleft, hright, hshape, Option.bind_eq_bind, Option.bind_some,
      Option.pure_def]
    rfl
  | _, _, _, _, _, _, .assignment _ h => fun hs hext v hv => by
    cases hv
    have hvalue := h.outline hm hs hext _ rfl
    simp only [Outline.eval, hvalue, outline_bind, Option.bind_eq_bind, Option.bind_some,
      Option.pure_def]
  | _, _, _, _, _, _, @Evaluates.builtin _ _ _ _ _ _ _ _ values _ _ h hf => fun hs hext v hv => by
    have harguments := h.outline hm hs hext _ rfl
    obtain ⟨hnumbers, hshape, -⟩ := Builtin.call_sound (m := m) (eq_ok_of_lift hv)
    have hall : ∀ shape ∈ values.map (Value.shape m), shape = .number :=
      List.forall_mem_map.mpr hnumbers
    simp only [Outline.eval, harguments, hshape, hf, Option.isSome_some, if_true, if_pos hall,
      Option.bind_eq_bind, Option.bind_some, Option.pure_def]
  | _, _, _, _, _, _,
    @Evaluates.call _ _ _ _ s' s'' name _ _ values f _ _ h hbuiltin hf hcount _ hbody =>
    fun hs hext v hv => by
    obtain ⟨hs', hvs⟩ := h.genuine hs
    have henter := hs'.enter f (hvs _ rfl)
    -- the body starts from the memory that the arguments leave
    have hextends := hbody.memory_extends
    rw [catalog_enter] at hextends
    have harguments := h.outline hm hs (hextends.trans hext) _ rfl
    have hresult := hbody.outline hm henter hext _ hv
    rw [outline_enter] at hresult
    have hfunction : Table.get? (s'.outline m).functions (Text.fold name) = some f := hf
    simp only [Outline.eval, harguments, hbuiltin, hfunction, hresult, outline_leave,
      List.length_map, Option.isSome_none, Bool.false_eq_true, if_false, if_pos hcount,
      Option.bind_eq_bind, Option.bind_some, Option.pure_def]

theorem EvaluatesAll.outline {m : Memory} (hm : m.Nameable) : ∀ {calls : Nat} {room : Room}
    {s s' : Session} {ns : List Node} {o : Except Failure (List Value)},
    EvaluatesAll calls room s ns o s' → s.Genuine → s'.catalog.memory.Extends m →
    ∀ vs, o = .ok vs →
    (s.outline m).evalAll m calls ns = some (vs.map (Value.shape m), s'.outline m)
  | _, _, _, _, _, _, .headFails _ | _, _, _, _, _, _, .tailFails _ _ => fun _ _ _ h => nomatch h
  | _, _, _, _, _, _, .nil => fun _ _ vs h => by
    cases h
    rw [Outline.evalAll]
    rfl
  | _, _, _, _, _, _, .cons h hrest => fun hs hext vs hvs => by
    cases hvs
    have hhead := h.outline hm hs (hrest.memory_extends.trans hext) _ rfl
    have htail := hrest.outline hm (h.genuine hs).1 hext _ rfl
    simp only [Outline.evalAll, hhead, htail, List.map_cons, Option.bind_eq_bind, Option.bind_some,
      Option.pure_def]

end

open Arithmetic (compose Obstacle)

/-- Some node evaluates to the quantity and leaves the second session. -/
def Yields (s : Session) (q : Quantity) (s' : Session) : Prop :=
  ∃ calls room n, eval calls room s n = (.ok (.quantity q), s')

theorem Yields.genuine {s s' : Session} {q : Quantity} (h : s.Yields q s') (hs : s.Genuine) :
    s'.Genuine ∧ q.units.Genuine := by
  obtain ⟨calls, room, n, h⟩ := h
  obtain ⟨hs', hq⟩ := (eval_evaluates h).genuine hs
  exact ⟨hs', hq _ rfl⟩

theorem nameable_compose {m m' : Memory} {symbol : String} {l r : Quantity}
    {o : Except Failure Quantity} (hm : m.Nameable) (hl : l.units.Genuine) (hr : r.units.Genuine)
    (h : compose m symbol l r = (o, m')) : m'.Nameable := by
  have hrun := Inquiry.run_compose (m := m) symbol l r
  have hconcerns := Inquiry.concerns_compose (fun k => k.genuine_units.nameable) symbol
    hl.nameable hr.nameable
  have hmemory := Inquiry.run_concerns _ hconcerns hm
  rw [hrun, h] at hmemory
  exact hmemory

/-- **Dimensional soundness.** Whatever a session has gone through, the value of a node has the
shape that dimensional analysis gives, and the session has the outline that it leaves. A composition
of two quantities that succeeds has the kind that the table names; one of multiplicative units fails
for want of an entry or because of one of the other obstacles. -/
theorem eval_respects_dimensions (aliases : Aliases) (limits : Limits) (steps : List Step) :
    let s := history limits (.withAliases aliases) steps
    (∀ calls room n v s', eval calls room s n = (.ok v, s') →
      let m := s'.catalog.memory
      (s.outline m).eval m calls n = some (v.shape m, s'.outline m)) ∧
    ∀ l r s₁ s₂, s.Yields l s₁ → s₁.Yields r s₂ → ∀ symbol,
      (∀ q m, compose s₂.catalog.memory symbol l r = (.ok q, m) →
        ∃ kl kr k, m.kindOf l.units = some kl ∧ m.kindOf r.units = some kr ∧
          Kind.compose? symbol kl kr = some k ∧ m.kindOf q.units = some k) ∧
      (l.units.isMultiplicative = true → r.units.isMultiplicative = true →
        (symbol = "/" → (r.magnitude == 0) = false) →
        ∀ e m, compose s₂.catalog.memory symbol l r = (.error e, m) → Obstacle m symbol l r e) := by
  intro s
  have hs : s.Genuine := history_genuine aliases limits steps
  refine ⟨fun calls room n v s' h => ?_, fun l r s₁ s₂ hl hr symbol => ?_⟩
  · have heval := eval_evaluates h
    exact heval.outline (heval.genuine hs).1.memory hs (.refl _) v rfl
  · obtain ⟨hs₁, hgl⟩ := hl.genuine hs
    obtain ⟨hs₂, hgr⟩ := hr.genuine hs₁
    refine ⟨fun q m h => ?_, fun hml hmr hdivisor e m h => ?_⟩
    · obtain ⟨kl, kr, k, hkl, hkr, hk, hq, -⟩ := Arithmetic.compose_eq_ok hgl hgr h (.refl m)
        (nameable_compose hs₂.memory hgl hgr h)
      exact ⟨kl, kr, k, hkl, hkr, hk, hq⟩
    · exact Arithmetic.compose_eq_error hgl hgr ⟨hml, hmr⟩ hdivisor h
        (nameable_compose hs₂.memory hgl hgr h)

theorem yields_of_resolve {s : Session} {text : String} {units : Units} {c : Catalog}
    (hblank : Text.isBlankText text = false) (h : s.catalog.resolve text = (.ok units, c))
    (x : Float) : s.Yields ⟨x, units⟩ { s with catalog := c } := by
  have hliteral : s.literal x (some text) =
      (.ok (.quantity ⟨x, units⟩), { s with catalog := c }) := by
    rw [literal_eq_of_text s x (by simp [hblank]), h]
    rfl
  exact ⟨0, .unlimited, .number x (some text) .nowhere, (Evaluates.number rfl hliteral).eval_eq⟩

open Unit.Known

/-- A meter times a meter is an area. -/
theorem eval_respects_dimensions_of_area :
    ∃ q m, compose .empty "*" ⟨1, [(meter, 1)]⟩ ⟨1, [(meter, 1)]⟩ = (.ok q, m) ∧
      ∃ kl kr k, m.kindOf [(meter, 1)] = some kl ∧ m.kindOf [(meter, 1)] = some kr ∧
        Kind.compose? "*" kl kr = some k ∧ m.kindOf q.units = some k := by
  have hremember : Registry.standard.remember meter = .standard := rfl
  have hresolve : (Catalog.withAliases []).resolve "m" = (.ok [(meter, 1)], .withAliases []) := by
    rw [Catalog.resolve_of_recognized (by decide +kernel) rfl (by decide)
      (rfl : Registry.standard.recognize? "m" = some (.unit meter))]
    show (_, (Catalog.withAliases []).withRegistry (Registry.standard.remember meter)) = _
    rw [hremember]
    rfl
  have hyields : (history .standard (.withAliases []) []).Yields ⟨1, [(meter, 1)]⟩
      (history .standard (.withAliases []) []) := yields_of_resolve (by decide) hresolve 1
  have hsound := (eval_respects_dimensions [] .standard []).2 _ _ _ _ hyields hyields "*"
  rcases hcompose : compose .empty "*" ⟨1, [(meter, 1)]⟩ ⟨1, [(meter, 1)]⟩ with ⟨e | q, m⟩
  · have hok : (compose .empty "*" ⟨1, [(meter, 1)]⟩ ⟨1, [(meter, 1)]⟩).1.isOk = true := by
      decide +kernel
    rw [hcompose] at hok
    cases hok
  · exact ⟨q, m, rfl, hsound.1 q m hcompose⟩

/-- A thousandth of a meter. -/
def thousandth : Unit := (⟨"milli", "milli", "m", 0.001⟩ : Prefix).apply meter

/-- A length with exponents that are no integers. -/
def roundedLength : Units := [(meter, .float 1.3), (thousandth, .float (-0.3))]

theorem roundedLength_genuine : roundedLength.Genuine where
  distinct := by
    unfold Powers.Distinct
    decide +kernel
  nameable := by
    have hmeter : meter.Nameable := Kind.length.genuine_units.nameable (meter, 1) List.mem_cons_self
    have hthousandth : thousandth.Nameable :=
      .prefixed (by simp [Registry.standardPrefixes]) (by decide) hmeter
    intro x hx
    simp only [roundedLength, List.mem_cons, List.not_mem_nil, or_false] at hx
    rcases hx with rfl | rfl
    · exact hmeter
    · exact hthousandth

/-- **A composition can fail although the table has an entry**: exponents of 2.3 and -0.3 add up to
less than 2, so a length times a length need not be an area. -/
theorem compose_fails_despite_entry :
    ¬∀ (m : Memory) (symbol : String) (l r : Quantity), l.units.Genuine → r.units.Genuine →
      l.units.isMultiplicative = true → r.units.isMultiplicative = true →
      (symbol = "/" → (r.magnitude == 0) = false) →
      ∀ e m', compose m symbol l r = (.error e, m') →
        ∀ kl kr, m'.kindOf l.units = some kl → m'.kindOf r.units = some kr →
          Kind.compose? symbol kl kr = none := by
  intro hclaim
  have hmeter : Units.Genuine [(meter, 1)] := Kind.length.genuine_units
  have hfails : (compose .empty "*" ⟨1, roundedLength⟩ ⟨1, [(meter, 1)]⟩).1.isOk = false := by
    decide +kernel
  have hleft : (compose .empty "*" ⟨1, roundedLength⟩ ⟨1, [(meter, 1)]⟩).2.kindOf roundedLength =
      some .length := by decide +kernel
  have hright : (compose .empty "*" ⟨1, roundedLength⟩ ⟨1, [(meter, 1)]⟩).2.kindOf [(meter, 1)] =
      some .length := by decide +kernel
  rcases hcompose : compose .empty "*" ⟨1, roundedLength⟩ ⟨1, [(meter, 1)]⟩ with ⟨e | q, m⟩
  · rw [hcompose] at hleft hright
    have hnone := hclaim .empty "*" ⟨1, roundedLength⟩ ⟨1, [(meter, 1)]⟩ roundedLength_genuine
      hmeter (by decide +kernel) (by decide +kernel) (by decide) e m hcompose _ _ hleft hright
    exact absurd hnone (by decide)
  · rw [hcompose] at hfails
    cases hfails

end Reckon.Session
