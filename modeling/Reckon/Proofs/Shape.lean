import Reckon.Proofs.Builtin
import Reckon.Proofs.Unit.Kind

/-!
# The shapes of values

The shape of a value is what dimensional analysis knows of it: that it is a number, or the dimension
of the quantity. The operators have a meaning on shapes alone. Where an operator gives a value, it
gives one of the shape that the shapes of the operands promise (`binary_sound`).

The dimension of a quantity is the one that a memory reports. An operator settles the reports about
its operands, so its own memory and every later one will do.
-/

namespace Reckon

/-- What dimensional analysis knows of a value. -/
inductive Shape where
  /-- A plain number. -/
  | number
  /-- A quantity of the given dimension. -/
  | quantity (v : DimensionVector)
deriving DecidableEq

namespace Shape

/-- Only like things are added and subtracted. -/
def sum : Shape → Shape → Option Shape
  | number, number => some number
  | quantity v, quantity w => if v = w then some (quantity v) else none
  | _, _ => none

/-- Dimensions are added. -/
def product : Shape → Shape → Option Shape
  | number, number => some number
  | quantity v, quantity w => some (quantity (v.add w))
  | quantity v, number | number, quantity v => some (quantity v)

/-- Dimensions are subtracted; like things have a ratio without one. -/
def quotient : Shape → Shape → Option Shape
  | number, number => some number
  | quantity v, quantity w => some (quantity (if v = w then .zero else v.sub w))
  | quantity v, number => some (quantity v)
  | number, quantity _ => none

/-- Only numbers have powers. -/
def power : Shape → Shape → Option Shape
  | number, number => some number
  | _, _ => none

/-- What an operator makes of shapes. -/
def apply : Operator → Shape → Shape → Option Shape
  | .add | .subtract => sum
  | .multiply => product
  | .divide => quotient
  | .power => power

/-- What the operator with the given text makes of shapes. -/
def binary (symbol : String) (left right : Shape) : Option Shape := do
  apply (← Operator.ofText? symbol) left right

/-- What the sign with the given text makes of a shape. -/
def unary (symbol : String) (operand : Shape) : Option Shape :=
  if symbol = "+" ∨ symbol = "-" then some operand else none

end Shape

/-- The shape of a value, by what a memory reports. -/
def Value.shape (m : Memory) : Value → Shape
  | number _ => .number
  | quantity q => .quantity (m.report q.units).vector

/-- The units of a value are genuine. -/
def Value.Genuine : Value → Prop
  | number _ => True
  | quantity q => q.units.Genuine

theorem Value.Genuine.of_nameable {v : Value} (h : v.Genuine) : v.Of Unit.Nameable := by
  cases v with
  | number x => exact trivial
  | quantity q => exact Units.Genuine.nameable h

theorem Memory.vector_of_kindOf {m : Memory} {u : Units} {k : Kind} (h : m.kindOf u = some k) :
    (m.report u).vector = k.vector :=
  Kind.vector_of_ofDimension? (m.distinct_report u) h

namespace Arithmetic

variable {m m₁ m' : Memory} {symbol : String} {left right q : Quantity} {v : Value}

theorem number_eq_ok {x : Float} (h : number symbol x = .ok v) : v = .number x := by
  unfold number at h
  split at h
  · cases h
    rfl
  · cases h

theorem quantity_eq_ok (h : quantity symbol q = .ok v) : v = .quantity q := by
  unfold quantity at h
  split at h
  · cases h
    rfl
  · cases h

theorem extends_convert {x : Float} {a b : Units} {o : Except Abort (Option Float)}
    (h : m.convert x a b = (o, m₁)) : m.Extends m₁ := by
  have hgrows := (Inquiry.convert x a b).run_extends m
  rw [Inquiry.run_convert, h] at hgrows
  exact hgrows

/-! ### What the operators do when they succeed -/

theorem combine_eq_ok {operation : Float → Float → Float}
    (h : combine m symbol operation left right = (.ok v, m₁)) :
    ∃ l r m₂ x, m.dimensions left.units right.units = (.ok (l, r), m₂) ∧ m₂.Extends m₁ ∧
      l.same r = true ∧ v = .quantity ⟨x, left.units⟩ := by
  unfold combine at h
  split at h
  · cases h
  · rename_i l r m₂ hdimensions
    split at h
    · rename_i hsame
      split at h
      · cases h
      · cases h
      · rename_i x m₃ hconvert
        obtain ⟨hv, rfl⟩ := Prod.mk.inj h
        exact ⟨l, r, m₂, _, hdimensions, extends_convert hconvert, hsame, quantity_eq_ok hv⟩
    · cases h

theorem composeIn_eq_ok {l r : Dimension} (h : composeIn m symbol left right l r = (.ok q, m₁)) :
    ∃ k, composedKind? symbol l r = some k ∧ q.units = k.units ∧ m.Extends m₁ := by
  unfold composeIn at h
  simp only at h
  split at h
  · rename_i k raw hkind hraw
    split at h
    · cases h
    · cases h
    · rename_i hconvert
      cases h
      exact ⟨k, hkind, rfl, extends_convert hconvert⟩
  · cases h

theorem composedKind?_eq_some {l r : Dimension} {k : Kind} (h : composedKind? symbol l r = some k) :
    ∃ kl kr, Kind.ofDimension? l = some kl ∧ Kind.ofDimension? r = some kr ∧
      Kind.compose? symbol kl kr = some k := by
  unfold composedKind? at h
  obtain ⟨kl, hl, h⟩ := Option.bind_eq_some_iff.mp h
  obtain ⟨kr, hr, h⟩ := Option.bind_eq_some_iff.mp h
  exact ⟨kl, kr, hl, hr, h⟩

/-- **The result of a composition has the kind that the table names.** -/
theorem compose_eq_ok (hl : left.units.Genuine) (hr : right.units.Genuine)
    (h : compose m symbol left right = (.ok q, m₁)) (hext : m₁.Extends m') (hm : m'.Nameable) :
    ∃ kl kr k, m'.kindOf left.units = some kl ∧ m'.kindOf right.units = some kr ∧
      Kind.compose? symbol kl kr = some k ∧ m'.kindOf q.units = some k ∧ q.units = k.units := by
  unfold compose at h
  split at h
  · cases h
  · rename_i l r m₂ hdimensions
    obtain ⟨k, hkind, hunits, hgrows⟩ := composeIn_eq_ok h
    obtain ⟨kl, kr, hkl, hkr, hk⟩ := composedKind?_eq_some hkind
    have hreports := Memory.report_of_dimensions hl.distinct hr.distinct hdimensions
      (hgrows.trans hext)
    refine ⟨kl, kr, k, ?_, ?_, hk, ?_, hunits⟩
    · unfold Memory.kindOf
      rw [hreports.1, hkl]
    · unfold Memory.kindOf
      rw [hreports.2, hkr]
    · rw [hunits, Memory.kindOf_units hm]

theorem composed_eq_ok {outcome : Except Failure Quantity × Memory}
    (h : composed symbol outcome = (.ok v, m₁)) : ∃ q, outcome = (.ok q, m₁) ∧ v = .quantity q := by
  obtain ⟨o, m₂⟩ := outcome
  obtain ⟨hv, rfl⟩ := Prod.mk.inj h
  cases o with
  | error e => cases hv
  | ok q => exact ⟨q, rfl, quantity_eq_ok hv⟩

/-! ### Operators on shapes -/

theorem scale_sound (m' : Memory) {factor : Float} (hq : q.units.Genuine)
    (h : scale symbol q factor = .ok v) :
    v.shape m' = .quantity (m'.report q.units).vector ∧ v.Genuine := by
  rw [quantity_eq_ok h]
  exact ⟨rfl, hq⟩

theorem combine_sound {operation : Float → Float → Float} (hl : left.units.Genuine)
    (hr : right.units.Genuine) (h : combine m symbol operation left right = (.ok v, m₁))
    (hext : m₁.Extends m') :
    Shape.sum (Value.shape m' (.quantity left)) (Value.shape m' (.quantity right)) =
      some (v.shape m') ∧ v.Genuine := by
  obtain ⟨l, r, m₂, x, hdimensions, hgrows, hsame, rfl⟩ := combine_eq_ok h
  obtain ⟨rfl, rfl⟩ := Memory.report_of_dimensions hl.distinct hr.distinct hdimensions
    (hgrows.trans hext)
  refine ⟨?_, hl⟩
  exact if_pos (Dimension.vector_eq_of_same (m'.distinct_report _) hsame)

theorem product_sound (hl : left.units.Genuine) (hr : right.units.Genuine)
    (h : composed "*" (compose m "*" left right) = (.ok v, m₁)) (hext : m₁.Extends m')
    (hm : m'.Nameable) :
    Shape.product (Value.shape m' (.quantity left)) (Value.shape m' (.quantity right)) =
      some (v.shape m') ∧ v.Genuine := by
  obtain ⟨q, hq, rfl⟩ := composed_eq_ok h
  obtain ⟨kl, kr, k, hkl, hkr, hk, hkq, hunits⟩ := compose_eq_ok hl hr hq hext hm
  refine ⟨?_, ?_⟩
  · show some (Shape.quantity (DimensionVector.add _ _)) = some (Shape.quantity _)
    rw [Memory.vector_of_kindOf hkl, Memory.vector_of_kindOf hkr, Memory.vector_of_kindOf hkq,
      Kind.vector_product kl kr k hk]
  · show q.units.Genuine
    rw [hunits]
    exact k.genuine_units

/-- Kinds whose quotient the table has, as shapes. -/
theorem quotient_of_kinds {kl kr k : Kind} (h : Kind.compose? "/" kl kr = some k) :
    (if kl.vector = kr.vector then DimensionVector.zero else kl.vector.sub kr.vector) = k.vector := by
  rw [Kind.vector_quotient kl kr k h]
  split
  · rename_i heq
    rw [Kind.vector_injective kl kr heq, Kind.sub_self]
  · rfl

theorem quotient_sound (hl : left.units.Genuine) (hr : right.units.Genuine)
    (h : divideQuantities m left right = (.ok v, m₁)) (hext : m₁.Extends m') (hm : m'.Nameable) :
    Shape.quotient (Value.shape m' (.quantity left)) (Value.shape m' (.quantity right)) =
      some (v.shape m') ∧ v.Genuine := by
  unfold divideQuantities at h
  split at h
  · cases h
  · rename_i l r m₂ hdimensions
    split at h
    · -- a ratio
      rename_i hsame
      unfold divideAlike at h
      split at h
      · cases h
      · cases h
      · rename_i hconvert
        split at h
        · cases h
        · obtain ⟨hv, rfl⟩ := Prod.mk.inj h
          rw [quantity_eq_ok hv]
          obtain ⟨rfl, rfl⟩ := Memory.report_of_dimensions hl.distinct hr.distinct hdimensions
            ((extends_convert hconvert).trans hext)
          refine ⟨?_, Units.genuine_nil⟩
          have hvectors := Dimension.vector_eq_of_same (m'.distinct_report _) hsame
          have hratio : (m'.report []).vector = Kind.ratio.vector :=
            Memory.vector_of_kindOf (Memory.kindOf_units hm .ratio)
          show some (Shape.quantity (if _ = _ then _ else _)) = some (Shape.quantity _)
          rw [if_pos hvectors, show (ratio _).units = [] from rfl, hratio]
          decide +kernel
    · split at h
      · cases h
      · obtain ⟨q, hq, rfl⟩ := composed_eq_ok h
        -- the dimensions differ: a quotient is composed like a product
        have hcompose : compose m "/" left right = (.ok q, m₁) := by
          unfold compose
          rw [hdimensions]
          exact hq
        obtain ⟨kl, kr, k, hkl, hkr, hk, hkq, hunits⟩ := compose_eq_ok hl hr hcompose hext hm
        refine ⟨?_, ?_⟩
        · show some (Shape.quantity (if _ = _ then _ else _)) = some (Shape.quantity _)
          rw [Memory.vector_of_kindOf hkl, Memory.vector_of_kindOf hkr,
            Memory.vector_of_kindOf hkq, quotient_of_kinds hk]
        · show q.units.Genuine
          rw [hunits]
          exact k.genuine_units

/-- An operator between numbers only. -/
theorem number_sound (m' : Memory) {x : Float} (h : number symbol x = .ok v) :
    v.shape m' = .number ∧ v.Genuine := by
  rw [number_eq_ok h]
  exact ⟨rfl, trivial⟩

section Values

variable {l r : Value} (hl : l.Genuine) (hr : r.Genuine) (hext : m₁.Extends m') (hm : m'.Nameable)
include hl hr hext hm

theorem multiply_sound (h : multiply m l r = (.ok v, m₁)) :
    Shape.product (l.shape m') (r.shape m') = some (v.shape m') ∧ v.Genuine := by
  cases l with
  | number x =>
    cases r with
    | number y =>
      obtain ⟨hshape, hv⟩ := number_sound m' (Prod.mk.inj h).1
      exact ⟨by rw [hshape]; rfl, hv⟩
    | quantity q =>
      obtain ⟨hshape, hv⟩ := scale_sound m' hr (Prod.mk.inj h).1
      exact ⟨by rw [hshape]; rfl, hv⟩
  | quantity p =>
    cases r with
    | number y =>
      obtain ⟨hshape, hv⟩ := scale_sound m' hl (Prod.mk.inj h).1
      exact ⟨by rw [hshape]; rfl, hv⟩
    | quantity q => exact product_sound hl hr h hext hm

theorem divide_sound (h : divide m l r = (.ok v, m₁)) :
    Shape.quotient (l.shape m') (r.shape m') = some (v.shape m') ∧ v.Genuine := by
  cases l with
  | number x =>
    cases r with
    | number y =>
      have hv := (Prod.mk.inj h).1
      split at hv
      · cases hv
      · obtain ⟨hshape, hv⟩ := number_sound m' hv
        exact ⟨by rw [hshape]; rfl, hv⟩
    | quantity q => cases h
  | quantity p =>
    cases r with
    | number y =>
      have hv := (Prod.mk.inj h).1
      split at hv
      · cases hv
      · obtain ⟨hshape, hv⟩ := scale_sound m' hl hv
        exact ⟨by rw [hshape]; rfl, hv⟩
    | quantity q => exact quotient_sound hl hr h hext hm

/-- **Operators respect shapes.** -/
theorem binary_sound (h : binary m symbol l r = (.ok v, m₁)) :
    Shape.binary symbol (l.shape m') (r.shape m') = some (v.shape m') ∧ v.Genuine := by
  unfold binary at h
  unfold Shape.binary
  split at h
  · rename_i op hop
    rw [hop]
    show Shape.apply op (l.shape m') (r.shape m') = some (v.shape m') ∧ v.Genuine
    cases op with
    | multiply => exact multiply_sound hl hr hext hm h
    | divide => exact divide_sound hl hr hext hm h
    | add =>
      cases l <;> cases r <;> try cases h
      · obtain ⟨hshape, hv⟩ := number_sound m' (Prod.mk.inj h).1
        exact ⟨by rw [hshape]; rfl, hv⟩
      · exact combine_sound hl hr h hext
    | subtract =>
      cases l <;> cases r <;> try cases h
      · obtain ⟨hshape, hv⟩ := number_sound m' (Prod.mk.inj h).1
        exact ⟨by rw [hshape]; rfl, hv⟩
      · exact combine_sound hl hr h hext
    | power =>
      cases l <;> cases r <;> try cases h
      obtain ⟨hshape, hv⟩ := number_sound m' (Prod.mk.inj h).1
      exact ⟨by rw [hshape]; rfl, hv⟩
  · cases h

end Values

theorem unary_sound (m' : Memory) {u : Value} (hu : u.Genuine) (h : unary symbol u = .ok v) :
    Shape.unary symbol (u.shape m') = some (v.shape m') ∧ v.Genuine := by
  unfold unary at h
  unfold Shape.unary
  split at h
  · rename_i hplus
    cases h
    exact ⟨if_pos (.inl hplus), hu⟩
  · split at h
    · rename_i hminus
      rw [if_pos (.inr hminus)]
      cases u with
      | number x =>
        cases h
        exact ⟨rfl, trivial⟩
      | quantity q =>
        obtain ⟨hshape, hv⟩ := scale_sound m' hu h
        exact ⟨by rw [hshape]; rfl, hv⟩
    · cases h

end Arithmetic

/-- A built-in function takes numbers and gives a number. -/
theorem Builtin.call_sound {f : Builtin} {values : List Value} {v : Value} {m : Memory}
    (h : f.call values = .ok v) : (∀ u ∈ values, u.shape m = .number) ∧ v.shape m = .number ∧
      v.Genuine := by
  unfold call at h
  split at h
  · split at h
    · cases h
    · rename_i xs hxs
      split at h
      · cases h
      · simp only at h
        split at h
        · cases h
          rw [numbers_eq_ok hxs]
          exact ⟨List.forall_mem_map.mpr fun _ _ => rfl, rfl, trivial⟩
        · cases h
  · cases h

end Reckon
