import Reckon.Proofs.Unit.Recollection
import Reckon.Proofs.Unit.Vector

/-!
# The dimensions that a memory reports

A memory reports the dimension of the form of a product that it met first. Before it is asked about a
product, the report can change as the memory meets other forms; once it has been asked, it cannot
(`report_of_dimension`).

What an operator asks about is made of the factors of its operands and of the units in which kinds
are given (`concerns_binary`), so memories hold nothing else (`run_concerns`).
-/

namespace Reckon

namespace Memory

variable {m m₁ m' : Memory} {u : Units}

/-- The dimension of a product, in the form that was met first. -/
def report (m : Memory) (u : Units) : Dimension := (firstForm m.measured u).dimension

theorem dimension_of_isDefined (h : u.isDefined = true) :
    m.dimension u = (.ok (m.report u), m.noted ⟨.dimension, u⟩) := by
  unfold dimension
  rw [if_pos h]
  rfl

theorem dimension_eq_ok {d : Dimension} (h : m.dimension u = (.ok d, m₁)) :
    u.isDefined = true ∧ d = m.report u ∧ m₁ = m.noted ⟨.dimension, u⟩ := by
  by_cases hu : u.isDefined = true
  · rw [dimension_of_isDefined hu] at h
    obtain ⟨hd, rfl⟩ := Prod.mk.inj h
    exact ⟨hu, (Except.ok.inj hd).symm, rfl⟩
  · unfold dimension at h
    rw [if_neg hu] at h
    cases h

/-- A form that is known stays the first one. -/
theorem report_of_extends {x : Units} (hfound : m.measured.find? u.same = some x)
    (hext : m.Extends m') : m'.report u = m.report u := by
  obtain ⟨new, hnew⟩ : m.measured <+: m'.measured := hext .dimension
  unfold report firstForm
  rw [← hnew, List.find?_append, hfound]
  rfl

/-- The product in the form that it is asked for is met first. -/
theorem report_of_noted (hu : Powers.Distinct u) (hnone : m.measured.find? u.same = none)
    (hext : (m.noted ⟨.dimension, u⟩).Extends m') : m'.report u = u.dimension := by
  have hany : m.measured.any u.same = false := by
    rw [List.any_eq_false]
    exact fun x hx => List.find?_eq_none.mp hnone x hx
  have hnoted : (m.noted ⟨.dimension, u⟩).measured = m.measured ++ [u] := by
    show note m.measured u = _
    unfold note
    rw [hany]
    rfl
  by_cases hself : u.same u = true
  · have hfound : (m.noted ⟨.dimension, u⟩).measured.find? u.same = some u := by
      rw [hnoted, List.find?_append, hnone, List.find?_singleton, if_pos hself]
      rfl
    rw [report_of_extends hfound hext]
    unfold report firstForm
    rw [hfound]
    rfl
  · -- a product that is not even the same as itself has no other form
    have hnever : m'.measured.find? u.same = none := by
      rw [List.find?_eq_none]
      exact fun x _ hx => hself (Powers.same_self_of_same hu hx)
    unfold report firstForm
    rw [hnever]
    rfl

/-- **An answer stays.** -/
theorem report_of_dimension {d : Dimension} (hu : Powers.Distinct u)
    (h : m.dimension u = (.ok d, m₁)) (hext : m₁.Extends m') : m'.report u = d := by
  obtain ⟨-, rfl, rfl⟩ := dimension_eq_ok h
  rcases hfind : m.measured.find? u.same with _ | x
  · rw [report_of_noted hu hfind hext]
    unfold report firstForm
    rw [hfind]
    rfl
  · exact report_of_extends hfind ((m.extends_noted _).trans hext)

theorem report_of_dimensions {a b : Units} {x y : Dimension} (ha : Powers.Distinct a)
    (hb : Powers.Distinct b) (h : m.dimensions a b = (.ok (x, y), m₁)) (hext : m₁.Extends m') :
    m'.report a = x ∧ m'.report b = y := by
  unfold dimensions at h
  split at h
  · cases h
  · rename_i m₂ hx
    split at h
    · cases h
    · rename_i hy
      cases h
      -- the first answer is not changed by the second question
      have hext₂ : m₂.Extends m₁ := by
        have hgrows := m₂.extends_dimension b
        rw [hy] at hgrows
        exact hgrows
      exact ⟨report_of_dimension ha hx (hext₂.trans hext), report_of_dimension hb hy hext⟩

theorem isDefined_of_dimensions {a b : Units} {x y : Dimension}
    (h : m.dimensions a b = (.ok (x, y), m₁)) : a.isDefined = true ∧ b.isDefined = true := by
  unfold dimensions at h
  split at h
  · cases h
  · rename_i hx
    split at h
    · cases h
    · rename_i hy
      exact ⟨(dimension_eq_ok hx).1, (dimension_eq_ok hy).1⟩

theorem distinct_report (m : Memory) (u : Units) : Powers.Distinct (m.report u) :=
  Units.distinct_dimension _

end Memory

/-- All factors of a product satisfy `Q`. -/
def Units.Of (Q : Unit → Prop) (u : Units) : Prop := ∀ x ∈ u, Q x.1

/-- All factors of the units of a value satisfy `Q`. -/
def Value.Of (Q : Unit → Prop) : Value → Prop
  | number _ => True
  | quantity q => q.units.Of Q

/-- The product is made of the units of its operands. -/
theorem Arithmetic.raw?_of {Q : Unit → Prop} {symbol : String} {left right q : Quantity}
    (h : raw? symbol left right = some q) (hl : left.units.Of Q) (hr : right.units.Of Q) :
    q.units.Of Q := by
  unfold raw? at h
  split at h
  · split at h
    · cases h
      exact Powers.mul_forall hl hr
    · split at h
      · cases h
      · cases h
        exact Powers.div_forall hl hr
  · cases h

namespace Inquiry

variable {α β : Type} {Q : Unit → Prop}

/-- Whatever the answers are, an inquiry asks for the dimensions of no product but those in `P`. -/
def Concerns (P : Units → Prop) : Inquiry α → Prop
  | done _ => True
  | dimension u next => P u ∧ ∀ d, (next d).Concerns P
  | factor _ next => ∀ f, (next f).Concerns P

/-- **A memory holds what inquiries are about.** -/
theorem run_concerns {P : Units → Prop} (t : Inquiry α) : ∀ {m : Memory}, t.Concerns P →
    (∀ u ∈ m.measured, P u) → ∀ u ∈ (t.run m).2.measured, P u := by
  induction t with
  | done a => exact fun _ hm => hm
  -- what is new in the memory is the product that was asked about
  | dimension u next ih =>
    intro m ht hm
    refine ih _ (ht.2 _) ?_
    rw [Memory.dimension_snd]
    split
    · show ∀ v ∈ Memory.note m.measured u, P v
      unfold Memory.note
      split
      · exact hm
      · intro v hv
        rw [List.mem_append, List.mem_singleton] at hv
        rcases hv with hv | rfl
        · exact hm v hv
        · exact ht.1
    · exact hm
  | factor u next ih =>
    intro m ht hm
    refine ih _ (ht _) ?_
    rcases m.factor_snd u with h | h
    · rw [h]
      exact hm
    · rw [h]
      exact hm

section Concerns

variable {P : Units → Prop}

theorem Concerns.bind {t : Inquiry α} {f : α → Inquiry β} (ht : t.Concerns P)
    (hf : ∀ a, (f a).Concerns P) : (t.bind f).Concerns P := by
  induction t with
  | done a => exact hf a
  | dimension u next ih => exact ⟨ht.1, fun d => ih d (ht.2 d)⟩
  | factor u next ih => exact fun x => ih x (ht x)

theorem Concerns.andThen {ε ε' : Type} {t : Inquiry (Except ε α)} {fail : ε → ε'}
    {f : α → Inquiry (Except ε' β)} (ht : t.Concerns P) (hf : ∀ a, (f a).Concerns P) :
    (t.andThen fail f).Concerns P := by
  refine ht.bind fun o => ?_
  cases o with
  | error e => exact trivial
  | ok a => exact hf a

theorem concerns_dimension {a : Units} (ha : P a) : (dimension a done).Concerns P :=
  ⟨ha, fun _ => trivial⟩

theorem concerns_dimensions {a b : Units} (ha : P a) (hb : P b) : (dimensions a b).Concerns P :=
  (concerns_dimension ha).andThen fun _ => (concerns_dimension hb).andThen fun _ => trivial

theorem concerns_convertReading (v : Float) (a b : Units) (source target : Option (Unit.Law × Units)) :
    (convertReading v a b source target).Concerns P := by
  unfold convertReading
  simp only
  split
  · exact trivial
  · split
    · exact trivial
    · split
      · exact trivial
      · exact Concerns.andThen (fun _ => trivial) fun _ => trivial

theorem concerns_convert {a b : Units} (v : Float) (ha : P a) (hb : P b) :
    (convert v a b).Concerns P := by
  unfold convert
  split
  · exact trivial
  · split
    · refine (concerns_dimensions ha hb).andThen fun (x, y) => ?_
      simp only
      split
      · exact concerns_convertReading ..
      · exact trivial
    · exact trivial

theorem concerns_combine {symbol : String} {operation : Float → Float → Float}
    {left right : Quantity} (hl : P left.units) (hr : P right.units) :
    (combine symbol operation left right).Concerns P := by
  refine (concerns_dimensions hl hr).andThen fun (l, r) => ?_
  simp only
  split
  · refine (concerns_convert right.magnitude hr hl).andThen fun x => ?_
    cases x with
    | none => exact trivial
    | some x => exact trivial
  · exact trivial

theorem concerns_divideAlike {left right : Quantity} (l r : Dimension) (hl : P left.units)
    (hr : P right.units) : (divideAlike left right l r).Concerns P := by
  refine (concerns_convert right.magnitude hr hl).andThen fun x => ?_
  cases x with
  | none => exact trivial
  | some divisor =>
    simp only
    split
    · exact trivial
    · exact trivial

end Concerns

section Operators

variable (hkinds : ∀ k : Kind, k.units.Of Q)
include hkinds

theorem concerns_composeIn (symbol : String) {left right : Quantity} (l r : Dimension)
    (hl : left.units.Of Q) (hr : right.units.Of Q) :
    (composeIn symbol left right l r).Concerns (·.Of Q) := by
  unfold composeIn
  simp only
  split
  · rename_i kind q _ hq
    have hraw := Arithmetic.raw?_of hq hl hr
    refine (concerns_convert q.magnitude hraw (hkinds kind)).andThen fun x => ?_
    cases x with
    | none => exact trivial
    | some x => exact trivial
  · exact trivial

theorem concerns_compose (symbol : String) {left right : Quantity} (hl : left.units.Of Q)
    (hr : right.units.Of Q) : (compose symbol left right).Concerns (·.Of Q) :=
  (concerns_dimensions hl hr).andThen fun (l, r) => concerns_composeIn hkinds symbol l r hl hr

/-- **An operator asks about its operands**, about what they make, and about units of kinds. -/
theorem concerns_binary (symbol : String) {left right : Value} (hl : left.Of Q) (hr : right.Of Q) :
    (binary symbol left right).Concerns (·.Of Q) := by
  unfold binary
  split
  · rename_i op _
    unfold apply
    split
    · exact concerns_combine hl hr
    · exact concerns_combine hl hr
    · exact (concerns_compose hkinds "*" hl hr).andThen fun _ => trivial
    · refine (concerns_dimensions hl hr).andThen fun (l, r) => ?_
      simp only
      split
      · exact concerns_divideAlike l r hl hr
      · split
        · exact trivial
        · exact (concerns_composeIn hkinds "/" l r hl hr).andThen fun _ => trivial
    · exact trivial
  · exact trivial

end Operators

end Inquiry

end Reckon
