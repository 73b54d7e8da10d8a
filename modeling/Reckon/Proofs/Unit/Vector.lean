import Reckon.Arithmetic
import Reckon.Proofs.Unit.Powers

/-!
# Dimensions as vectors

The vector of a dimension has the exponent of each base dimension, in its canonical form. Dimensions
that are the same have the same vector (`vector_eq_of_same`), so vectors can be compared with `=`.

The table of kinds respects dimensions: the vector of a product is the sum of the vectors, that of a
quotient their difference (`vector_compose`), and different kinds have different vectors.
-/

namespace Reckon

/-- All base dimensions. -/
def BaseDimension.all : List BaseDimension :=
  [length, time, current, luminosity, mass, substance, temperature, printing]

theorem BaseDimension.mem_all (b : BaseDimension) : b ∈ all := by
  cases b <;> decide

theorem Kind.mem_all (k : Kind) : k ∈ all := by
  cases k <;> decide

/-- What is said of all kinds can be checked. -/
instance {P : Kind → Prop} [DecidablePred P] : Decidable (∀ k, P k) :=
  decidable_of_iff (∀ k ∈ Kind.all, P k) ⟨fun h k => h k k.mem_all, fun h k _ => h k⟩

/-- The exponents of the base dimensions. -/
abbrev DimensionVector := BaseDimension → Scalar

namespace DimensionVector

instance : DecidableEq DimensionVector := fun v w =>
  decidable_of_iff (∀ b ∈ BaseDimension.all, v b = w b)
    ⟨fun h => funext fun b => h b b.mem_all, fun h b _ => congrFun h b⟩

/-- The vector of what has no dimension. -/
def zero : DimensionVector := fun _ => 0

/-- The vector of a product. -/
def add (v w : DimensionVector) : DimensionVector := fun b => (v b + w b).canonical

/-- The vector of a quotient. -/
def sub (v w : DimensionVector) : DimensionVector := fun b => (v b - w b).canonical

end DimensionVector

/-- The exponent of each base dimension, in its canonical form. -/
def Dimension.vector (d : Dimension) : DimensionVector := fun b => (d.exponent b).canonical

theorem Unit.beq_iff_name {u v : Unit} : (u == v) = true ↔ u.name = v.name := by
  show (u.name == v.name) = true ↔ _
  exact beq_iff_eq

instance : EquivBEq Unit where
  symm := fun h => Unit.beq_iff_name.mpr (Unit.beq_iff_name.mp h).symm
  trans := fun h h' =>
    Unit.beq_iff_name.mpr ((Unit.beq_iff_name.mp h).trans (Unit.beq_iff_name.mp h'))
  rfl := Unit.beq_iff_name.mpr rfl

theorem Units.distinct_dimension (u : Units) : Powers.Distinct u.dimension :=
  (Powers.distinct_collect _).reduced

/-- **Dimensions that are the same have the same vector.** -/
theorem Dimension.vector_eq_of_same {d d' : Dimension} (hd : Powers.Distinct d)
    (h : d.same d' = true) : d.vector = d'.vector := by
  funext b
  unfold vector Powers.exponent
  rcases Powers.lookup_of_same hd h b with ⟨hnone, hnone'⟩ | ⟨e, e', he, he', hbeq⟩
  · rw [hnone, hnone']
  · rw [he, he']
    exact (Scalar.canonical_eq_of_beq hbeq).symm

namespace Kind

/-- The vector of a kind. -/
def vector (k : Kind) : DimensionVector := k.dimension.vector

theorem same_of_ofDimension? {d : Dimension} {k : Kind} (h : ofDimension? d = some k) :
    d.same k.dimension = true := by
  have hfound := List.find?_some h
  exact hfound

theorem vector_of_ofDimension? {d : Dimension} {k : Kind} (hd : Powers.Distinct d)
    (h : ofDimension? d = some k) : d.vector = k.vector :=
  Dimension.vector_eq_of_same hd (same_of_ofDimension? h)

theorem vector_injective : ∀ k l : Kind, k.vector = l.vector → k = l := by
  decide +kernel

theorem vector_product : ∀ l r k : Kind, product? l r = some k → k.vector = l.vector.add r.vector := by
  decide +kernel

theorem vector_quotient : ∀ l r k : Kind, quotient? l r = some k →
    k.vector = l.vector.sub r.vector := by
  decide +kernel

theorem sub_self : ∀ k : Kind, DimensionVector.sub k.vector k.vector = .zero := by
  decide +kernel

end Kind

end Reckon
