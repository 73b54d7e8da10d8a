import Mathlib.Data.List.Permutation
import Mathlib.Data.List.Sections
import Reckon.Proofs.Unit.Lookup

/-!
# The units in which kinds are given

The units of a kind can be met in several forms: with their factors in another order, and with
exponents that are doubles. All of these forms have the dimension of the kind (`kind_of_form`), so a
memory that holds no units but genuine ones reports the kind for its units, whatever it has met
before (`kindOf_units`).
-/

namespace Reckon

namespace Kind

theorem landmark_of_mem : ∀ (k : Kind), ∀ x ∈ k.units, x.1 ∈ Registry.landmarks := by
  intro k
  cases k <;> simp [units, Registry.landmarks]

theorem genuine_units (k : Kind) : k.units.Genuine where
  distinct := by
    revert k
    unfold Powers.Distinct
    decide +kernel
  nameable := fun x hx => by
    obtain ⟨others, hmem⟩ := Registry.landmark_mem (k.landmark_of_mem x hx)
    exact .known hmem

theorem same_self : ∀ k : Kind, k.units.same k.units = true := by
  decide +kernel

/-- An integer other than zero that is also a double. -/
def isPlain (e : Scalar) : Bool := e.isExact && !e.isZero && e == .float e.toFloat

theorem isPlain_exponent : ∀ k : Kind, ∀ x ∈ k.units, isPlain x.2 = true := by
  decide +kernel

theorem eq_of_isPlain {a e : Scalar} (he : isPlain e = true) (h : (a == e) = true) :
    a = e ∨ a = .float e.toFloat := by
  unfold isPlain at he
  simp only [Bool.and_eq_true, Bool.not_eq_true'] at he
  obtain ⟨⟨hexact, hzero⟩, hfloat⟩ := he
  rw [Scalar.eq_exact hexact] at h hzero hfloat ⊢
  rw [Scalar.isZero_exact, decide_eq_false_iff_not] at hzero
  exact Scalar.eq_or_eq_of_beq_exact hzero hfloat h

/-- A factor with its exponent as an integer or as a double. -/
def formsOf (x : Unit × Scalar) : List (Unit × Scalar) := [x, (x.1, .float x.2.toFloat)]

/-- The forms in which the units of a kind can be met. -/
def forms (k : Kind) : List Units := (k.units.map formsOf).sections.flatMap List.permutations'

/-- There are no other forms. -/
theorem mem_forms {k : Kind} {x : Units} (hx : x.Of Unit.Nameable) (h : k.units.same x = true) :
    x ∈ k.forms := by
  obtain ⟨x', hperm, hmatch⟩ := Powers.exists_perm_of_same k.genuine_units.distinct h
  have hx' : ∀ y ∈ x', y.1.Nameable := fun y hy => hx y (hperm.mem_iff.mp hy)
  have hlandmark := k.landmark_of_mem
  have hplain := k.isPlain_exponent
  refine List.mem_flatMap.mpr ⟨x', ?_, List.mem_permutations'.mpr hperm.symm⟩
  rw [List.mem_sections]
  clear h hperm
  generalize k.units = units at hmatch hlandmark hplain
  induction hmatch with
  | nil => exact .nil
  | @cons p y units x' hpy _ ih =>
    obtain ⟨hy, hx'⟩ := List.forall_mem_cons.mp hx'
    obtain ⟨hp, hlandmark⟩ := List.forall_mem_cons.mp hlandmark
    obtain ⟨hplain', hplain⟩ := List.forall_mem_cons.mp hplain
    have hunit : y.1 = p.1 := hy.eq_landmark hp (Unit.beq_iff_name.mp hpy.1).symm
    refine .cons ?_ (ih hx' hlandmark hplain)
    rcases eq_of_isPlain hplain' hpy.2 with hexponent | hexponent
    · exact List.mem_cons.mpr (.inl (Prod.ext hunit hexponent))
    · exact List.mem_cons_of_mem _ (List.mem_singleton.mpr (Prod.ext hunit hexponent))

theorem kind_of_form : ∀ k : Kind, ∀ x ∈ k.forms, ofDimension? x.dimension = some k := by
  decide +kernel

end Kind

/-- All units that the memory has met are made of units that can be named. -/
def Memory.Nameable (m : Memory) : Prop := ∀ u ∈ m.measured, u.Of Unit.Nameable

/-- The kind of a product of units, if its dimension has a name. -/
def Memory.kindOf (m : Memory) (u : Units) : Option Kind := Kind.ofDimension? (m.report u)

/-- **A memory reports the kind for its units.** -/
theorem Memory.kindOf_units {m : Memory} (hm : m.Nameable) (k : Kind) :
    m.kindOf k.units = some k := by
  unfold kindOf report firstForm
  rcases hfind : m.measured.find? k.units.same with _ | x
  · exact k.kind_of_form k.units (Kind.mem_forms k.genuine_units.nameable k.same_self)
  · exact k.kind_of_form x
      (Kind.mem_forms (hm x (List.mem_of_find?_eq_some hfind)) (List.find?_some hfind))

end Reckon
