import Mathlib.Algebra.BigOperators.Group.List.Basic
import Mathlib.Tactic.Ring
import Reckon.Proofs.Unit.Vector

/-!
# Dimensions without rounding

As long as all exponents are exact integers, the dimension of a product of units is what it should
be: the exponent of a base dimension is the product's `degree` in it (`vector_of_areWhole`). The
degree of a product is the sum of the degrees, that of a quotient their difference, and the same
product in another order has the same degree. Factors are told apart by their names, so all of this
takes that units of one name have one degree.
-/

namespace Reckon

namespace Scalar

/-- Whether a number is held as an integer. -/
def isExact : Scalar → Bool
  | exact _ => true
  | float _ => false

/-- The integer; no other number counts. -/
def integer : Scalar → Int
  | exact n => n
  | float _ => 0

theorem eq_exact {a : Scalar} (h : a.isExact = true) : a = exact a.integer := by
  cases a with
  | exact n => rfl
  | float x => cases h

theorem add_eq_exact {a b : Scalar} (ha : a.isExact = true) (hb : b.isExact = true) :
    a + b = exact (a.integer + b.integer) := by
  rw [eq_exact ha, eq_exact hb]
  rfl

theorem mul_eq_exact {a b : Scalar} (ha : a.isExact = true) (hb : b.isExact = true) :
    a * b = exact (a.integer * b.integer) := by
  rw [eq_exact ha, eq_exact hb]
  rfl

theorem isExact_neg {a : Scalar} (ha : a.isExact = true) : (-a).isExact = true := by
  rw [eq_exact ha]
  rfl

theorem integer_neg (a : Scalar) : (-a).integer = -a.integer := by
  cases a with
  | exact n => rfl
  | float x => exact Int.neg_zero.symm

theorem integer_of_isZero {a : Scalar} (ha : a.isExact = true) (h : a.isZero = true) :
    a.integer = 0 := by
  rw [eq_exact ha, isZero_exact, decide_eq_true_eq] at h
  exact h

theorem integer_eq_of_beq {a b : Scalar} (ha : a.isExact = true) (hb : b.isExact = true)
    (h : (a == b) = true) : a.integer = b.integer := by
  rw [eq_exact ha, eq_exact hb, beq_exact_exact] at h
  exact h

end Scalar

namespace Unit

mutual

/-- The exponent of a base dimension in the dimension of a unit. -/
def degree (b : BaseDimension) : Unit → Int
  | base _ _ d => if d = some b then 1 else 0
  | derived _ _ _ reference => degreeAll b reference
  | missing _ => 0

/-- The exponent of a base dimension in the dimension of a product. -/
def degreeAll (b : BaseDimension) : List (Unit × Scalar) → Int
  | [] => 0
  | (u, e) :: rest => e.integer * u.degree b + degreeAll b rest

end

mutual

/-- Whether all exponents in the definition of a unit are integers. -/
def isWhole : Unit → Bool
  | base .. | missing _ => true
  | derived _ _ _ reference => areWhole reference

/-- Whether all exponents in a product, and in the definitions of its factors, are integers. -/
def areWhole : List (Unit × Scalar) → Bool
  | [] => true
  | (u, e) :: rest => u.isWhole && e.isExact && areWhole rest

end

theorem areWhole_iff {us : List (Unit × Scalar)} :
    areWhole us = true ↔ ∀ x ∈ us, x.1.isWhole = true ∧ x.2.isExact = true := by
  induction us with
  | nil => simp [areWhole]
  | cons x rest ih =>
    obtain ⟨u, e⟩ := x
    rw [areWhole, Bool.and_eq_true, Bool.and_eq_true, ih, List.forall_mem_cons]

end Unit

namespace Powers

variable {κ : Type}

/-- All exponents are integers. -/
def Exact (p : Powers κ) : Prop := ∀ x ∈ p, x.2.isExact = true

theorem exact_nil : Exact ([] : Powers κ) := fun _ hx => nomatch hx

/-- The sum of what `f` makes of the factors, times their exponents. -/
def total (f : κ → Int) (p : Powers κ) : Int := (p.map fun x => x.2.integer * f x.1).sum

variable {f : κ → Int} {p : Powers κ}

theorem total_cons (x : κ × Scalar) (rest : Powers κ) :
    total f (x :: rest) = x.2.integer * f x.1 + total f rest := by
  unfold total
  rw [List.map_cons, List.sum_cons]

theorem total_append (p q : Powers κ) : total f (p ++ q) = total f p + total f q := by
  unfold total
  rw [List.map_append, List.sum_append]

/-- Factors with exponent zero do not count. -/
theorem total_filter {keep : κ × Scalar → Bool} (hp : Exact p)
    (hzero : ∀ x, keep x = false → x.2.isZero = true) : total f (p.filter keep) = total f p := by
  induction p with
  | nil => rfl
  | cons x rest ih =>
    obtain ⟨hx, hrest⟩ := List.forall_mem_cons.mp hp
    by_cases hkeep : keep x = true
    · rw [List.filter_cons_of_pos hkeep, total_cons, total_cons, ih hrest]
    · have hzero' := Scalar.integer_of_isZero hx (hzero x (Bool.eq_false_iff.mpr hkeep))
      rw [List.filter_cons_of_neg hkeep, total_cons, ih hrest, hzero', Int.zero_mul, Int.zero_add]

variable [BEq κ]

theorem Exact.raise (hp : Exact p) {key : κ} {e : Scalar} (he : e.isExact = true) :
    Exact (p.raise key e) := by
  induction p with
  | nil => exact List.forall_mem_singleton.mpr he
  | cons x rest ih =>
    obtain ⟨k, c⟩ := x
    obtain ⟨hc, hrest⟩ := List.forall_mem_cons.mp hp
    unfold Powers.raise
    split
    · refine List.forall_mem_cons.mpr ⟨?_, hrest⟩
      show (c + e).isExact = true
      rw [Scalar.add_eq_exact hc he]
      rfl
    · exact List.forall_mem_cons.mpr ⟨hc, ih hrest⟩

theorem Exact.adjust (hp : Exact p) {key : κ} {e : Scalar} (he : e.isExact = true) :
    Exact (p.adjust key e) :=
  fun x hx => hp.raise he x (List.mem_filter.mp hx).1

theorem Exact.mul {a b : Powers κ} (ha : Exact a) (hb : Exact b) : Exact (a.mul b) := by
  unfold Powers.mul
  induction b generalizing a with
  | nil => exact ha
  | cons x rest ih =>
    obtain ⟨hx, hrest⟩ := List.forall_mem_cons.mp hb
    exact ih (ha.adjust hx) hrest

theorem Exact.div {a b : Powers κ} (ha : Exact a) (hb : Exact b) : Exact (a.div b) := by
  unfold Powers.div
  induction b generalizing a with
  | nil => exact ha
  | cons x rest ih =>
    obtain ⟨hx, hrest⟩ := List.forall_mem_cons.mp hb
    exact ih (ha.adjust (Scalar.isExact_neg hx)) hrest

/-- Raising a factor counts it once more, if factors that are told apart by nothing count alike. -/
theorem total_raise (hp : Exact p) {key : κ} {e : Scalar} (he : e.isExact = true)
    (hf : ∀ x ∈ p, (x.1 == key) = true → f x.1 = f key) :
    total f (p.raise key e) = total f p + e.integer * f key := by
  induction p with
  | nil =>
    show total f [(key, e)] = _
    rw [total_cons]
    exact Int.add_comm ..
  | cons x rest ih =>
    obtain ⟨k, c⟩ := x
    obtain ⟨hc, hrest⟩ := List.forall_mem_cons.mp hp
    obtain ⟨hk, hfrest⟩ := List.forall_mem_cons.mp hf
    unfold Powers.raise
    split
    · rename_i heq
      rw [total_cons, total_cons, Scalar.add_eq_exact hc he, ← hk heq]
      show (c.integer + e.integer) * f k + _ = _
      ring
    · rw [total_cons, total_cons, ih hrest hfrest, Int.add_assoc]

theorem total_adjust (hp : Exact p) {key : κ} {e : Scalar} (he : e.isExact = true)
    (hf : ∀ x ∈ p, (x.1 == key) = true → f x.1 = f key) :
    total f (p.adjust key e) = total f p + e.integer * f key := by
  rw [← total_raise hp he hf]
  refine total_filter (hp.raise he) fun x hx => ?_
  simp only [Bool.not_eq_false', Bool.and_eq_true] at hx
  exact hx.2

section Agreement

variable {Q : κ → Prop} (hf : ∀ k k', Q k → Q k' → (k == k') = true → f k = f k')
include hf

theorem total_mul {a b : Powers κ} (ha : Exact a) (hb : Exact b) (hqa : ∀ x ∈ a, Q x.1)
    (hqb : ∀ x ∈ b, Q x.1) : total f (a.mul b) = total f a + total f b := by
  unfold Powers.mul
  induction b generalizing a with
  | nil => exact (Int.add_zero _).symm
  | cons y rest ih =>
    obtain ⟨hy, hrest⟩ := List.forall_mem_cons.mp hb
    obtain ⟨hqy, hqrest⟩ := List.forall_mem_cons.mp hqb
    have hagree := fun x hx => hf x.1 y.1 (hqa x hx) hqy
    rw [total_cons, ← Int.add_assoc, ← total_adjust ha hy hagree]
    exact ih (ha.adjust hy) hrest (adjust_forall y.2 hqy hqa) hqrest

theorem total_div {a b : Powers κ} (ha : Exact a) (hb : Exact b) (hqa : ∀ x ∈ a, Q x.1)
    (hqb : ∀ x ∈ b, Q x.1) : total f (a.div b) = total f a - total f b := by
  unfold Powers.div
  induction b generalizing a with
  | nil => exact (Int.sub_zero _).symm
  | cons y rest ih =>
    obtain ⟨hy, hrest⟩ := List.forall_mem_cons.mp hb
    obtain ⟨hqy, hqrest⟩ := List.forall_mem_cons.mp hqb
    have hagree := fun x hx => hf x.1 y.1 (hqa x hx) hqy
    have hstep := total_adjust ha (Scalar.isExact_neg hy) hagree
    rw [Scalar.integer_neg] at hstep
    have hrest := ih (ha.adjust (Scalar.isExact_neg hy)) hrest
      (adjust_forall (-y.2) hqy hqa) hqrest
    rw [hstep] at hrest
    rw [total_cons]
    refine hrest.trans ?_
    ring

/-- The same product in another order has the same total. -/
theorem total_of_same [EquivBEq κ] {a b : Powers κ} (hd : a.Distinct) (h : a.same b = true)
    (ha : Exact a) (hb : Exact b) (hqa : ∀ x ∈ a, Q x.1) (hqb : ∀ x ∈ b, Q x.1) :
    total f a = total f b := by
  obtain ⟨b', hperm, hmatch⟩ := exists_perm_of_same hd h
  have htotal : total f b' = total f b := (hperm.map _).sum_eq
  rw [← htotal]
  have hb' : Exact b' := fun x hx => hb x (hperm.mem_iff.mp hx)
  have hqb' : ∀ x ∈ b', Q x.1 := fun x hx => hqb x (hperm.mem_iff.mp hx)
  -- the factors are matched one to one, so the totals are compared factor by factor
  clear htotal hperm hd h
  induction hmatch with
  | nil => rfl
  | @cons x y a b' hxy _ ih =>
    obtain ⟨hx, ha⟩ := List.forall_mem_cons.mp ha
    obtain ⟨hy, hb'⟩ := List.forall_mem_cons.mp hb'
    obtain ⟨hqx, hqa⟩ := List.forall_mem_cons.mp hqa
    obtain ⟨hqy, hqb'⟩ := List.forall_mem_cons.mp hqb'
    rw [total_cons, total_cons, ih ha hqa hb' hqb', hf x.1 y.1 hqx hqy hxy.1,
      Scalar.integer_eq_of_beq hy hx hxy.2]

end Agreement

end Powers

/-- One for the base dimension `b`, nothing for the others. -/
def BaseDimension.indicator (b d : BaseDimension) : Int := if d = b then 1 else 0

namespace Powers

open BaseDimension (indicator)

theorem exact_collect {visits : List (BaseDimension × Scalar)} (h : Exact visits) :
    Exact (collect visits) :=
  List.foldlRecOn visits _ exact_nil fun _ hp x hx => hp.raise (h x hx)

theorem total_collect {f : BaseDimension → Int} {visits : List (BaseDimension × Scalar)}
    (h : Exact visits) : total f (collect visits) = total f visits := by
  have hfold : ∀ p : Powers BaseDimension, Exact p →
      total f (visits.foldl (fun p x => p.raise x.1 x.2) p) = total f p + total f visits := by
    induction visits with
    | nil => exact fun p _ => (Int.add_zero _).symm
    | cons x rest ih =>
      obtain ⟨hx, hrest⟩ := List.forall_mem_cons.mp h
      intro p hp
      rw [total_cons, ← Int.add_assoc,
        ← total_raise hp hx fun y _ heq => congrArg f (beq_iff_eq.mp heq)]
      exact ih hrest _ (hp.raise hx)
  have hempty := hfold [] exact_nil
  rw [show total f [] = 0 from rfl, Int.zero_add] at hempty
  exact hempty

/-- The exponent of a base dimension is all that counts towards its total. -/
theorem exponent_eq_total {p : Powers BaseDimension} (hd : p.Distinct) (hp : Exact p)
    (b : BaseDimension) : p.exponent b = .exact (total (indicator b) p) := by
  induction p with
  | nil => rfl
  | cons x rest ih =>
    obtain ⟨k, e⟩ := x
    obtain ⟨hk, hdrest⟩ := List.pairwise_cons.mp hd
    obtain ⟨he, hrest⟩ := List.forall_mem_cons.mp hp
    have hih := ih hdrest hrest
    unfold exponent at hih ⊢
    rw [List.lookup_cons, total_cons]
    by_cases hbk : b = k
    · subst hbk
      -- the keys differ, so what is left contributes nothing to this one
      have hnone : rest.lookup b = none := by
        rw [List.lookup_eq_none_iff]
        intro y hy
        rw [bne, hk y hy]
        rfl
      rw [hnone] at hih
      have hzero : total (indicator b) rest = 0 := (Scalar.exact.inj hih).symm
      rw [BEq.rfl, hzero, Int.add_zero]
      show e = .exact (e.integer * if b = b then 1 else 0)
      rw [if_pos rfl, Int.mul_one]
      exact Scalar.eq_exact he
    · have hindicator : indicator b k = 0 := if_neg fun h => hbk h.symm
      rw [beq_eq_false_iff_ne.mpr hbk, hindicator, Int.mul_zero, Int.zero_add]
      exact hih

end Powers

namespace Unit

open BaseDimension (indicator)

theorem degreeAll_eq_total (b : BaseDimension) (us : Units) :
    degreeAll b us = Powers.total (degree b) us := by
  induction us with
  | nil => rfl
  | cons x rest ih =>
    obtain ⟨u, e⟩ := x
    rw [degreeAll, ih, Powers.total_cons]

mutual

/-- The base dimensions of a unit add up to its degrees. -/
theorem total_dimensions (b : BaseDimension) : ∀ (u : Unit) (n : Int), u.isWhole = true →
    Powers.Exact (u.dimensions (.exact n)) ∧
      Powers.total (indicator b) (u.dimensions (.exact n)) = n * u.degree b
  | base _ _ (some d), n, _ => by
    refine ⟨List.forall_mem_singleton.mpr rfl, ?_⟩
    rw [dimensions, Powers.total_cons, degree]
    simp only [Option.some.injEq]
    exact Int.add_zero _
  | base _ _ none, n, _ => by
    rw [dimensions, degree, if_neg (by simp), Int.mul_zero]
    exact ⟨Powers.exact_nil, rfl⟩
  | missing _, n, _ => by
    rw [dimensions, degree, Int.mul_zero]
    exact ⟨Powers.exact_nil, rfl⟩
  | derived _ _ _ reference, n, h => by
    rw [dimensions, degree]
    exact total_dimensionsAll b reference n h

theorem total_dimensionsAll (b : BaseDimension) : ∀ (us : List (Unit × Scalar)) (n : Int),
    areWhole us = true → Powers.Exact (dimensionsAll (.exact n) us) ∧
      Powers.total (indicator b) (dimensionsAll (.exact n) us) = n * degreeAll b us
  | [], n, _ => ⟨Powers.exact_nil, (Int.mul_zero n).symm⟩
  | (u, e) :: rest, n, h => by
    simp only [areWhole, Bool.and_eq_true] at h
    obtain ⟨⟨hu, he⟩, hrest⟩ := h
    have hunit := total_dimensions b u (n * e.integer) hu
    have htail := total_dimensionsAll b rest n hrest
    rw [dimensionsAll, Scalar.mul_eq_exact rfl he]
    refine ⟨List.forall_mem_append.mpr ⟨hunit.1, htail.1⟩, ?_⟩
    rw [Powers.total_append, degreeAll]
    refine (congrArg₂ (· + ·) hunit.2 htail.2).trans ?_
    ring

end

end Unit

/-- **Without fractions the dimension of a product is what it should be.** -/
theorem Units.vector_of_areWhole {u : Units} (h : Unit.areWhole u = true) (b : BaseDimension) :
    u.dimension.vector b = .exact (Unit.degreeAll b u) := by
  have hvisits : Powers.Exact (Unit.dimensionsAll 1 u) ∧
      Powers.total b.indicator (Unit.dimensionsAll 1 u) = 1 * Unit.degreeAll b u :=
    Unit.total_dimensionsAll b u 1 h
  have hcollect := Powers.exact_collect hvisits.1
  have hreduced : Powers.Exact (Powers.reduced (Powers.collect (Unit.dimensionsAll 1 u))) :=
    fun x hx => hcollect x (List.mem_filter.mp hx).1
  unfold Dimension.vector
  rw [Powers.exponent_eq_total u.distinct_dimension hreduced, Scalar.canonical_exact]
  have hfilter : Powers.total b.indicator u.dimension =
      Powers.total b.indicator (Powers.collect (Unit.dimensionsAll 1 u)) := by
    refine Powers.total_filter hcollect fun x hx => ?_
    simpa using hx
  rw [hfilter, Powers.total_collect hvisits.1]
  refine congrArg _ (hvisits.2.trans ?_)
  exact Int.one_mul _

end Reckon
