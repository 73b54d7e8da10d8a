import Reckon.Proofs.Shape

/-!
# When quantities cannot be composed

Quantities of multiplicative units are composed if the table has an entry for their kinds, apart
from three obstacles (`compose_eq_error`): a unit without a definition, a dimension of the product
that is not the one of the kind, and a factor that is too large for a double.

The second one takes rounding. As long as no exponent is a double, neither in the operands nor in
anything that the memory has met, the product has the kind that the table names
(`kindOf_raw_of_isWhole`).
-/

namespace Reckon

/-! ### Dimensions of a kind -/

theorem Scalar.beq_comm_exact {a : Scalar} {n : Int} (h : (exact n == a) = true) :
    (a == exact n) = true := by
  cases a with
  | exact m => exact (beq_exact_exact m n).mpr ((beq_exact_exact n m).mp h).symm
  | float x => exact h

namespace Kind

theorem exponent_of_dimension : ∀ k : Kind, ∀ x ∈ k.dimension,
    x.2.isExact = true ∧ x.2.isZero = false := by
  decide +kernel

theorem distinct_dimension (k : Kind) : Powers.Distinct k.dimension :=
  k.units.distinct_dimension

/-- Dimensions of one kind are the same. -/
theorem same_of_ofDimension?_eq {d d' : Dimension} {k : Kind} (hd' : Powers.Distinct d')
    (h : ofDimension? d = some k) (h' : ofDimension? d' = some k) : d.same d' = true := by
  have hsame := same_of_ofDimension? h
  have hsame' := same_of_ofDimension? h'
  obtain ⟨hlen, hall⟩ := Powers.same_iff.mp hsame
  obtain ⟨hlen', -⟩ := Powers.same_iff.mp hsame'
  refine Powers.same_iff.mpr ⟨hlen.trans hlen'.symm, fun x hx => ?_⟩
  obtain ⟨e, he, hbeq⟩ := hall x hx
  rcases Powers.lookup_of_same hd' hsame' x.1 with ⟨-, hnone⟩ | ⟨e', n, he', hn, hbeq'⟩
  · rw [he] at hnone
    cases hnone
  · rw [he] at hn
    obtain rfl := Option.some.inj hn
    refine ⟨e', he', ?_⟩
    -- both exponents are forms of the integer that the kind has there
    obtain ⟨y, hy, -, rfl⟩ := Powers.mem_of_lookup he
    obtain ⟨hexact, hzero⟩ := k.exponent_of_dimension y hy
    rw [Scalar.eq_exact hexact] at hbeq hbeq' hzero
    rw [Scalar.isZero_exact, decide_eq_false_iff_not] at hzero
    exact Scalar.beq_of_beq_exact hzero (Scalar.beq_comm_exact hbeq') (Scalar.beq_comm_exact hbeq)

end Kind

namespace Arithmetic

variable {m m₁ : Memory} {symbol : String} {left right : Quantity}

/-! ### The steps of a composition -/

theorem raw?_eq_some {q : Quantity} (h : raw? symbol left right = some q) :
    left.units.isMultiplicative = true ∧ right.units.isMultiplicative = true ∧
      (symbol = "*" ∧ q.units = Powers.mul left.units right.units ∨
        symbol ≠ "*" ∧ q.units = Powers.div left.units right.units) := by
  unfold raw? at h
  split at h
  · rename_i hmultiplicative
    rw [Bool.and_eq_true] at hmultiplicative
    refine ⟨hmultiplicative.1, hmultiplicative.2, ?_⟩
    split at h
    · rename_i hsymbol
      cases h
      exact .inl ⟨hsymbol, rfl⟩
    · rename_i hsymbol
      split at h
      · cases h
      · cases h
        exact .inr ⟨hsymbol, rfl⟩
  · cases h

theorem dimensions_eq_error {a b : Units} {e : Abort} (h : m.dimensions a b = (.error e, m₁)) :
    e = .noDimension ∧ ¬(a.isDefined = true ∧ b.isDefined = true) := by
  have hnone : ∀ {m m₁ : Memory} {u : Units} {e : Abort}, m.dimension u = (.error e, m₁) →
      e = .noDimension ∧ u.isDefined = false := by
    intro m m₁ u e h
    by_cases hu : u.isDefined = true
    · rw [Memory.dimension_of_isDefined hu] at h
      cases h
    · unfold Memory.dimension at h
      rw [if_neg hu] at h
      cases h
      exact ⟨rfl, Bool.eq_false_iff.mpr hu⟩
  unfold Memory.dimensions at h
  split at h
  · rename_i hx
    cases h
    obtain ⟨rfl, ha⟩ := hnone hx
    exact ⟨rfl, fun hboth => by rw [ha] at hboth; cases hboth.1⟩
  · split at h
    · rename_i hy
      cases h
      obtain ⟨rfl, hb⟩ := hnone hy
      exact ⟨rfl, fun hboth => by rw [hb] at hboth; cases hboth.2⟩
    · cases h

theorem special?_of_isMultiplicative {u : Units} (h : u.isMultiplicative = true) :
    u.special? = some none := by
  unfold Units.special?
  rw [if_pos h]

/-- What can keep a reading in multiplicative units from being converted. -/
theorem convert_fails {x : Float} {a b : Units} {o : Except Abort (Option Float)}
    (ha : a.isMultiplicative = true) (hb : b.isMultiplicative = true)
    (h : m.convert x a b = (o, m₁)) (ho : ∀ y, o ≠ .ok (some y)) :
    (∃ d d', m.dimensions a b = (.ok (d, d'), m₁) ∧ d.same d' = false ∧ o = .ok none) ∨
      (∃ e, m.dimensions a b = (.error e, m₁) ∧ o = .error e) ∨
        ∃ (e : Abort) (m₂ : Memory), m₂.Extends m₁ ∧
          (m₂.factor (Powers.div a b)).1.bind Scalar.double = .error e ∧ o = .error e := by
  unfold Memory.convert at h
  split at h
  · cases h
    exact absurd rfl (ho x)
  · rw [special?_of_isMultiplicative ha, special?_of_isMultiplicative hb] at h
    simp only at h
    split at h
    · rename_i hdimensions
      cases h
      exact .inr (.inl ⟨_, hdimensions, rfl⟩)
    · rename_i d d' m₂ hdimensions
      split at h
      · unfold Memory.convertReading at h
        simp only [Option.isSome_none, Bool.false_and, Bool.false_eq_true, if_false,
          Option.elim_none, Option.map_none, Option.getD_none] at h
        refine .inr (.inr ?_)
        have hgrows := m₂.extends_factor (Powers.div a b)
        split at h
        · rename_i hfactor
          rw [hfactor] at hgrows
          cases h
          exact ⟨_, m₂, hgrows, by rw [hfactor]; rfl, rfl⟩
        · rename_i f m₃ hfactor
          rw [hfactor] at hgrows
          obtain ⟨rfl, rfl⟩ := Prod.mk.inj h
          rcases hdouble : f.double with e | y
          · exact ⟨e, m₂, hgrows, by rw [hfactor]; exact hdouble, rfl⟩
          · exact absurd (by rw [hdouble]; rfl) (ho (x * y))
      · rename_i hsame
        cases h
        exact .inl ⟨d, d', hdimensions, Bool.eq_false_iff.mpr hsame, rfl⟩

theorem isDefined_iff {u : Units} : u.isDefined = true ↔ u.Of fun v => v.isDefined = true :=
  List.all_eq_true

theorem isMultiplicative_iff {u : Units} :
    u.isMultiplicative = true ↔ u.Of fun v => v.isMultiplicative = true :=
  List.all_eq_true

theorem units_of_kind : ∀ k : Kind, k.units.isDefined = true ∧ k.units.isMultiplicative = true := by
  decide +kernel

/-- The product of distinct factors has distinct factors. -/
theorem raw?_distinct {q : Quantity} (h : raw? symbol left right = some q)
    (hl : Powers.Distinct left.units) : Powers.Distinct q.units := by
  obtain ⟨-, -, ⟨-, hq⟩ | ⟨-, hq⟩⟩ := raw?_eq_some h
  · rw [hq]
    exact hl.mul _
  · rw [hq]
    exact hl.div _

end Arithmetic

/-! ### Without rounding -/

/-- All exponents in what the memory has met are integers. -/
def Memory.IsWhole (m : Memory) : Prop := ∀ u ∈ m.measured, Unit.areWhole u = true

theorem Powers.exact_of_areWhole {u : Units} (h : Unit.areWhole u = true) : Powers.Exact u :=
  fun x hx => (Unit.areWhole_iff.mp h x hx).2

theorem Unit.degreeAll_of_same {u x : Units} (hu : u.Genuine) (hx : x.Of Unit.Nameable)
    (h : u.same x = true) (huw : areWhole u = true) (hxw : areWhole x = true) (b : BaseDimension) :
    degreeAll b u = degreeAll b x := by
  rw [degreeAll_eq_total, degreeAll_eq_total]
  refine Powers.total_of_same ?_ hu.distinct h (Powers.exact_of_areWhole huw)
    (Powers.exact_of_areWhole hxw) hu.nameable hx
  exact fun v w hv hw hvw => hv.degree_eq hw (Unit.beq_iff_name.mp hvw) b

/-- A memory without fractions reports the degrees of a product. -/
theorem Memory.vector_of_isWhole {m : Memory} {u : Units} (hm : m.Nameable) (hmw : m.IsWhole)
    (hu : u.Genuine) (huw : Unit.areWhole u = true) (b : BaseDimension) :
    (m.report u).vector b = .exact (Unit.degreeAll b u) := by
  unfold report firstForm
  rcases hfind : m.measured.find? u.same with _ | x
  · exact Units.vector_of_areWhole huw b
  · have hx := List.mem_of_find?_eq_some hfind
    rw [Unit.degreeAll_of_same hu (hm x hx) (List.find?_some hfind) huw (hmw x hx)]
    exact Units.vector_of_areWhole (hmw x hx) b

/-- All exponents are integers other than zero. -/
def Powers.Plain (d : Dimension) : Prop := ∀ x ∈ d, x.2.isExact = true ∧ x.2.isZero = false

theorem Units.plain_dimension {u : Units} (h : Unit.areWhole u = true) : Powers.Plain u.dimension := by
  intro x hx
  obtain ⟨hcollect, hzero⟩ := List.mem_filter.mp hx
  have hvisits := (Unit.total_dimensionsAll .length u 1 h).1
  exact ⟨Powers.exact_collect hvisits x hcollect, by simpa using hzero⟩

namespace Dimension

variable {d d' : Dimension}

theorem vector_of_lookup_eq_none {b : BaseDimension} (h : d.lookup b = none) :
    d.vector b = .exact 0 := by
  unfold vector Powers.exponent
  rw [h]
  rfl

theorem vector_of_lookup_eq_some (hd : Powers.Plain d) {b : BaseDimension} {e : Scalar}
    (h : d.lookup b = some e) : d.vector b = e ∧ e ≠ .exact 0 := by
  obtain ⟨x, hx, -, rfl⟩ := Powers.mem_of_lookup h
  obtain ⟨hexact, hzero⟩ := hd x hx
  refine ⟨?_, fun heq => ?_⟩
  · unfold vector Powers.exponent
    rw [h, Option.getD_some, Scalar.eq_exact hexact, Scalar.canonical_exact]
  · rw [heq] at hzero
    cases hzero

theorem lookup_eq_of_vector_eq (hd : Powers.Plain d) (hd' : Powers.Plain d')
    (h : d.vector = d'.vector) (b : BaseDimension) : d.lookup b = d'.lookup b := by
  have hb := congrFun h b
  rcases hlookup : d.lookup b with _ | e <;> rcases hlookup' : d'.lookup b with _ | e'
  · rfl
  · obtain ⟨hvector, hne⟩ := vector_of_lookup_eq_some hd' hlookup'
    rw [vector_of_lookup_eq_none hlookup, hvector] at hb
    exact absurd hb.symm hne
  · obtain ⟨hvector, hne⟩ := vector_of_lookup_eq_some hd hlookup
    rw [vector_of_lookup_eq_none hlookup', hvector] at hb
    exact absurd hb hne
  · rw [(vector_of_lookup_eq_some hd hlookup).1, (vector_of_lookup_eq_some hd' hlookup').1] at hb
    rw [hb]

theorem length_le_of_lookup_eq (hd : Powers.Distinct d)
    (h : ∀ b, d.lookup b = d'.lookup b) : d.length ≤ d'.length := by
  have hnodup : (d.map Prod.fst).Nodup := by
    refine List.pairwise_map.mpr (hd.imp fun hne heq => ?_)
    rw [heq, BEq.rfl] at hne
    cases hne
  -- factors that are found in one dimension are found in the other
  have hsubset : d.map Prod.fst ⊆ d'.map Prod.fst := by
    intro b hb
    obtain ⟨x, hx, rfl⟩ := List.mem_map.mp hb
    have hlookup := Powers.lookup_of_mem hd hx BEq.rfl
    rw [h x.1] at hlookup
    obtain ⟨y, hy, hxy, -⟩ := Powers.mem_of_lookup hlookup
    rw [beq_iff_eq.mp hxy]
    exact List.mem_map_of_mem hy
  have hle := (List.subperm_of_subset hnodup hsubset).length_le
  rw [List.length_map, List.length_map] at hle
  exact hle

/-- Dimensions without fractions are the same if their vectors are. -/
theorem same_of_vector_eq (hd : Powers.Distinct d) (hd' : Powers.Distinct d')
    (hplain : Powers.Plain d) (hplain' : Powers.Plain d') (h : d.vector = d'.vector) :
    d.same d' = true := by
  have hlookup := lookup_eq_of_vector_eq hplain hplain' h
  have hlen := Nat.le_antisymm (length_le_of_lookup_eq hd hlookup)
    (length_le_of_lookup_eq hd' fun b => (hlookup b).symm)
  refine Powers.same_iff.mpr ⟨hlen, fun x hx => ⟨x.2, ?_, ?_⟩⟩
  · rw [← hlookup, Powers.lookup_of_mem hd hx BEq.rfl]
  · rw [Scalar.eq_exact (hplain x hx).1, Scalar.beq_exact_exact]

end Dimension

/-- The vector of a dimension without fractions says which kind it has. -/
theorem Kind.ofDimension?_of_vector {u : Units} {k : Kind} (hu : Unit.areWhole u = true)
    (h : u.dimension.vector = k.vector) : ofDimension? u.dimension = some k := by
  have hsame := Dimension.same_of_vector_eq u.distinct_dimension k.distinct_dimension
    (Units.plain_dimension hu) k.exponent_of_dimension h
  rcases hfind : ofDimension? u.dimension with _ | l
  · have hnone := List.find?_eq_none.mp hfind k k.mem_all
    exact absurd hsame hnone
  · have hl := vector_of_ofDimension? u.distinct_dimension hfind
    rw [vector_injective l k (hl.symm.trans h)]

namespace Arithmetic

variable {m m₁ : Memory} {symbol : String} {left right q : Quantity}

theorem areWhole_raw? (hl : Unit.areWhole left.units = true) (hr : Unit.areWhole right.units = true)
    (hq : raw? symbol left right = some q) : Unit.areWhole q.units = true := by
  have hexact : Powers.Exact q.units := by
    obtain ⟨-, -, ⟨-, hunits⟩ | ⟨-, hunits⟩⟩ := raw?_eq_some hq
    · rw [hunits]
      exact (Powers.exact_of_areWhole hl).mul (Powers.exact_of_areWhole hr)
    · rw [hunits]
      exact (Powers.exact_of_areWhole hl).div (Powers.exact_of_areWhole hr)
  have hwhole : q.units.Of fun v => v.isWhole = true :=
    raw?_of hq (fun x hx => (Unit.areWhole_iff.mp hl x hx).1)
      (fun x hx => (Unit.areWhole_iff.mp hr x hx).1)
  exact Unit.areWhole_iff.mpr fun x hx => ⟨hwhole x hx, hexact x hx⟩

/-- The degrees of a product or quotient. -/
theorem degreeAll_raw? (hl : left.units.Genuine) (hr : right.units.Genuine)
    (hlw : Unit.areWhole left.units = true) (hrw : Unit.areWhole right.units = true)
    (hq : raw? symbol left right = some q) (b : BaseDimension) :
    (symbol = "*" ∧ Unit.degreeAll b q.units =
        Unit.degreeAll b left.units + Unit.degreeAll b right.units) ∨
      symbol ≠ "*" ∧ Unit.degreeAll b q.units =
        Unit.degreeAll b left.units - Unit.degreeAll b right.units := by
  have hnames : ∀ v w : Unit, v.Nameable → w.Nameable → (v == w) = true →
      v.degree b = w.degree b :=
    fun v w hv hw hvw => hv.degree_eq hw (Unit.beq_iff_name.mp hvw) b
  have hle := Powers.exact_of_areWhole hlw
  have hre := Powers.exact_of_areWhole hrw
  simp only [Unit.degreeAll_eq_total]
  obtain ⟨-, -, ⟨hsymbol, hunits⟩ | ⟨hsymbol, hunits⟩⟩ := raw?_eq_some hq
  · exact .inl ⟨hsymbol, hunits ▸ Powers.total_mul hnames hle hre hl.nameable hr.nameable⟩
  · exact .inr ⟨hsymbol, hunits ▸ Powers.total_div hnames hle hre hl.nameable hr.nameable⟩

/-- **Without fractions the product has the kind that the table names.** -/
theorem kindOf_raw_of_isWhole {k : Kind} (hm : m.Nameable) (hmw : m.IsWhole)
    (hl : left.units.Genuine) (hr : right.units.Genuine)
    (hlw : Unit.areWhole left.units = true) (hrw : Unit.areWhole right.units = true)
    (hk : composedKind? symbol (m.report left.units) (m.report right.units) = some k)
    (hq : raw? symbol left right = some q) : m.kindOf q.units = some k := by
  obtain ⟨kl, kr, hkl, hkr, hk⟩ := composedKind?_eq_some hk
  have hqw := areWhole_raw? hlw hrw hq
  have hqg : q.units.Genuine :=
    ⟨raw?_distinct hq hl.distinct, raw?_of hq hl.nameable hr.nameable⟩
  have hvector : (m.report q.units).vector = k.vector := by
    funext b
    have hleft := Memory.vector_of_isWhole hm hmw hl hlw b
    have hright := Memory.vector_of_isWhole hm hmw hr hrw b
    rw [Memory.vector_of_kindOf hkl] at hleft
    rw [Memory.vector_of_kindOf hkr] at hright
    rw [Memory.vector_of_isWhole hm hmw hqg hqw]
    unfold Kind.compose? at hk
    rcases degreeAll_raw? hl hr hlw hrw hq b with ⟨hsymbol, hdegree⟩ | ⟨hsymbol, hdegree⟩
    · rw [if_pos hsymbol] at hk
      rw [Kind.vector_product kl kr k hk, DimensionVector.add, hleft, hright, hdegree]
      rfl
    · rw [if_neg hsymbol] at hk
      split at hk
      · rw [Kind.vector_quotient kl kr k hk, DimensionVector.sub, hleft, hright, hdegree,
          Int.sub_eq_add_neg]
        rfl
      · cases hk
  -- the memory may report the product in a form that it met before
  refine Kind.ofDimension?_of_vector ?_ hvector
  unfold Memory.firstForm
  rcases hfind : m.measured.find? q.units.same with _ | x
  · exact hqw
  · exact hmw x (List.mem_of_find?_eq_some hfind)

/-! ### Obstacles -/

/-- Why a composition fails, by what the memory reports after it. -/
inductive Obstacle (m : Memory) (symbol : String) (left right : Quantity) : Failure → Prop where
  /-- An operand has a unit without a definition. -/
  | undefinedUnit (h : ¬(left.units.isDefined = true ∧ right.units.isDefined = true)) :
      Obstacle m symbol left right (.abort .noDimension)
  /-- The table has no entry for the kinds of the operands. -/
  | noEntry (h : ∀ kl kr, m.kindOf left.units = some kl → m.kindOf right.units = some kr →
        Kind.compose? symbol kl kr = none) :
      Obstacle m symbol left right (.error (.cannotApply symbol (m.report left.units).label
        (m.report right.units).label))
  /-- The product does not have the kind that the table names, and some exponent is a double. -/
  | rounding {k : Kind} {q : Quantity}
      (hk : composedKind? symbol (m.report left.units) (m.report right.units) = some k)
      (hq : raw? symbol left right = some q) (h : m.kindOf q.units ≠ some k)
      (hdouble : ¬(Unit.areWhole left.units = true ∧ Unit.areWhole right.units = true ∧
        m.IsWhole)) :
      Obstacle m symbol left right (.error (.cannotApply symbol (m.report left.units).label
        (m.report right.units).label))
  /-- The factor between the product and the units of the kind is no double. -/
  | factor {k : Kind} {q : Quantity} {m₂ : Memory} {a : Abort}
      (hk : composedKind? symbol (m.report left.units) (m.report right.units) = some k)
      (hq : raw? symbol left right = some q) (hm : m₂.Extends m)
      (h : (m₂.factor (Powers.div q.units k.units)).1.bind Scalar.double = .error a) :
      Obstacle m symbol left right (.abort a)

/-- What the table has an entry for can be worked out, if it is no division by zero. -/
theorem exists_raw? {kl kr k : Kind}
    (hmultiplicative : left.units.isMultiplicative = true ∧ right.units.isMultiplicative = true)
    (hdivisor : symbol = "/" → (right.magnitude == 0) = false)
    (hk : Kind.compose? symbol kl kr = some k) : ∃ q, raw? symbol left right = some q := by
  unfold raw?
  rw [hmultiplicative.1, hmultiplicative.2]
  simp only [Bool.and_self, if_true]
  split
  · exact ⟨_, rfl⟩
  · rename_i hstar
    have hslash : symbol = "/" := by
      unfold Kind.compose? at hk
      rw [if_neg hstar] at hk
      split at hk
      · assumption
      · cases hk
    rw [hdivisor hslash]
    exact ⟨_, rfl⟩

/-- Without an entry there are no kinds of the operands that the table composes: if there were, the
product could be worked out. -/
theorem obstacle_of_no_entry
    (hmultiplicative : left.units.isMultiplicative = true ∧ right.units.isMultiplicative = true)
    (hdivisor : symbol = "/" → (right.magnitude == 0) = false)
    (hnone : ∀ k q, composedKind? symbol (m.report left.units) (m.report right.units) = some k →
      raw? symbol left right ≠ some q) :
    Obstacle m symbol left right (.error (.cannotApply symbol (m.report left.units).label
      (m.report right.units).label)) := by
  refine .noEntry fun kl kr hkl hkr => ?_
  rcases hk : Kind.compose? symbol kl kr with _ | k
  · rfl
  · exfalso
    have hcomposed : composedKind? symbol (m.report left.units) (m.report right.units) =
        some k := by
      unfold composedKind?
      rw [show Kind.ofDimension? _ = some kl from hkl, show Kind.ofDimension? _ = some kr from hkr]
      exact hk
    obtain ⟨q, hq⟩ := exists_raw? hmultiplicative hdivisor hk
    exact hnone k q hcomposed hq

section Entry

variable {k : Kind} (hl : left.units.Genuine) (hr : right.units.Genuine) (hm : m.Nameable)
  (hk : composedKind? symbol (m.report left.units) (m.report right.units) = some k)
  (hq : raw? symbol left right = some q)
include hl hr hm hk hq

/-- Where the product has another dimension than the kind, an exponent was rounded. -/
theorem obstacle_of_dimensions {m₀ : Memory} {d d' : Dimension}
    (hdimensions : m₀.dimensions q.units k.units = (.ok (d, d'), m)) (hsame : d.same d' = false) :
    Obstacle m symbol left right (.error (.cannotApply symbol (m.report left.units).label
      (m.report right.units).label)) := by
  obtain ⟨rfl, rfl⟩ := Memory.report_of_dimensions (raw?_distinct hq hl.distinct)
    k.genuine_units.distinct hdimensions (.refl _)
  have hkind : m.kindOf q.units ≠ some k := by
    intro hkind
    have hkind' := Memory.kindOf_units hm k
    rw [Kind.same_of_ofDimension?_eq (Memory.distinct_report _ _) hkind hkind'] at hsame
    cases hsame
  exact .rounding hk hq hkind fun ⟨hlw, hrw, hmw⟩ =>
    hkind (kindOf_raw_of_isWhole hm hmw hl hr hlw hrw hk hq)

/-- Where the table has an entry, the conversion into the units of its kind fails. -/
theorem obstacle_of_convert {m₀ : Memory} {o : Except Abort (Option Float)}
    (hmultiplicative : left.units.isMultiplicative = true ∧ right.units.isMultiplicative = true)
    (hdefined : left.units.isDefined = true ∧ right.units.isDefined = true)
    (hconvert : m₀.convert q.magnitude q.units k.units = (o, m)) (ho : ∀ y, o ≠ .ok (some y)) :
    (o = .ok none ∧ Obstacle m symbol left right (.error (.cannotApply symbol
      (m.report left.units).label (m.report right.units).label))) ∨
    ∃ a, o = .error a ∧ Obstacle m symbol left right (.abort a) := by
  have hqdefined : q.units.isDefined = true :=
    isDefined_iff.mpr (raw?_of hq (isDefined_iff.mp hdefined.1) (isDefined_iff.mp hdefined.2))
  have hqmultiplicative : q.units.isMultiplicative = true :=
    isMultiplicative_iff.mpr (raw?_of hq (isMultiplicative_iff.mp hmultiplicative.1)
      (isMultiplicative_iff.mp hmultiplicative.2))
  have hkunits := units_of_kind k
  rcases convert_fails hqmultiplicative hkunits.2 hconvert ho with
    ⟨d, d', hdimensions, hsame, rfl⟩ | ⟨a, hdimensions, rfl⟩ | ⟨a, m₁, hgrows, hfactor, rfl⟩
  · exact .inl ⟨rfl, obstacle_of_dimensions hl hr hm hk hq hdimensions hsame⟩
  · exact absurd ⟨hqdefined, hkunits.1⟩ (dimensions_eq_error hdimensions).2
  · exact .inr ⟨a, rfl, .factor hk hq hgrows hfactor⟩

end Entry

/-- **A composition of multiplicative quantities fails for one of four reasons.** -/
theorem compose_eq_error {e : Failure} (hl : left.units.Genuine) (hr : right.units.Genuine)
    (hmultiplicative : left.units.isMultiplicative = true ∧ right.units.isMultiplicative = true)
    (hdivisor : symbol = "/" → (right.magnitude == 0) = false)
    (h : compose m symbol left right = (.error e, m₁)) (hm : m₁.Nameable) :
    Obstacle m₁ symbol left right e := by
  unfold compose at h
  split at h
  · rename_i hdimensions
    cases h
    obtain ⟨rfl, hundefined⟩ := dimensions_eq_error hdimensions
    exact .undefinedUnit hundefined
  · rename_i l r m₂ hdimensions
    -- the operands have dimensions, and the memory still reports them at the end
    have hdefined := Memory.isDefined_of_dimensions hdimensions
    have hgrows : m₂.Extends m₁ := by
      have hgrows := (Inquiry.composeIn symbol left right l r).run_extends m₂
      rw [Inquiry.run_composeIn, h] at hgrows
      exact hgrows
    obtain ⟨rfl, rfl⟩ := Memory.report_of_dimensions hl.distinct hr.distinct hdimensions hgrows
    unfold composeIn at h
    simp only at h
    split at h
    · rename_i k q hk hq
      rcases hconvert : m₂.convert q.magnitude q.units k.units with ⟨o, m₃⟩
      rw [hconvert] at h
      have ho : ∀ y, o ≠ .ok (some y) := by
        intro y hy
        subst hy
        cases h
      obtain rfl : m₃ = m₁ := by
        rcases o with a | _ | y <;> cases h <;> rfl
      rcases obstacle_of_convert hl hr hm hk hq hmultiplicative hdefined hconvert ho with
        ⟨rfl, hobstacle⟩ | ⟨a, rfl, hobstacle⟩ <;> cases h <;> exact hobstacle
    · rename_i hnone
      cases h
      exact obstacle_of_no_entry hmultiplicative hdivisor fun k q hk hq => hnone k q hk hq

end Arithmetic

end Reckon
