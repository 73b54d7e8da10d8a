import Mathlib.Data.List.Forall2
import Reckon.Proofs.Scalar
import Reckon.Unit.Powers

/-!
# Facts about products of powers

Factors are compared by `==`, which may tell less apart than `=`. In a product with distinct factors
(`Distinct`) looking a factor up finds its exponent. All products that the operations build have
distinct factors, if what they start from does.

Two products that are the same have the same factors with equal exponents, in whatever order
(`lookup_of_same`), and a product that is the same as any is the same as itself
(`same_self_of_same`).
-/

namespace Reckon.Powers

variable {κ : Type} [BEq κ]

/-- No factor occurs twice. -/
def Distinct (p : Powers κ) : Prop := p.Pairwise fun x y => (x.1 == y.1) = false

theorem distinct_nil : Distinct ([] : Powers κ) := List.Pairwise.nil

/-! ### What the operations are made of -/

/-- Whatever holds of the factors before holds of them after `raise`. -/
theorem raise_forall {P : κ → Prop} {p : Powers κ} {key : κ} (e : Scalar) (hkey : P key)
    (hp : ∀ x ∈ p, P x.1) : ∀ x ∈ p.raise key e, P x.1 := by
  induction p with
  | nil => simpa [raise] using hkey
  | cons y rest ih =>
    obtain ⟨k, c⟩ := y
    have hrest := ih fun x hx => hp x (List.mem_cons_of_mem _ hx)
    have hk : P k := hp (k, c) List.mem_cons_self
    unfold raise
    split
    · rw [List.forall_mem_cons]
      exact ⟨hk, fun x hx => hp x (List.mem_cons_of_mem _ hx)⟩
    · rw [List.forall_mem_cons]
      exact ⟨hk, hrest⟩

theorem adjust_forall {P : κ → Prop} {p : Powers κ} {key : κ} (e : Scalar) (hkey : P key)
    (hp : ∀ x ∈ p, P x.1) : ∀ x ∈ p.adjust key e, P x.1 := by
  intro x hx
  exact raise_forall e hkey hp x (List.mem_filter.mp hx).1

theorem mul_forall {P : κ → Prop} {b : Powers κ} : ∀ {a : Powers κ}, (∀ x ∈ a, P x.1) →
    (∀ x ∈ b, P x.1) → ∀ x ∈ a.mul b, P x.1 := by
  unfold mul
  induction b with
  | nil => exact fun ha _ => ha
  | cons y rest ih =>
    intro a ha hb
    rw [List.forall_mem_cons] at hb
    exact ih (adjust_forall y.2 hb.1 ha) hb.2

theorem div_forall {P : κ → Prop} {b : Powers κ} : ∀ {a : Powers κ}, (∀ x ∈ a, P x.1) →
    (∀ x ∈ b, P x.1) → ∀ x ∈ a.div b, P x.1 := by
  unfold div
  induction b with
  | nil => exact fun ha _ => ha
  | cons y rest ih =>
    intro a ha hb
    rw [List.forall_mem_cons] at hb
    exact ih (adjust_forall (-y.2) hb.1 ha) hb.2

/-! ### Distinct factors -/

theorem Distinct.raise {p : Powers κ} (hp : p.Distinct) (key : κ) (e : Scalar) :
    (p.raise key e).Distinct := by
  induction p with
  | nil => exact List.pairwise_singleton ..
  | cons y rest ih =>
    obtain ⟨k, c⟩ := y
    obtain ⟨hk, hrest⟩ := List.pairwise_cons.mp hp
    unfold Powers.raise
    split
    · exact List.pairwise_cons.mpr ⟨hk, hrest⟩
    · rename_i hne
      refine List.pairwise_cons.mpr ⟨?_, ih hrest⟩
      exact raise_forall (P := fun x => (k == x) = false) e (Bool.eq_false_iff.mpr hne) hk

theorem Distinct.adjust {p : Powers κ} (hp : p.Distinct) (key : κ) (e : Scalar) :
    (p.adjust key e).Distinct :=
  List.Pairwise.filter _ (hp.raise key e)

theorem Distinct.reduced {p : Powers κ} (hp : p.Distinct) : (Powers.reduced p).Distinct :=
  List.Pairwise.filter _ hp

theorem Distinct.mul {a : Powers κ} (ha : a.Distinct) (b : Powers κ) : (a.mul b).Distinct := by
  unfold Powers.mul
  induction b generalizing a with
  | nil => exact ha
  | cons y rest ih => exact ih (ha.adjust y.1 y.2)

theorem Distinct.div {a : Powers κ} (ha : a.Distinct) (b : Powers κ) : (a.div b).Distinct := by
  unfold Powers.div
  induction b generalizing a with
  | nil => exact ha
  | cons y rest ih => exact ih (ha.adjust y.1 (-y.2))

theorem distinct_collect (visits : List (κ × Scalar)) : (collect visits).Distinct :=
  List.foldlRecOn visits _ distinct_nil fun _ hp y _ => hp.raise y.1 y.2

/-! ### Looking factors up -/

variable [EquivBEq κ]

theorem lookup_congr {key key' : κ} (h : (key == key') = true) (p : Powers κ) :
    p.lookup key = p.lookup key' := by
  induction p with
  | nil => rfl
  | cons y rest ih => rw [List.lookup_cons, List.lookup_cons, BEq.congr_left h, ih]

theorem lookup_of_mem {p : Powers κ} (hp : p.Distinct) {x : κ × Scalar} (hx : x ∈ p) {key : κ}
    (hkey : (key == x.1) = true) : p.lookup key = some x.2 := by
  induction p with
  | nil => cases hx
  | cons y rest ih =>
    obtain ⟨hy, hrest⟩ := List.pairwise_cons.mp hp
    rw [List.lookup_cons]
    rcases List.mem_cons.mp hx with rfl | hx
    · rw [hkey]
    · have hne : (key == y.1) = false := by
        rw [Bool.eq_false_iff]
        intro heq
        have hyx : (y.1 == x.1) = true := BEq.trans (BEq.symm heq) hkey
        rw [hy x hx] at hyx
        cases hyx
      rw [hne]
      exact ih hrest hx

omit [EquivBEq κ] in
theorem mem_of_lookup {p : Powers κ} {key : κ} {e : Scalar} (h : p.lookup key = some e) :
    ∃ x ∈ p, (key == x.1) = true ∧ x.2 = e := by
  induction p with
  | nil => cases h
  | cons y rest ih =>
    rw [List.lookup_cons] at h
    split at h
    · rename_i heq
      cases h
      exact ⟨y, List.mem_cons_self, heq, rfl⟩
    · obtain ⟨x, hx, hrest⟩ := ih h
      exact ⟨x, List.mem_cons_of_mem _ hx, hrest⟩

/-! ### The same product -/

omit [EquivBEq κ] in
theorem same_iff {a b : Powers κ} :
    a.same b = true ↔
      a.length = b.length ∧ ∀ x ∈ a, ∃ e, b.lookup x.1 = some e ∧ (e == x.2) = true := by
  unfold same
  rw [Bool.and_eq_true, beq_iff_eq, List.all_eq_true]
  refine and_congr_right fun _ => forall_congr' fun x => imp_congr_right fun _ => ?_
  show (b.lookup x.1 == some x.2) = true ↔ _
  rcases b.lookup x.1 with _ | e
  · simp
  · simp

/-- The factor `y` of another product is the factor `x`, with an equal exponent. -/
def Matches (x y : κ × Scalar) : Prop := (x.1 == y.1) = true ∧ (y.2 == x.2) = true

/-- Distinct factors that all have a match in a list of the same length are matched one to one. -/
theorem exists_perm_of_matches {a b : Powers κ} (ha : a.Distinct)
    (hall : ∀ x ∈ a, ∃ y ∈ b, Matches x y) (hlen : b.length = a.length) :
    ∃ b', b'.Perm b ∧ List.Forall₂ Matches a b' := by
  induction a generalizing b with
  | nil =>
    obtain rfl := List.eq_nil_of_length_eq_zero hlen
    exact ⟨[], .nil, .nil⟩
  | cons x rest ih =>
    obtain ⟨hx, hrest⟩ := List.pairwise_cons.mp ha
    obtain ⟨y₀, hy₀, hxy₀⟩ := hall x List.mem_cons_self
    obtain ⟨before, after, rfl⟩ := List.append_of_mem hy₀
    -- the others are found elsewhere
    have hall' : ∀ z ∈ rest, ∃ y ∈ before ++ after, Matches z y := by
      intro z hz
      obtain ⟨y, hy, hzy⟩ := hall z (List.mem_cons_of_mem _ hz)
      rw [List.mem_append, List.mem_cons] at hy
      rcases hy with hy | rfl | hy
      · exact ⟨y, List.mem_append_left _ hy, hzy⟩
      · have hxz : (x.1 == z.1) = true := BEq.trans hxy₀.1 (BEq.symm hzy.1)
        rw [hx z hz] at hxz
        cases hxz
      · exact ⟨y, List.mem_append_right _ hy, hzy⟩
    have hlen' : (before ++ after).length = rest.length := by
      simp only [List.length_append, List.length_cons] at hlen ⊢
      omega
    obtain ⟨b', hperm, hmatch⟩ := ih hrest hall' hlen'
    exact ⟨y₀ :: b', (hperm.cons y₀).trans List.perm_middle.symm, .cons hxy₀ hmatch⟩

/-- **The same product in another order.** -/
theorem exists_perm_of_same {a b : Powers κ} (ha : a.Distinct) (h : a.same b = true) :
    ∃ b', b'.Perm b ∧ List.Forall₂ Matches a b' := by
  obtain ⟨hlen, hall⟩ := same_iff.mp h
  refine exists_perm_of_matches ha (fun x hx => ?_) hlen.symm
  obtain ⟨e, he, hbeq⟩ := hall x hx
  obtain ⟨y, hy, hxy, rfl⟩ := mem_of_lookup he
  exact ⟨y, hy, hxy, hbeq⟩

omit [BEq κ] [EquivBEq κ] in
theorem exists_of_forall₂ {R : κ × Scalar → κ × Scalar → Prop} {a b : Powers κ}
    (h : List.Forall₂ R a b) : ∀ y ∈ b, ∃ x ∈ a, R x y := by
  induction h with
  | nil => exact fun y hy => nomatch hy
  | @cons x y a b hxy _ ih =>
    intro z hz
    rcases List.mem_cons.mp hz with rfl | hz
    · exact ⟨x, List.mem_cons_self, hxy⟩
    · obtain ⟨x', hx', hxz⟩ := ih z hz
      exact ⟨x', List.mem_cons_of_mem _ hx', hxz⟩

theorem covers_of_same {a b : Powers κ} (ha : a.Distinct) (h : a.same b = true) :
    ∀ y ∈ b, ∃ x ∈ a, (x.1 == y.1) = true := by
  obtain ⟨b', hperm, hmatch⟩ := exists_perm_of_same ha h
  intro y hy
  obtain ⟨x, hx, hxy⟩ := exists_of_forall₂ hmatch y (hperm.mem_iff.mpr hy)
  exact ⟨x, hx, hxy.1⟩

/-- **Products that are the same** have equal exponents of every factor, or lack it both. -/
theorem lookup_of_same {a b : Powers κ} (ha : a.Distinct) (h : a.same b = true) (key : κ) :
    (a.lookup key = none ∧ b.lookup key = none) ∨
      ∃ e e', a.lookup key = some e ∧ b.lookup key = some e' ∧ (e' == e) = true := by
  have hcovers := covers_of_same ha h
  obtain ⟨-, hall⟩ := same_iff.mp h
  rcases hb : b.lookup key with _ | e'
  · refine .inl ⟨?_, rfl⟩
    rcases ha : a.lookup key with _ | e
    · rfl
    · obtain ⟨x, hx, hkx, -⟩ := mem_of_lookup ha
      obtain ⟨e', he', -⟩ := hall x hx
      rw [← lookup_congr hkx, hb] at he'
      cases he'
  · obtain ⟨y, hy, hky, rfl⟩ := mem_of_lookup hb
    -- a factor of `b` is a factor of `a`, since there are no more of them in `b`
    obtain ⟨x, hx, hxy⟩ := hcovers y hy
    have hkx : (key == x.1) = true := BEq.trans hky (BEq.symm hxy)
    obtain ⟨e, he, hbeq⟩ := hall x hx
    rw [lookup_congr (BEq.symm hkx), hb] at he
    cases he
    exact .inr ⟨x.2, y.2, lookup_of_mem ha hx hkx, rfl, hbeq⟩

/-- **A product that is the same as any is the same as itself.** -/
theorem same_self_of_same {a b : Powers κ} (ha : a.Distinct) (h : a.same b = true) :
    a.same a = true := by
  refine same_iff.mpr ⟨rfl, fun x hx => ?_⟩
  obtain ⟨e, -, he⟩ := (same_iff.mp h).2 x hx
  exact ⟨x.2, lookup_of_mem ha hx BEq.rfl, Scalar.beq_self_of_beq he⟩

end Reckon.Powers
