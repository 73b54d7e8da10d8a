import Reckon.Proofs.Unit.Inquiry

/-!
# Which memories answer alike

A memory answers for the form of a product that it met first, so what it met before can show in an
answer: two products that differ in the order of their factors are the same question to it. Two
questions `Clash` if they are about such products.

A relation between memories is a `Congruence` for a set of questions if related memories answer them
alike and stay related: inquiries that ask only such questions have the same outcome against both
(`run_congruent`). There are two of them.

* A memory that has learnt more than another one still answers as that one does (`Agrees`), if no
  question clashes with what it has learnt besides.
* Where the questions in `D` clash with no other ones, it makes no difference when they are asked, and
  how often (`Matches`).
-/

namespace Reckon

/-- Two questions about one product in different forms. -/
def Question.Clash (q r : Question) : Prop :=
  q.aspect = r.aspect ∧ (q.units.same r.units = true ∨ r.units.same q.units = true) ∧
    q.units ≠ r.units

namespace Memory

/-- The forms of products that are known in some respect. -/
def forms (m : Memory) : Aspect → List Units
  | .dimension => m.measured
  | .factor => m.reduced

/-- The memory knows the product of a question in just this form. -/
def Knows (m : Memory) (q : Question) : Prop := q.units ∈ m.forms q.aspect

/-- The memory knows the product of a question in some form. -/
def HasMet (m : Memory) (q : Question) : Prop :=
  ((m.forms q.aspect).find? q.units.same).isSome = true

/-- The memory after a question that it could answer. -/
def noted (m : Memory) : Question → Memory
  | ⟨.dimension, u⟩ => { m with measured := note m.measured u }
  | ⟨.factor, u⟩ => { m with reduced := note m.reduced u }

theorem forms_noted (m : Memory) (q : Question) (a : Aspect) :
    (m.noted q).forms a = if a = q.aspect then note (m.forms a) q.units else m.forms a := by
  rcases q with ⟨_ | _, u⟩ <;> cases a <;> rfl

/-- A question about a product that is known in some form teaches nothing. -/
theorem noted_of_hasMet {m : Memory} {q : Question} (h : m.HasMet q) : m.noted q = m := by
  have hnote : note (m.forms q.aspect) q.units = m.forms q.aspect := by
    obtain ⟨x, hx⟩ := Option.isSome_iff_exists.mp h
    unfold note
    rw [if_pos (List.any_eq_true.mpr ⟨x, List.mem_of_find?_eq_some hx, List.find?_some hx⟩)]
  obtain ⟨a, u⟩ := q
  cases a
  · exact congrArg (fun seen => { m with measured := seen }) hnote
  · exact congrArg (fun seen => { m with reduced := seen }) hnote

theorem dimension_snd (m : Memory) (u : Units) :
    (m.dimension u).2 = if u.isDefined then m.noted ⟨.dimension, u⟩ else m := by
  unfold dimension
  split <;> rfl

theorem factor_snd (m : Memory) (u : Units) :
    (m.factor u).2 = m.noted ⟨.factor, u⟩ ∨ (m.factor u).2 = m := by
  unfold factor
  split
  · exact .inl rfl
  · exact .inr rfl

/-! ### Memories grow -/

/-- The second memory has met all that the first one has, in the same order, and perhaps more. -/
def Extends (m m' : Memory) : Prop := ∀ a, m.forms a <+: m'.forms a

theorem Extends.refl (m : Memory) : m.Extends m := fun _ => List.prefix_rfl

theorem Extends.trans {m m' m'' : Memory} (h : m.Extends m') (h' : m'.Extends m'') :
    m.Extends m'' := fun a => (h a).trans (h' a)

theorem extends_noted (m : Memory) (q : Question) : m.Extends (m.noted q) := by
  intro a
  rw [forms_noted]
  split
  · unfold note
    split
    · exact List.prefix_rfl
    · exact List.prefix_append ..
  · exact List.prefix_rfl

theorem extends_dimension (m : Memory) (u : Units) : m.Extends (m.dimension u).2 := by
  rw [dimension_snd]
  split
  · exact m.extends_noted _
  · exact .refl m

theorem extends_factor (m : Memory) (u : Units) : m.Extends (m.factor u).2 := by
  rcases m.factor_snd u with h | h <;> rw [h]
  · exact m.extends_noted _
  · exact .refl m

end Memory

/-- **A memory only grows.** -/
theorem Inquiry.run_extends {α : Type} (t : Inquiry α) : ∀ m : Memory, m.Extends (t.run m).2 := by
  induction t with
  | done a => exact .refl
  | dimension u next ih => exact fun m => (m.extends_dimension u).trans (ih _ _)
  | factor u next ih => exact fun m => (m.extends_factor u).trans (ih _ _)

namespace Memory

/-! ### Memories that answer alike -/

theorem find?_note (p : Units → Bool) (seen : List Units) (u : Units) :
    (note seen u).find? p =
      if (seen.find? u.same).isSome then seen.find? p
      else (seen.find? p).or (if p u then some u else none) := by
  have hany : (seen.find? u.same).isSome = seen.any u.same := by
    rw [Bool.eq_iff_iff, List.find?_isSome, List.any_eq_true]
  unfold note
  rw [hany]
  split
  · rfl
  · rw [List.find?_append, List.find?_singleton]

/-- Related memories answer the questions in `K` by the same forms, and stay related when both are
asked one. -/
structure Congruence (K : Question → Prop) (R : Memory → Memory → Prop) : Prop where
  form : ∀ {m m' : Memory} {a : Aspect} {u : Units}, R m m' → K ⟨a, u⟩ →
    firstForm (m.forms a) u = firstForm (m'.forms a) u
  noted : ∀ {m m' : Memory} {q : Question}, R m m' → K q → R (m.noted q) (m'.noted q)

section Congruence

variable {K : Question → Prop} {R : Memory → Memory → Prop} (hR : Congruence K R) {m m' : Memory}
  {u : Units}
include hR

theorem Congruence.dimension (h : R m m') (hu : K ⟨.dimension, u⟩) :
    (m.dimension u).1 = (m'.dimension u).1 ∧ R (m.dimension u).2 (m'.dimension u).2 := by
  have hform : firstForm m.measured u = firstForm m'.measured u := hR.form h hu
  unfold Memory.dimension
  split
  · exact ⟨by rw [hform], hR.noted h hu⟩
  · exact ⟨rfl, h⟩

theorem Congruence.factor (h : R m m') (hu : K ⟨.factor, u⟩) :
    (m.factor u).1 = (m'.factor u).1 ∧ R (m.factor u).2 (m'.factor u).2 := by
  have hform : firstForm m.reduced u = firstForm m'.reduced u := hR.form h hu
  unfold Memory.factor
  rw [hform]
  split
  · exact ⟨rfl, hR.noted h hu⟩
  · exact ⟨rfl, h⟩

end Congruence

/-- A property that no question in `K` takes away holds on both sides of an inquiry. -/
theorem congruence_of_preserved {K : Question → Prop} {P : Memory → Prop}
    (hP : ∀ {m : Memory} {q : Question}, P m → K q → P (m.noted q)) :
    Congruence K fun m m' => m = m' ∧ P m where
  form := fun h _ => by rw [h.1]
  noted := fun h hq => ⟨by rw [h.1], hP h.2 hq⟩

/-- The memories answer the questions in `K` alike. For some of them the first memory knows the form
that is asked for from what it has learnt besides, in `D`, and the second one knows no form. -/
def Agrees (D K : Question → Prop) (m m' : Memory) : Prop :=
  ∀ a u, K ⟨a, u⟩ → (m.forms a).find? u.same = (m'.forms a).find? u.same ∨
    D ⟨a, u⟩ ∧ (m.forms a).find? u.same = some u ∧ (m'.forms a).find? u.same = none

variable {D K : Question → Prop} {m m' : Memory}

theorem Agrees.refl (m : Memory) : m.Agrees D K m := fun _ _ _ => .inl rfl

theorem Agrees.firstForm_eq (h : m.Agrees D K m') {a : Aspect} {u : Units} (hu : K ⟨a, u⟩) :
    firstForm (m.forms a) u = firstForm (m'.forms a) u := by
  unfold firstForm
  rcases h a u hu with h | ⟨-, h, h'⟩
  · rw [h]
  · rw [h, h']; rfl

section Clash

variable (hclash : ∀ q r, D q → K r → ¬q.Clash r)
include hclash

theorem eq_of_same {a : Aspect} {u w : Units} (hu : D ⟨a, u⟩) (hw : K ⟨a, w⟩)
    (h : u.same w = true ∨ w.same u = true) : u = w :=
  Classical.byContradiction fun hne => hclash _ _ hu hw ⟨rfl, h, hne⟩

/-- A question that both memories are asked leaves them in agreement. -/
theorem Agrees.noted (h : m.Agrees D K m') {q : Question} (hq : K q) :
    (m.noted q).Agrees D K (m'.noted q) := by
  intro a w hw
  simp only [forms_noted]
  split
  · rename_i ha
    obtain ⟨a', u⟩ := q
    obtain rfl : a = a' := ha
    simp only [find?_note]
    rcases h a w hw with heq | ⟨hD, hsome, hnone⟩
    · rw [heq]
      rcases h a u hq with hu | ⟨hDu, hu, hu'⟩
      · -- both take note of `u`, or neither does
        rw [hu]
        exact .inl rfl
      · -- only the second one does, and no form of `u` is a form of `w`
        have hsame : w.same u = false := by
          rw [Bool.eq_false_iff]
          intro hsame
          obtain rfl := eq_of_same hclash hDu hw (.inr hsame)
          rw [hu, hu'] at heq
          cases heq
        simp [hu, hu', hsame]
    -- the first memory knew `w` already: a form of `u` would be a clash
    · rw [hsome, hnone]
      by_cases hsame : w.same u
      · obtain rfl := eq_of_same hclash hD hq (.inl hsame)
        rw [hsome, hnone]
        simp [hsame]
      · simp [hD, hsame]
  · exact h a w hw

/-- What the first memory learns alone leaves the memories in agreement. -/
theorem Agrees.learn (h : m.Agrees D K m') {m₁ : Memory} (hm : m.Extends m₁)
    (hD : ∀ q, m₁.Knows q → ¬m.Knows q → D q) : m₁.Agrees D K m' := by
  intro a w hw
  obtain ⟨new, hnew⟩ := hm a
  rw [← hnew, List.find?_append]
  rcases hfound : (m.forms a).find? w.same with _ | x
  · rw [Option.none_or]
    have hnone : (m'.forms a).find? w.same = none := by
      rcases h a w hw with heq | ⟨-, hsome, -⟩
      · rw [← heq, hfound]
      · rw [hfound] at hsome; cases hsome
    rcases hlearnt : new.find? w.same with _ | x
    · exact .inl hnone.symm
    · -- the form of `w` that is new must be `w` itself
      have hsame : w.same x = true := List.find?_some hlearnt
      have hx : D ⟨a, x⟩ := by
        refine hD _ ?_ ?_
        · unfold Knows
          rw [← hnew]
          exact List.mem_append_right _ (List.mem_of_find?_eq_some hlearnt)
        · intro hold
          exact List.find?_eq_none.mp hfound x hold hsame
      obtain rfl := eq_of_same hclash hx hw (.inr hsame)
      exact .inr ⟨hx, rfl, hnone⟩
  · rw [Option.some_or, ← hfound]
    exact h a w hw

end Clash

end Memory

/-- **What is not asked for makes no difference.** Memories that answer the questions of an inquiry
alike give it the same outcome, and go on to answer alike. -/
theorem Inquiry.run_congruent {α : Type} {K : Question → Prop} {R : Memory → Memory → Prop}
    (hR : Memory.Congruence K R) (t : Inquiry α) :
    ∀ {m m' : Memory}, R m m' → (∀ q ∈ t.asked m, K q) →
      (t.run m).1 = (t.run m').1 ∧ R (t.run m).2 (t.run m').2 := by
  induction t with
  | done a => exact fun h _ => ⟨rfl, h⟩
  | dimension u next ih =>
    intro m m' h hasked
    have hu := hR.dimension h (hasked _ List.mem_cons_self)
    unfold run
    rw [← hu.1]
    exact ih _ hu.2 fun q hq => hasked q (List.mem_cons_of_mem _ hq)
  | factor u next ih =>
    intro m m' h hasked
    have hu := hR.factor h (hasked _ List.mem_cons_self)
    unfold run
    rw [← hu.1]
    exact ih _ hu.2 fun q hq => hasked q (List.mem_cons_of_mem _ hq)

namespace Memory

/-- The memories answer the questions in `K` alike: those in `D` by the same form, whether it is known
or not, and all other ones by what is known. -/
structure Matches (D K : Question → Prop) (m m' : Memory) : Prop where
  form : ∀ a u, D ⟨a, u⟩ → firstForm (m.forms a) u = firstForm (m'.forms a) u
  found : ∀ a u, K ⟨a, u⟩ → ¬D ⟨a, u⟩ → (m.forms a).find? u.same = (m'.forms a).find? u.same

variable {D K : Question → Prop} {m m' m'' : Memory} {q : Question}

theorem Matches.refl (m : Memory) : m.Matches D K m := ⟨fun _ _ _ => rfl, fun _ _ _ _ => rfl⟩

theorem Matches.symm (h : m.Matches D K m') : m'.Matches D K m :=
  ⟨fun a u hu => (h.form a u hu).symm, fun a u hu hD => (h.found a u hu hD).symm⟩

theorem Matches.trans (h : m.Matches D K m') (h' : m'.Matches D K m'') : m.Matches D K m'' :=
  ⟨fun a u hu => (h.form a u hu).trans (h'.form a u hu),
    fun a u hu hD => (h.found a u hu hD).trans (h'.found a u hu hD)⟩

theorem Matches.mono {A : Question → Prop} (h : m.Matches D K m') (hA : ∀ q, A q → K q) :
    m.Matches D A m' := ⟨h.form, fun a u hu hD => h.found a u (hA _ hu) hD⟩

theorem Matches.hasMet (h : m.Matches D K m') (hq : K q) (hD : ¬D q) (hm : m.HasMet q) :
    m'.HasMet q := by
  unfold HasMet at hm ⊢
  rw [← h.found _ _ hq hD]
  exact hm

theorem Matches.firstForm_eq (h : m.Matches D K m') {a : Aspect} {u : Units} (hu : K ⟨a, u⟩) :
    firstForm (m.forms a) u = firstForm (m'.forms a) u := by
  by_cases hD : D ⟨a, u⟩
  · exact h.form a u hD
  · unfold firstForm
    rw [h.found a u hu hD]

section Clash

variable (hclash : ∀ q r, D q → K r → ¬q.Clash r)
include hclash

theorem agrees_congruence : Congruence K (Agrees D K) where
  form := fun h hu => h.firstForm_eq hu
  noted := fun h hq => h.noted hclash hq

/-- The form that answers a question in `D` stays the same. -/
theorem firstForm_noted (m : Memory) (hq : K q) {a : Aspect} {w : Units} (hw : D ⟨a, w⟩) :
    firstForm ((m.noted q).forms a) w = firstForm (m.forms a) w := by
  rw [forms_noted]
  split
  · rename_i ha
    subst ha
    unfold firstForm
    rw [find?_note]
    split
    · rfl
    · cases (m.forms q.aspect).find? w.same with
      | some x => rfl
      | none =>
        by_cases hsame : w.same q.units
        · -- the form that is new must be `w` itself
          rw [if_pos hsame]
          exact (eq_of_same hclash hw hq (.inl hsame)).symm
        · rw [if_neg hsame]
          rfl
  · rfl

/-- What is known about other questions does not change with a question in `D`. -/
theorem find?_noted (m : Memory) (hq : D q) {a : Aspect} {w : Units} (hw : K ⟨a, w⟩)
    (hD : ¬D ⟨a, w⟩) : ((m.noted q).forms a).find? w.same = (m.forms a).find? w.same := by
  rw [forms_noted]
  split
  · rename_i ha
    subst ha
    have hsame : w.same q.units = false := by
      rw [Bool.eq_false_iff]
      intro hsame
      obtain rfl := eq_of_same hclash hq hw (.inr hsame)
      exact hD hq
    rw [find?_note, hsame]
    simp
  · rfl

/-- A question in `D` may be asked of one memory alone. -/
theorem Matches.noted_right (h : m.Matches D K m') (hq : D q) (hK : K q) :
    m.Matches D K (m'.noted q) :=
  ⟨fun a u hu => (h.form a u hu).trans (firstForm_noted hclash m' hK hu).symm,
    fun a u hu hD => (h.found a u hu hD).trans (find?_noted hclash m' hq hu hD).symm⟩

/-- Any question may be asked of one memory alone, as far as only questions in `D` matter and those
about products that the other memory has met. -/
theorem Matches.noted_of_hasMet {A : Question → Prop} (h : m.Matches D A m')
    (hmet : ∀ q, A q → ¬D q → m.HasMet q) (hq : K q) : m.Matches D A (m'.noted q) := by
  refine ⟨fun a u hu => (h.form a u hu).trans (firstForm_noted hclash m' hq hu).symm,
    fun a u hu hD => ?_⟩
  obtain ⟨x, hx⟩ := Option.isSome_iff_exists.mp (hmet _ hu hD)
  have hfound := h.found a u hu hD
  rw [forms_noted]
  split
  · rw [find?_note, ← hfound, hx]
    simp
  · exact hfound

/-- Any question may be asked of both memories. -/
theorem Matches.noted (h : m.Matches D K m') (hq : K q) :
    (m.noted q).Matches D K (m'.noted q) := by
  by_cases hD : D q
  · exact ((h.noted_right hclash hD hq).symm.noted_right hclash hD hq).symm
  · refine ⟨fun a u hu => ?_, fun a u hu hDu => ?_⟩
    · rw [firstForm_noted hclash m hq hu, firstForm_noted hclash m' hq hu]
      exact h.form a u hu
    · rw [forms_noted, forms_noted]
      split
      · rename_i ha
        subst ha
        rw [find?_note, find?_note, h.found _ _ hq hD, h.found _ _ hu hDu]
      · exact h.found a u hu hDu

end Clash

end Memory

end Reckon
