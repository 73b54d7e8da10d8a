import Reckon.Proofs.Unit.Composition

/-!
# Units of results

Two values have the same units if both are numbers, or both are quantities of the same product of
units. An operator may look at magnitudes, for a divisor that is zero or a result that is infinite,
but then it fails: applied to operands of the same units it asks the same questions about units as
long as it does not fail, and where it succeeds twice the results have the same units
(`alike_binary`).
-/

namespace Reckon

/-- Both values are numbers, or both are quantities of the same units. -/
inductive Value.SameUnits : Value → Value → Prop where
  | number (x y : Float) : SameUnits (.number x) (.number y)
  | quantity (x y : Float) (units : Units) :
      SameUnits (.quantity ⟨x, units⟩) (.quantity ⟨y, units⟩)

namespace Inquiry

variable {α β ε ε' : Type} {R : α → α → Prop}

/-- Wherever both inquiries succeed, their values are related and the memories after them are the
same. -/
structure Alike (R : α → α → Prop) (t t' : Inquiry (Except ε α)) : Prop where
  both : ∀ {m m₁ m₂ a b}, t.run m = (.ok a, m₁) → t'.run m = (.ok b, m₂) → R a b ∧ m₁ = m₂

theorem alike_done {o o' : Except ε α} (h : ∀ a b, o = .ok a → o' = .ok b → R a b) :
    Alike R (done o) (done o') where
  both := by
    intro m m₁ m₂ a b ha hb
    obtain ⟨rfl, rfl⟩ := Prod.mk.inj ha
    obtain ⟨rfl, rfl⟩ := Prod.mk.inj hb
    exact ⟨h a b rfl rfl, rfl⟩

/-- An inquiry that fails is like any other. -/
theorem alike_error_left (e : ε) (t : Inquiry (Except ε α)) : Alike R (done (.error e)) t :=
  ⟨fun h _ => nomatch h⟩

theorem alike_error_right (e : ε) (t : Inquiry (Except ε α)) : Alike R t (done (.error e)) :=
  ⟨fun _ h => nomatch h⟩

theorem Alike.andThen {Q : β → β → Prop} {t t' : Inquiry (Except ε α)} (h : Alike R t t')
    {fail : ε → ε'} {f g : α → Inquiry (Except ε' β)} (hfg : ∀ a b, R a b → Alike Q (f a) (g b)) :
    Alike Q (t.andThen fail f) (t'.andThen fail g) where
  both := by
    intro m m₁ m₂ x y hx hy
    rw [run_andThen] at hx hy
    rcases hrun : t.run m with ⟨e | a, m'⟩
    · rw [hrun] at hx
      cases hx
    · rcases hrun' : t'.run m with ⟨e | b, m''⟩
      · rw [hrun'] at hy
        cases hy
      · rw [hrun] at hx
        rw [hrun'] at hy
        obtain ⟨hab, rfl⟩ := h.both hrun hrun'
        exact (hfg a b hab).both hx hy

/-- What follows the same inquiry starts from the same answer. -/
theorem alike_andThen {Q : β → β → Prop} {t : Inquiry (Except ε α)} {fail : ε → ε'}
    {f g : α → Inquiry (Except ε' β)} (hfg : ∀ a, Alike Q (f a) (g a)) :
    Alike Q (t.andThen fail f) (t.andThen fail g) := by
  have hsame : Alike Eq t t := by
    refine ⟨fun h h' => ?_⟩
    rw [h] at h'
    cases h'
    exact ⟨rfl, rfl⟩
  refine hsame.andThen fun a b hab => ?_
  subst hab
  exact hfg a

/-! ### Conversions -/

section Conversion

variable (v w : Float) (a b : Units)

/-- The law of a unit may refuse one reading and not another, but it asks nothing. -/
theorem alike_convertReading (source target : Option (Unit.Law × Units)) :
    Alike (fun _ _ => True) (convertReading v a b source target)
      (convertReading w a b source target) := by
  unfold convertReading
  simp only
  split
  · exact alike_done fun _ _ _ _ => trivial
  · rcases source.elim (Except.ok v) (fun s => s.1.toReference v) with e | v
    · exact alike_error_left ..
    · rcases source.elim (Except.ok w) (fun s => s.1.toReference w) with e | w
      · exact alike_error_right ..
      · simp only
        split
        · exact alike_done fun _ _ _ _ => trivial
        · exact alike_andThen fun f => alike_done fun _ _ _ _ => trivial

/-- Conversions of readings between the same units ask the same questions. -/
theorem alike_convert : Alike (fun _ _ => True) (convert v a b) (convert w a b) := by
  unfold convert
  split
  · exact alike_done fun _ _ _ _ => trivial
  · split
    · rename_i source target _ _
      refine alike_andThen fun (x, y) => ?_
      simp only
      split
      · exact alike_convertReading v w a b source target
      · exact alike_done fun _ _ _ _ => trivial
    · exact alike_done fun _ _ _ _ => trivial

/-- What follows a conversion needs to be alike only where both readings have been converted, if it
fails where there is no conversion. -/
theorem Alike.converted {Q : β → β → Prop} {fail : Abort → ε'}
    {k k' : Option Float → Inquiry (Except ε' β)} (hnone : ∃ e, k none = done (.error e))
    (hnone' : ∃ e, k' none = done (.error e)) (hsome : ∀ x y, Alike Q (k (some x)) (k' (some y))) :
    Alike Q ((convert v a b).andThen fail k) ((convert w a b).andThen fail k') := by
  obtain ⟨e, he⟩ := hnone
  obtain ⟨e', he'⟩ := hnone'
  refine (alike_convert v w a b).andThen fun x y _ => ?_
  cases x with
  | none =>
    rw [he]
    exact alike_error_left ..
  | some x =>
    cases y with
    | none =>
      rw [he']
      exact alike_error_right ..
    | some y => exact hsome x y

end Conversion

/-! ### Operators -/

open Arithmetic

theorem alike_number (symbol : String) (x y : Float) :
    Alike Value.SameUnits (done (number symbol x)) (done (number symbol y)) :=
  alike_done fun v w hv hw => by
    rw [number_eq_ok hv, number_eq_ok hw]
    exact .number x y

theorem alike_quantity (symbol : String) (x y : Float) (u : Units) :
    Alike Value.SameUnits (done (quantity symbol ⟨x, u⟩)) (done (quantity symbol ⟨y, u⟩)) :=
  alike_done fun v w hv hw => by
    rw [quantity_eq_ok hv, quantity_eq_ok hw]
    exact .quantity x y u

section Quantities

variable (symbol : String) (x x' y y' : Float) (u v : Units)

theorem alike_combine (operation : Float → Float → Float) :
    Alike Value.SameUnits (combine symbol operation ⟨x, u⟩ ⟨y, v⟩)
      (combine symbol operation ⟨x', u⟩ ⟨y', v⟩) := by
  unfold combine
  refine alike_andThen fun (l, r) => ?_
  simp only
  split
  · exact Alike.converted y y' v u ⟨_, rfl⟩ ⟨_, rfl⟩
      fun z z' => alike_quantity symbol _ _ u
  · exact alike_error_left ..

variable {symbol x x' y y' u v} in
/-- A divisor that is zero leaves no quotient, and nothing else depends on magnitudes. -/
theorem units_raw? {p q : Quantity} (hp : raw? symbol ⟨x, u⟩ ⟨y, v⟩ = some p)
    (hq : raw? symbol ⟨x', u⟩ ⟨y', v⟩ = some q) : p.units = q.units := by
  obtain ⟨-, -, hp⟩ := raw?_eq_some hp
  obtain ⟨-, -, hq⟩ := raw?_eq_some hq
  by_cases hsymbol : symbol = "*"
  · rw [(hp.resolve_right fun h => h.1 hsymbol).2, (hq.resolve_right fun h => h.1 hsymbol).2]
  · rw [(hp.resolve_left fun h => hsymbol h.1).2, (hq.resolve_left fun h => hsymbol h.1).2]

theorem alike_composeIn (l r : Dimension) :
    Alike (fun p q => p.units = q.units) (composeIn symbol ⟨x, u⟩ ⟨y, v⟩ l r)
      (composeIn symbol ⟨x', u⟩ ⟨y', v⟩ l r) := by
  unfold composeIn
  rcases composedKind? symbol l r with _ | kind
  · exact alike_error_left ..
  · rcases hp : raw? symbol ⟨x, u⟩ ⟨y, v⟩ with _ | p
    · exact alike_error_left ..
    · rcases hq : raw? symbol ⟨x', u⟩ ⟨y', v⟩ with _ | q
      · exact alike_error_right ..
      · have hunits : q.units = p.units := units_raw? hq hp
        simp only [hunits]
        exact Alike.converted p.magnitude q.magnitude p.units kind.units
          ⟨_, rfl⟩ ⟨_, rfl⟩
          fun z z' => alike_done fun _ _ hz hz' => by cases hz; cases hz'; rfl

theorem alike_composed {t t' : Inquiry (Except Failure Quantity)}
    (h : Alike (fun p q => p.units = q.units) t t') :
    Alike Value.SameUnits (composed symbol t) (composed symbol t') := by
  unfold composed
  refine h.andThen fun p q hpq => ?_
  obtain ⟨x, units⟩ := p
  obtain ⟨y, units'⟩ := q
  obtain rfl : units = units' := hpq
  exact alike_quantity symbol x y units

theorem alike_divideAlike (l r : Dimension) :
    Alike Value.SameUnits (divideAlike ⟨x, u⟩ ⟨y, v⟩ l r) (divideAlike ⟨x', u⟩ ⟨y', v⟩ l r) := by
  unfold divideAlike
  refine Alike.converted y y' v u ⟨_, rfl⟩ ⟨_, rfl⟩
    fun z z' => ?_
  -- a divisor that is zero makes one of them fail
  simp only
  split
  · exact alike_error_left ..
  · split
    · exact alike_error_right ..
    · exact alike_quantity "/" _ _ []

theorem alike_divideQuantities :
    Alike Value.SameUnits (divideQuantities ⟨x, u⟩ ⟨y, v⟩) (divideQuantities ⟨x', u⟩ ⟨y', v⟩) := by
  unfold divideQuantities
  refine alike_andThen fun (l, r) => ?_
  simp only
  split
  · exact alike_divideAlike ..
  · split
    · exact alike_error_left ..
    · split
      · exact alike_error_right ..
      · exact alike_composed "/" (alike_composeIn ..)

end Quantities

/-- An operator on two numbers, or on a number and a quantity, asks nothing. -/
theorem alike_scalar (op : Operator) {l l' r r' : Value} (hl : l.SameUnits l')
    (hr : r.SameUnits r') (h : l.isQuantity = false ∨ r.isQuantity = false) :
    Alike Value.SameUnits (done (Arithmetic.apply .empty op l r).1)
      (done (Arithmetic.apply .empty op l' r').1) := by
  have hguarded : ∀ {b b' : Bool} {o o' : Except Failure Value} {e : Failure},
      Alike Value.SameUnits (done o) (done o') →
      Alike Value.SameUnits (done (if b then .error e else o))
        (done (if b' then .error e else o')) := by
    intro b b' o o' e hoo
    cases b with
    | true => exact alike_error_left ..
    | false =>
      cases b' with
      | true => exact alike_error_right ..
      | false => exact hoo
  cases hl with
  | number x x' =>
    cases hr with
    | number y y' =>
      cases op with
      | add | subtract | multiply | power => exact alike_number ..
      | divide => exact hguarded (alike_number ..)
    | quantity y y' u =>
      cases op with
      | multiply => exact alike_quantity ..
      | add | subtract | divide | power => exact alike_error_left ..
  | quantity x x' u =>
    cases hr with
    | number y y' =>
      cases op with
      | multiply => exact alike_quantity ..
      | divide => exact hguarded (alike_quantity ..)
      | add | subtract | power => exact alike_error_left ..
    | quantity y y' v => rcases h with h | h <;> cases h

/-- **Operators do not choose units by magnitudes.** -/
theorem alike_binary (symbol : String) {l l' r r' : Value} (hl : l.SameUnits l')
    (hr : r.SameUnits r') :
    Alike Value.SameUnits (binary symbol l r) (binary symbol l' r') := by
  unfold binary
  rcases Operator.ofText? symbol with _ | op
  · exact alike_error_left ..
  · cases hl with
    | number x x' =>
      have hscalar := alike_scalar op (.number x x') hr (.inl rfl)
      cases op <;> exact hscalar
    | quantity x x' u =>
      cases hr with
      | number y y' =>
        have hscalar := alike_scalar op (.quantity x x' u) (.number y y') (.inr rfl)
        cases op <;> exact hscalar
      | quantity y y' v =>
        cases op with
        | add | subtract => exact alike_combine ..
        | multiply =>
          exact alike_composed "*" (alike_andThen fun (l, r) => alike_composeIn ..)
        | divide => exact alike_divideQuantities ..
        | power => exact alike_error_left ..

end Inquiry

theorem Arithmetic.sameUnits_unary {symbol : String} {u u' v v' : Value} (h : u.SameUnits u')
    (hv : unary symbol u = .ok v) (hv' : unary symbol u' = .ok v') : v.SameUnits v' := by
  unfold unary at hv hv'
  by_cases hplus : symbol = "+"
  · rw [if_pos hplus] at hv hv'
    cases hv
    cases hv'
    exact h
  · rw [if_neg hplus] at hv hv'
    by_cases hminus : symbol = "-"
    · rw [if_pos hminus] at hv hv'
      cases h with
      | number x y =>
        cases hv
        cases hv'
        exact .number ..
      | quantity x y units =>
        rw [quantity_eq_ok hv, quantity_eq_ok hv']
        exact .quantity ..
    · rw [if_neg hminus] at hv
      cases hv

end Reckon
