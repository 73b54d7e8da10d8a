import Reckon.Proofs.Decimal.Bits
import Reckon.Proofs.Unit.Composition

/-!
# How operators fail

An operator that has no result has an error to show for it, apart from what the units do.

* No operator divides by zero, and no power goes unnoticed that is undefined or too large. In
  `Checked.binary` both would abort, and it is the same function (`checked_binary`).
* An operator aborts only on two quantities: if one of them has a unit that does not exist, or if a
  conversion aborts (`binary_aborts_iff`).
-/

namespace Reckon.Arithmetic

/-! ### Guards -/

namespace Checked

/-- The quotient of two doubles. There is none by zero. -/
def quotient (x y : Float) : Except Failure Float :=
  if y == 0 then .error (.abort .zeroDivision) else .ok (x / y)

/-- The power of two doubles. A finite number has a power that is finite, or none. -/
def raise (x y : Float) : Except Failure Float :=
  let z := Float.pow x y
  if x.isFinite && y.isFinite && !z.isFinite then
    .error (.abort (if z.isNaN then .domain else .overflow))
  else .ok z

/-- The quotient of two quantities of the same dimension. -/
def divideAlike (m : Memory) (left right : Quantity) (l r : Dimension) :
    Except Failure Value × Memory :=
  match m.convert right.magnitude right.units left.units with
  | (.error a, m) => (.error (.abort a), m)
  | (.ok none, m) => (.error (.error (.cannotApply "/" l.label r.label)), m)
  | (.ok (some divisor), m) =>
    if isZero divisor then (.error (.error .divisionByZero), m)
    else ((quotient left.magnitude divisor).bind fun x => quantity "/" (ratio x), m)

/-- The quotient of two quantities. What `composeIn` divides it has tested itself. -/
def divideQuantities (m : Memory) (left right : Quantity) : Except Failure Value × Memory :=
  match m.dimensions left.units right.units with
  | (.error a, m) => (.error (.abort a), m)
  | (.ok (l, r), m) =>
    if l.same r then divideAlike m left right l r
    else if isZero right.magnitude then (.error (.error .divisionByZero), m)
    else composed "/" (composeIn m "/" left right l r)

/-- The quotient. -/
def divide (m : Memory) : Value → Value → Except Failure Value × Memory
  | .number x, .number y =>
    (if isZero y then .error (.error .divisionByZero) else (quotient x y).bind (number "/"), m)
  | .quantity p, .quantity q => divideQuantities m p q
  | .quantity p, .number y =>
    (if isZero y then .error (.error .divisionByZero) else (quotient 1 y).bind (scale "/" p), m)
  | .number _, .quantity _ => (.error (.error .scalarByQuantity), m)

/-- The power. -/
def power (m : Memory) : Value → Value → Except Failure Value × Memory
  | .number x, .number y =>
    match raise x y with
    | .error _ => (.error (.error (.invalidOperation "^")), m)
    | .ok z => (number "^" z, m)
  | _, _ => (.error (.error .quantityPower), m)

/-- Applies the binary operator with the given text. -/
def binary (m : Memory) (symbol : String) (left right : Value) : Except Failure Value × Memory :=
  match Operator.ofText? symbol with
  | some .divide => divide m left right
  | some .power => power m left right
  | some op => apply m op left right
  | none => (.error (.error (.unsupportedOperator symbol)), m)

end Checked

/-- Both zeros are below the tolerance. -/
theorem beq_zero_of_isZero {y : Float} (h : isZero y = false) : (y == 0) = false := by
  rw [Bool.eq_false_iff]
  intro hzero
  rcases Decimal.eq_zero_of_beq_zero hzero with rfl | rfl
  · exact absurd h (by decide)
  · exact absurd h (by decide)

/-- **A divisor is tested before a division**, whatever follows it. -/
theorem checked_quotient (x y : Float) (e : Failure) (f : Float → Except Failure Value) :
    (if isZero y then .error e else (Checked.quotient x y).bind f) =
      if isZero y then .error e else f (x / y) := by
  cases hzero : isZero y with
  | true => rfl
  | false =>
    unfold Checked.quotient
    rw [beq_zero_of_isZero hzero]
    rfl

theorem checked_divideAlike (m : Memory) (left right : Quantity) (l r : Dimension) :
    Checked.divideAlike m left right l r = divideAlike m left right l r := by
  unfold Checked.divideAlike divideAlike
  rcases m.convert right.magnitude right.units left.units with ⟨_ | _ | divisor, m⟩
  · rfl
  · rfl
  · have hguard := checked_quotient left.magnitude divisor (.error .divisionByZero)
      fun x => quantity "/" (ratio x)
    simp only
    split
    · rfl
    · rename_i hzero
      rw [if_neg hzero, if_neg hzero] at hguard
      rw [hguard]

theorem checked_divide (m : Memory) (left right : Value) :
    Checked.divide m left right = divide m left right := by
  cases left with
  | number x =>
    cases right with
    | number y => exact congrArg (·, m) (checked_quotient x y _ _)
    | quantity q => rfl
  | quantity p =>
    cases right with
    | number y => exact congrArg (·, m) (checked_quotient 1 y _ _)
    | quantity q =>
      show Checked.divideQuantities m p q = divideQuantities m p q
      unfold Checked.divideQuantities divideQuantities
      rcases m.dimensions p.units q.units with ⟨_ | ⟨l, r⟩, m⟩
      · rfl
      · simp only [checked_divideAlike]

/-- A power that is refused would not be finite. -/
theorem checked_power (m : Memory) (left right : Value) :
    Checked.power m left right = power m left right := by
  cases left with
  | quantity p => rfl
  | number x =>
    cases right with
    | quantity q => rfl
    | number y =>
      unfold Checked.power power Checked.raise
      simp only
      cases hraise : x.isFinite && y.isFinite && !(Float.pow x y).isFinite with
      | false => rfl
      | true =>
        have hinfinite : (Float.pow x y).isFinite = false := by
          simp only [Bool.and_eq_true, Bool.not_eq_true'] at hraise
          exact hraise.2
        unfold number
        rw [hinfinite]
        rfl

/-- **No operator divides by zero or misses a power that is not finite.** -/
theorem checked_binary (m : Memory) (symbol : String) (left right : Value) :
    Checked.binary m symbol left right = binary m symbol left right := by
  unfold Checked.binary binary
  rcases Operator.ofText? symbol with _ | op
  · rfl
  · cases op with
    | divide => exact checked_divide m left right
    | power => exact checked_power m left right
    | subtract | add | multiply => rfl

/-! ### What makes an operator abort -/

/-- Why an operator aborts on two quantities. -/
inductive GivesUp (m : Memory) (p q : Quantity) (a : Abort) : Operator → Prop where
  /-- A unit of one of them does not exist, so there is no dimension to go by. -/
  | unmeasured {op : Operator} : op ≠ .power → a = .noDimension →
      ¬(p.units.isDefined = true ∧ q.units.isDefined = true) → GivesUp m p q a op
  /-- They are of the same dimension, and converting the right one to the units of the left one
  aborts. -/
  | alike {op : Operator} {l r : Dimension} {m₁ : Memory} :
      op = .add ∨ op = .subtract ∨ op = .divide →
      m.dimensions p.units q.units = (.ok (l, r), m₁) → l.same r = true →
      (m₁.convert q.magnitude q.units p.units).1 = .error a → GivesUp m p q a op
  /-- Converting the product or quotient to the units of its kind aborts. -/
  | composed {op : Operator} {l r : Dimension} {m₁ : Memory} {kind : Kind} {raw : Quantity} :
      op = .multiply ∨ op = .divide ∧ l.same r = false ∧ isZero q.magnitude = false →
      m.dimensions p.units q.units = (.ok (l, r), m₁) → composedKind? op.text l r = some kind →
      raw? op.text p q = some raw → (m₁.convert raw.magnitude raw.units kind.units).1 = .error a →
      GivesUp m p q a op

section Aborts

variable {m : Memory} {a : Abort}

theorem number_ne_abort {symbol : String} {x : Float} : number symbol x ≠ .error (.abort a) := by
  unfold number
  split <;> simp

theorem quantity_ne_abort {symbol : String} {q : Quantity} :
    quantity symbol q ≠ .error (.abort a) := by
  unfold quantity
  split <;> simp

theorem unary_ne_abort {symbol : String} {v : Value} : unary symbol v ≠ .error (.abort a) := by
  unfold unary
  split
  · simp
  · split
    · cases v with
      | number x => simp [negate]
      | quantity q => exact quantity_ne_abort
    · simp

variable {p q : Quantity}

/-- A product of units has a dimension if and only if all of its units exist. -/
theorem dimensions_aborts_iff {u v : Units} :
    (m.dimensions u v).1 = .error a ↔
      a = .noDimension ∧ ¬(u.isDefined = true ∧ v.isDefined = true) := by
  constructor
  · intro h
    exact dimensions_eq_error (Prod.ext h rfl)
  · rintro ⟨rfl, hundefined⟩
    rcases h : m.dimensions u v with ⟨e | ⟨l, r⟩, m₁⟩
    · obtain ⟨rfl, -⟩ := dimensions_eq_error h
      rfl
    · exact absurd (Memory.isDefined_of_dimensions h) hundefined

theorem combine_aborts_iff {symbol : String} {operation : Float → Float → Float} :
    (combine m symbol operation p q).1 = .error (.abort a) ↔
      (m.dimensions p.units q.units).1 = .error a ∨
        ∃ l r m₁, m.dimensions p.units q.units = (.ok (l, r), m₁) ∧ l.same r = true ∧
          (m₁.convert q.magnitude q.units p.units).1 = .error a := by
  unfold combine
  rcases m.dimensions p.units q.units with ⟨e | ⟨l, r⟩, m₁⟩
  · simp
  · by_cases hsame : l.same r = true
    · rcases hconvert : m₁.convert q.magnitude q.units p.units with ⟨e | _ | x, m₂⟩ <;>
        simp [hsame, hconvert, quantity_ne_abort]
    · simp [hsame]

theorem composeIn_aborts_iff {symbol : String} {l r : Dimension} :
    (composeIn m symbol p q l r).1 = .error (.abort a) ↔
      ∃ kind raw, composedKind? symbol l r = some kind ∧ raw? symbol p q = some raw ∧
        (m.convert raw.magnitude raw.units kind.units).1 = .error a := by
  unfold composeIn
  rcases composedKind? symbol l r with _ | kind
  · simp
  · rcases raw? symbol p q with _ | raw
    · simp
    · rcases hconvert : m.convert raw.magnitude raw.units kind.units with ⟨e | _ | x, m₁⟩ <;>
        simp [hconvert]

theorem compose_aborts_iff {symbol : String} :
    (compose m symbol p q).1 = .error (.abort a) ↔
      (m.dimensions p.units q.units).1 = .error a ∨
        ∃ l r m₁, m.dimensions p.units q.units = (.ok (l, r), m₁) ∧
          (composeIn m₁ symbol p q l r).1 = .error (.abort a) := by
  unfold compose
  rcases m.dimensions p.units q.units with ⟨e | ⟨l, r⟩, m₁⟩ <;> simp

theorem composed_aborts_iff {symbol : String} {outcome : Except Failure Quantity × Memory} :
    (composed symbol outcome).1 = .error (.abort a) ↔ outcome.1 = .error (.abort a) := by
  obtain ⟨o, m₁⟩ := outcome
  unfold composed
  cases o with
  | error e => simp [Except.bind]
  | ok x => simp [Except.bind, quantity_ne_abort]

theorem divideAlike_aborts_iff {l r : Dimension} :
    (divideAlike m p q l r).1 = .error (.abort a) ↔
      (m.convert q.magnitude q.units p.units).1 = .error a := by
  unfold divideAlike
  rcases m.convert q.magnitude q.units p.units with ⟨e | _ | x, m₁⟩
  · simp
  · simp
  · simp only
    split <;> simp [quantity_ne_abort]

theorem divideQuantities_aborts_iff :
    (divideQuantities m p q).1 = .error (.abort a) ↔
      (m.dimensions p.units q.units).1 = .error a ∨
        ∃ l r m₁, m.dimensions p.units q.units = (.ok (l, r), m₁) ∧
          (l.same r = true ∧ (m₁.convert q.magnitude q.units p.units).1 = .error a ∨
            (l.same r = false ∧ isZero q.magnitude = false) ∧
              (composeIn m₁ "/" p q l r).1 = .error (.abort a)) := by
  unfold divideQuantities
  rcases m.dimensions p.units q.units with ⟨e | ⟨l, r⟩, m₁⟩
  · simp
  · cases hsame : l.same r
    · cases hzero : isZero q.magnitude
      · simp [hsame, composed_aborts_iff]
      · simp [hsame]
    · simp [hsame, divideAlike_aborts_iff]

/-- **An operator aborts on two quantities** just for one of three reasons. -/
theorem apply_aborts_iff {op : Operator} :
    (apply m op (.quantity p) (.quantity q)).1 = .error (.abort a) ↔ GivesUp m p q a op := by
  have hunmeasured : ∀ {op : Operator}, op ≠ .power →
      (m.dimensions p.units q.units).1 = .error a → GivesUp m p q a op := by
    intro op hop h
    obtain ⟨ha, hundefined⟩ := dimensions_aborts_iff.mp h
    exact .unmeasured hop ha hundefined
  constructor
  · intro h
    cases op with
    | add | subtract =>
      rcases combine_aborts_iff.mp h with h | ⟨l, r, m₁, hdimensions, hsame, hconvert⟩
      · exact hunmeasured (by decide) h
      · exact .alike (by decide) hdimensions hsame hconvert
    | multiply =>
      rcases compose_aborts_iff.mp (composed_aborts_iff.mp h) with h | ⟨l, r, m₁, hdimensions, h⟩
      · exact hunmeasured (by decide) h
      · obtain ⟨kind, raw, hkind, hraw, hconvert⟩ := composeIn_aborts_iff.mp h
        exact .composed (.inl rfl) hdimensions hkind hraw hconvert
    | divide =>
      rcases divideQuantities_aborts_iff.mp h with h | ⟨l, r, m₁, hdimensions, h⟩
      · exact hunmeasured (by decide) h
      -- operands of one dimension are converted, others are composed
      · rcases h with ⟨hsame, hconvert⟩ | ⟨hguards, hcompose⟩
        · exact .alike (by decide) hdimensions hsame hconvert
        · obtain ⟨kind, raw, hkind, hraw, hconvert⟩ := composeIn_aborts_iff.mp hcompose
          exact .composed (.inr ⟨rfl, hguards⟩) hdimensions hkind hraw hconvert
    | power => cases h
  · intro h
    cases h with
    | unmeasured hop ha hundefined =>
      have hdimensions : (m.dimensions p.units q.units).1 = .error a :=
        dimensions_aborts_iff.mpr ⟨ha, hundefined⟩
      cases op with
      | add | subtract => exact combine_aborts_iff.mpr (.inl hdimensions)
      | multiply => exact composed_aborts_iff.mpr (compose_aborts_iff.mpr (.inl hdimensions))
      | divide => exact divideQuantities_aborts_iff.mpr (.inl hdimensions)
      | power => exact absurd rfl hop
    | alike hop hdimensions hsame hconvert =>
      rcases hop with rfl | rfl | rfl
      · exact combine_aborts_iff.mpr (.inr ⟨_, _, _, hdimensions, hsame, hconvert⟩)
      · exact combine_aborts_iff.mpr (.inr ⟨_, _, _, hdimensions, hsame, hconvert⟩)
      · exact divideQuantities_aborts_iff.mpr
          (.inr ⟨_, _, _, hdimensions, .inl ⟨hsame, hconvert⟩⟩)
    | composed hop hdimensions hkind hraw hconvert =>
      have hcompose := composeIn_aborts_iff.mpr ⟨_, _, hkind, hraw, hconvert⟩
      rcases hop with rfl | ⟨rfl, hguards⟩
      · exact composed_aborts_iff.mpr
          (compose_aborts_iff.mpr (.inr ⟨_, _, _, hdimensions, hcompose⟩))
      · exact divideQuantities_aborts_iff.mpr
          (.inr ⟨_, _, _, hdimensions, .inr ⟨hguards, hcompose⟩⟩)

/-- Where an operand is a number, there is nothing to convert. -/
theorem apply_scalar_ne_abort {op : Operator} {l r : Value}
    (h : l.isQuantity = false ∨ r.isQuantity = false) :
    (apply m op l r).1 ≠ .error (.abort a) := by
  have hguard : ∀ {b : Bool} {e : EvalError} {o : Except Failure Value}, o ≠ .error (.abort a) →
      (if b then .error (.error e) else o) ≠ .error (.abort a) := by
    intro b e o ho
    cases b with
    | true => simp
    | false => exact ho
  cases l with
  | number x =>
    cases r with
    | number y =>
      cases op with
      | add | subtract | multiply | power => exact number_ne_abort
      | divide => exact hguard number_ne_abort
    | quantity q =>
      cases op with
      | multiply => exact quantity_ne_abort
      | add | subtract | divide | power => exact nofun
  | quantity p =>
    cases r with
    | number y =>
      cases op with
      | multiply => exact quantity_ne_abort
      | divide => exact hguard quantity_ne_abort
      | add | subtract | power => exact nofun
    | quantity q => rcases h with h | h <;> cases h

/-- **Operators abort only because of units.** -/
theorem binary_aborts_iff {symbol : String} {l r : Value} :
    (binary m symbol l r).1 = .error (.abort a) ↔
      ∃ op p q, Operator.ofText? symbol = some op ∧ l = .quantity p ∧ r = .quantity q ∧
        GivesUp m p q a op := by
  unfold binary
  rcases Operator.ofText? symbol with _ | op
  · simp
  · constructor
    · intro h
      cases l with
      | number x => exact absurd h (apply_scalar_ne_abort (.inl rfl))
      | quantity p =>
        cases r with
        | number y => exact absurd h (apply_scalar_ne_abort (.inr rfl))
        | quantity q => exact ⟨op, p, q, rfl, rfl, rfl, apply_aborts_iff.mp h⟩
    · rintro ⟨op', p, q, hop, rfl, rfl, h⟩
      cases hop
      exact apply_aborts_iff.mpr h

end Aborts

end Reckon.Arithmetic
