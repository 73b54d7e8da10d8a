import Reckon.Arithmetic

/-!
# What arithmetic asks about units

An operator learns about units only by asking the memory, for the dimension of a product of units
or for its factor. An `Inquiry` is a computation spelled out as a tree of such questions. Every
operator is one: `run_binary` says that running the tree of an operator against a memory is what the
operator does with it. So whatever holds of all inquiries holds of all operators:

* the memory only grows (`run_extends`);
* what the memory does not know and is not asked for makes no difference (`run_congruent`, in
  `Reckon.Proofs.Unit.Recollection`).
-/

namespace Reckon

/-- A computation that asks a memory about units. -/
inductive Inquiry (α : Type) where
  /-- Nothing more is asked. -/
  | done (a : α)
  /-- Asks for the dimension of a product of units. -/
  | dimension (u : Units) (next : Except Abort Dimension → Inquiry α)
  /-- Asks for the factor of a product of units. -/
  | factor (u : Units) (next : Except Abort Scalar → Inquiry α)

/-- What can be asked about a product of units. -/
inductive Aspect where
  | dimension
  | factor
deriving DecidableEq

/-- A question about a product of units. -/
structure Question where
  /-- What is asked. -/
  aspect : Aspect
  /-- The product. -/
  units : Units

namespace Inquiry

variable {α β : Type}

/-- The outcome of an inquiry and the memory after it. -/
def run : Inquiry α → Memory → α × Memory
  | done a, m => (a, m)
  | dimension u next, m => (next (m.dimension u).1).run (m.dimension u).2
  | factor u next, m => (next (m.factor u).1).run (m.factor u).2

/-- The questions of an inquiry, in order. -/
def asked : Inquiry α → Memory → List Question
  | done _, _ => []
  | dimension u next, m => ⟨.dimension, u⟩ :: (next (m.dimension u).1).asked (m.dimension u).2
  | factor u next, m => ⟨.factor, u⟩ :: (next (m.factor u).1).asked (m.factor u).2

/-- Goes on with another inquiry. -/
def bind : Inquiry α → (α → Inquiry β) → Inquiry β
  | done a, f => f a
  | dimension u next, f => dimension u fun d => (next d).bind f
  | factor u next, f => factor u fun x => (next x).bind f

theorem run_bind (t : Inquiry α) (f : α → Inquiry β) :
    ∀ m, (t.bind f).run m = (f (t.run m).1).run (t.run m).2 := by
  induction t with
  | done a => intro m; rfl
  | dimension u next ih => intro m; exact ih _ _
  | factor u next ih => intro m; exact ih _ _

/-- Goes on with the value of an inquiry; a failure becomes another one. -/
def andThen {ε ε' : Type} (t : Inquiry (Except ε α)) (fail : ε → ε')
    (f : α → Inquiry (Except ε' β)) : Inquiry (Except ε' β) :=
  t.bind fun
    | .error e => done (.error (fail e))
    | .ok a => f a

/-- The dimensions of two products. -/
def dimensions (a b : Units) : Inquiry (Except Abort (Dimension × Dimension)) :=
  (dimension a done).andThen id fun x => (dimension b done).andThen id fun y => done (.ok (x, y))

/-- The conversion of a reading between units of the same dimension. -/
def convertReading (v : Float) (a b : Units) (source target : Option (Unit.Law × Units)) :
    Inquiry (Except Abort (Option Float)) :=
  let a' := (source.map (·.2)).getD a
  let b' := (target.map (·.2)).getD b
  if source.isSome && b.hasDifference then done (.ok none)
  else
    match source.elim (.ok v) (·.1.toReference v) with
    | .error e => done (.error e)
    | .ok v =>
      if target.isSome && a'.hasDifference then done (.ok none)
      else
        (factor (Powers.div a' b') done).andThen id fun f =>
          let converted := f.double.bind fun f =>
            target.elim (.ok (v * f)) (·.1.ofReference (v * f))
          done (converted.map some)

/-- The conversion of a reading. -/
def convert (v : Float) (a b : Units) : Inquiry (Except Abort (Option Float)) :=
  if a.same b then done (.ok (some v))
  else
    match a.special?, b.special? with
    | some source, some target =>
      (dimensions a b).andThen id fun (x, y) =>
        if x.same y then convertReading v a b source target else done (.ok none)
    | _, _ => done (.ok none)

open Arithmetic

/-- The sum or difference of two quantities. -/
def combine (symbol : String) (operation : Float → Float → Float) (left right : Quantity) :
    Inquiry (Except Failure Value) :=
  (dimensions left.units right.units).andThen .abort fun (l, r) =>
    if l.same r then
      (convert right.magnitude right.units left.units).andThen .abort fun
        | none => done (.error (.error .differentTypes))
        | some x => done (quantity symbol ⟨operation left.magnitude x, left.units⟩)
    else done (.error (.error .differentTypes))

/-- The product or quotient of two quantities of the given dimensions. -/
def composeIn (symbol : String) (left right : Quantity) (l r : Dimension) :
    Inquiry (Except Failure Quantity) :=
  let refusal := Failure.error (.cannotApply symbol l.label r.label)
  match composedKind? symbol l r, raw? symbol left right with
  | some kind, some q =>
    (convert q.magnitude q.units kind.units).andThen .abort fun
      | none => done (.error refusal)
      | some x => done (.ok ⟨x, kind.units⟩)
  | _, _ => done (.error refusal)

/-- The quotient of two quantities of the same dimension. -/
def divideAlike (left right : Quantity) (l r : Dimension) : Inquiry (Except Failure Value) :=
  (convert right.magnitude right.units left.units).andThen .abort fun
    | none => done (.error (.error (.cannotApply "/" l.label r.label)))
    | some divisor =>
      if isZero divisor then done (.error (.error .divisionByZero))
      else done (quantity "/" (ratio (left.magnitude / divisor)))

/-- The product or quotient of two quantities whose kinds the table has. -/
def compose (symbol : String) (left right : Quantity) : Inquiry (Except Failure Quantity) :=
  (dimensions left.units right.units).andThen .abort fun (l, r) => composeIn symbol left right l r

/-- A composed quantity as the result of an operator. -/
def composed (symbol : String) (t : Inquiry (Except Failure Quantity)) :
    Inquiry (Except Failure Value) :=
  t.andThen id fun q => done (quantity symbol q)

/-- The quotient of two quantities. -/
def divideQuantities (left right : Quantity) : Inquiry (Except Failure Value) :=
  (dimensions left.units right.units).andThen .abort fun (l, r) =>
    if l.same r then divideAlike left right l r
    else if isZero right.magnitude then done (.error (.error .divisionByZero))
    else composed "/" (composeIn "/" left right l r)

/-- A binary operator. Only two quantities give it something to ask. -/
def apply (op : Operator) (left right : Value) : Inquiry (Except Failure Value) :=
  match op, left, right with
  | .add, .quantity p, .quantity q => combine "+" (· + ·) p q
  | .subtract, .quantity p, .quantity q => combine "-" (· - ·) p q
  | .multiply, .quantity p, .quantity q => composed "*" (compose "*" p q)
  | .divide, .quantity p, .quantity q => divideQuantities p q
  | op, left, right => done (Arithmetic.apply .empty op left right).1

/-- The binary operator with the given text. -/
def binary (symbol : String) (left right : Value) : Inquiry (Except Failure Value) :=
  match Operator.ofText? symbol with
  | some op => apply op left right
  | none => done (.error (.error (.unsupportedOperator symbol)))

section Operators

variable {m : Memory}

theorem run_andThen {ε ε' : Type} (t : Inquiry (Except ε α)) (fail : ε → ε')
    (f : α → Inquiry (Except ε' β)) :
    (t.andThen fail f).run m =
      match t.run m with
      | (.error e, m) => (.error (fail e), m)
      | (.ok a, m) => (f a).run m := by
  unfold andThen
  rw [run_bind]
  rcases t.run m with ⟨_ | _, _⟩ <;> rfl

theorem run_dimensions (a b : Units) : (dimensions a b).run m = m.dimensions a b := by
  unfold dimensions Memory.dimensions
  simp only [run_andThen, run]
  rcases m.dimension a with ⟨_ | x, m⟩
  · rfl
  · simp only
    rcases m.dimension b with ⟨_ | y, m⟩ <;> rfl

theorem run_convertReading (v : Float) (a b : Units) (source target : Option (Unit.Law × Units)) :
    (convertReading v a b source target).run m = m.convertReading v a b source target := by
  unfold convertReading Memory.convertReading
  simp only
  split
  · rfl
  · generalize source.elim (Except.ok v) (fun s => s.1.toReference v) = reading
    rcases reading with e | v
    · rfl
    · simp only
      split
      · rfl
      · simp only [run_andThen, run]
        rcases m.factor _ with ⟨_ | f, m⟩ <;> rfl

theorem run_convert (v : Float) (a b : Units) : (convert v a b).run m = m.convert v a b := by
  unfold convert Memory.convert
  split
  · rfl
  · rcases a.special? with _ | source
    · rfl
    · rcases b.special? with _ | target
      · rfl
      · simp only [run_andThen, run_dimensions]
        rcases m.dimensions a b with ⟨_ | ⟨x, y⟩, m⟩
        · rfl
        · simp only
          split
          · exact run_convertReading ..
          · rfl

theorem run_combine (symbol : String) (operation : Float → Float → Float) (left right : Quantity) :
    (combine symbol operation left right).run m =
      Arithmetic.combine m symbol operation left right := by
  unfold combine Arithmetic.combine
  simp only [run_andThen, run_dimensions]
  rcases m.dimensions left.units right.units with ⟨_ | ⟨l, r⟩, m⟩
  · rfl
  · simp only
    split
    · simp only [run_andThen, run_convert]
      rcases m.convert right.magnitude right.units left.units with ⟨_ | _ | _, m⟩ <;> rfl
    · rfl

theorem run_composeIn (symbol : String) (left right : Quantity) (l r : Dimension) :
    (composeIn symbol left right l r).run m = Arithmetic.composeIn m symbol left right l r := by
  unfold composeIn Arithmetic.composeIn
  simp only
  rcases composedKind? symbol l r with _ | kind
  · rfl
  · rcases raw? symbol left right with _ | q
    · rfl
    · simp only [run_andThen, run_convert]
      rcases m.convert q.magnitude q.units kind.units with ⟨_ | _ | _, m⟩ <;> rfl

theorem run_divideAlike (left right : Quantity) (l r : Dimension) :
    (divideAlike left right l r).run m = Arithmetic.divideAlike m left right l r := by
  unfold divideAlike Arithmetic.divideAlike
  simp only [run_andThen, run_convert]
  rcases m.convert right.magnitude right.units left.units with ⟨_ | _ | divisor, m⟩
  · rfl
  · rfl
  · simp only
    split <;> rfl

theorem run_compose (symbol : String) (left right : Quantity) :
    (compose symbol left right).run m = Arithmetic.compose m symbol left right := by
  unfold compose Arithmetic.compose
  rw [run_andThen, run_dimensions]
  rcases m.dimensions left.units right.units with ⟨_ | ⟨l, r⟩, m⟩
  · rfl
  · exact run_composeIn ..

theorem run_composed (symbol : String) (t : Inquiry (Except Failure Quantity)) :
    (composed symbol t).run m = Arithmetic.composed symbol (t.run m) := by
  unfold composed Arithmetic.composed
  rw [run_andThen]
  rcases t.run m with ⟨_ | q, m⟩ <;> rfl

theorem run_divideQuantities (left right : Quantity) :
    (divideQuantities left right).run m = Arithmetic.divideQuantities m left right := by
  unfold divideQuantities Arithmetic.divideQuantities
  rw [run_andThen, run_dimensions]
  rcases m.dimensions left.units right.units with ⟨_ | ⟨l, r⟩, m⟩
  · rfl
  · simp only
    split
    · exact run_divideAlike ..
    · split
      · rfl
      · rw [run_composed, run_composeIn]

/-- **An operator does what its inquiry does.** -/
theorem run_binary (symbol : String) (left right : Value) :
    (binary symbol left right).run m = Arithmetic.binary m symbol left right := by
  unfold binary Arithmetic.binary
  rcases Operator.ofText? symbol with _ | op
  · rfl
  · simp only
    -- two quantities, or an operand that is a number
    rcases left with x | p <;> rcases right with y | q
    · cases op <;> rfl
    · cases op <;> rfl
    · cases op <;> rfl
    · cases op with
      | add => exact run_combine ..
      | subtract => exact run_combine ..
      | multiply =>
        show (composed "*" (compose "*" p q)).run m = _
        rw [run_composed, run_compose]
        rfl
      | divide => exact run_divideQuantities ..
      | power => rfl

end Operators

end Inquiry

end Reckon
