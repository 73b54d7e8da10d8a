import Reckon.Builtin
import Reckon.Proofs.Decimal.Bits

/-!
# How built-in functions fail

A formula has no value where it is not defined, where its value is too large, and for a number of
arguments that it does not have places for. In `Checked.compute` each of these is trouble. A call
catches the first two. The last it has to rule out before it comes to the formula.

* Within its domain a formula has a value, or it is in trouble that is caught, and `compute` gives a
  number that is not finite (`stands_compute`).
* So a call of a formula that can be in trouble has a value or an error for every list of arguments,
  the one that `call` gives (`checked_call`).
-/

namespace Reckon.Builtin

/-! ### Formulas without a value -/

namespace Checked

/-- Why a formula has no value. -/
inductive Trouble where
  /-- There are more or fewer arguments than the formula has places for. -/
  | arguments
  /-- The value is undefined or too large. -/
  | noValue
  /-- A number is divided by zero. -/
  | zeroDivision

/-- Whether the formula of a function has places for so many arguments. -/
def takes : Builtin → Nat → Bool
  | min, _ | max, _ => true
  | log, count => count == 1 || count == 2
  | pow, count => count == 2
  | _, count => count == 1

/-- A value that is found, unless it is not finite although the arguments are, or is not a number
although they are. -/
def found (xs : List Float) (z : Float) : Except Trouble Float :=
  if !z.isFinite && (xs.all Float.isFinite || z.isNaN && xs.all (!·.isNaN)) then .error .noValue
  else .ok z

/-- A logarithm. -/
def logarithm (log : Float → Float) (x : Float) : Except Trouble Float :=
  if x ≤ 0 then .error .noValue else .ok (log x)

/-- The quotient of two doubles. -/
def quotient (x y : Float) : Except Trouble Float :=
  if y == 0 then .error .zeroDivision else .ok (x / y)

/-- The value of a function on a list of numbers. -/
def compute (f : Builtin) (xs : List Float) : Except Trouble Float :=
  if takes f xs.length then
    match f, xs with
    | ln, [x] => logarithm Float.log x
    | log, [x] => logarithm Float.log10 x
    | log, [x, base] => do quotient (← logarithm Float.log x) (← logarithm Float.log base)
    | round, [x] | floor, [x] | ceiling, [x] =>
      if x.isFinite then .ok (f.compute xs) else .error .noValue
    | abs, _ | min, _ :: _ | max, _ :: _ => .ok (f.compute xs)
    | _, _ => found xs (f.compute xs)
  else .error .arguments

/-- What is wrong with the arguments, if they are as many as there are places for. -/
def domainError? (f : Builtin) (xs : List Float) : Except Trouble (Option EvalError) :=
  if takes f xs.length then .ok (f.domainError? xs) else .error .arguments

/-- Calls a function. A formula without a value makes an error, unless it has no places for the
arguments. -/
def call (f : Builtin) (arguments : List Value) : Except Trouble (Except EvalError Value) :=
  if f.accepts arguments.length then
    match f.numbers arguments with
    | .error e => .ok (.error e)
    | .ok xs =>
      match domainError? f xs with
      | .error t => .error t
      | .ok (some e) => .ok (.error e)
      | .ok none =>
        match compute f xs with
        | .error .arguments => .error .arguments
        | .error .noValue | .error .zeroDivision => .ok (.error (.invalidFunction f.name))
        | .ok x => .ok (if x.isFinite then .ok (.number x) else .error (.invalidFunction f.name))
  else .ok (.error (f.countError arguments.length))

end Checked

open Checked

variable {f : Builtin} {xs : List Float}

/-! ### Guards -/

/-- Only numbers are taken for numbers. -/
theorem numbers_eq_ok {values : List Value} (h : f.numbers values = .ok xs) :
    values = xs.map .number := by
  induction values generalizing xs with
  | nil =>
    cases h
    rfl
  | cons v rest ih =>
    cases v with
    | number x =>
      rw [numbers] at h
      rcases hrest : f.numbers rest with e | ys
      · rw [hrest] at h
        cases h
      · rw [hrest] at h
        cases h
        rw [ih hrest]
        rfl
    | quantity q => cases h

/-- **A function accepts only as many arguments as its formula has places for.** -/
theorem takes_of_accepts {count : Nat} (h : f.accepts count = true) : takes f count = true := by
  unfold accepts at h
  simp only [Bool.and_eq_true, decide_eq_true_eq] at h
  obtain ⟨hmin, hmax⟩ := h
  cases f with
  | min | max => rfl
  | log | pow | sin | cos | tan | asin | acos | atan | sqrt | abs | exp | ln | round | floor
  | ceiling =>
    simp only [minArguments, maxArguments?, Option.all_some, decide_eq_true_eq] at hmin hmax
    simp only [takes, Bool.or_eq_true, beq_iff_eq]
    omega

/-- The outcome of a formula is the given number, or the number is not finite and the trouble is of
the kind that is caught. -/
def Stands (outcome : Except Trouble Float) (z : Float) : Prop :=
  outcome = .ok z ∨
    z.isFinite = false ∧ (outcome = .error .noValue ∨ outcome = .error .zeroDivision)

theorem stands_found (xs : List Float) (z : Float) : Stands (found xs z) z := by
  unfold found
  split
  · rename_i h
    simp only [Bool.and_eq_true, Bool.not_eq_true'] at h
    exact .inr ⟨h.1, .inl rfl⟩
  · exact .inl rfl

theorem stands_quotient (x y : Float) : Stands (quotient x y) (x / y) := by
  unfold quotient
  split
  · rename_i h
    exact .inr ⟨Decimal.isFinite_div_of_beq_zero x h, .inr rfl⟩
  · exact .inl rfl

theorem stands_rounded (rule : Decimal.Binary → Int) (x : Float) :
    Stands (if x.isFinite then .ok (rounded rule x) else .error .noValue) (rounded rule x) := by
  cases h : x.isFinite with
  | true => exact .inl rfl
  | false =>
    refine .inr ⟨?_, .inl rfl⟩
    unfold rounded Decimal.round?
    rw [h]
    show undefined.isFinite = false
    decide

/-- A test that has found no error has been passed, and so have those after it. -/
theorem passed_of_none {p : Prop} [Decidable p] {e : EvalError} {rest : Option EvalError}
    (h : (if p then some e else rest) = none) : ¬p ∧ rest = none := by
  by_cases hp : p
  · rw [if_pos hp] at h
    cases h
  · rw [if_neg hp] at h
    exact ⟨hp, h⟩

/-- Where the argument passes the test, there is a logarithm. -/
theorem logarithm_eq {log : Float → Float} {x : Float} (h : ¬x ≤ 0) :
    logarithm log x = .ok (log x) :=
  if_neg h

/-- **Within its domain a formula has a value, or its trouble is caught.** -/
theorem stands_compute (htakes : takes f xs.length = true) (hdomain : f.domainError? xs = none) :
    Stands (Checked.compute f xs) (f.compute xs) := by
  have hone : (xs.length == 1) = true → ∃ x, xs = [x] := fun h =>
    List.length_eq_one_iff.mp (beq_iff_eq.mp h)
  have htwo : (xs.length == 2) = true → ∃ x y, xs = [x, y] := fun h =>
    List.length_eq_two.mp (beq_iff_eq.mp h)
  unfold Checked.compute
  rw [if_pos htakes]
  cases f with
  | min | max =>
    cases xs with
    | nil => exact stands_found _ _
    | cons x rest => exact .inl rfl
  | sin | cos | tan | asin | acos | atan | sqrt | exp =>
    obtain ⟨x, rfl⟩ := hone htakes
    exact stands_found _ _
  | pow =>
    obtain ⟨x, y, rfl⟩ := htwo htakes
    exact stands_found _ _
  | abs =>
    obtain ⟨x, rfl⟩ := hone htakes
    exact .inl rfl
  | round | floor | ceiling =>
    obtain ⟨x, rfl⟩ := hone htakes
    exact stands_rounded _ x
  | ln =>
    obtain ⟨x, rfl⟩ := hone htakes
    exact .inl (logarithm_eq (passed_of_none hdomain).1)
  | log =>
    rcases Bool.or_eq_true_iff.mp htakes with h | h
    · obtain ⟨x, rfl⟩ := hone h
      exact .inl (logarithm_eq (passed_of_none hdomain).1)
    · obtain ⟨x, base, rfl⟩ := htwo h
      -- both logarithms are there, and only their quotient can be in trouble
      obtain ⟨hx, hrest⟩ := passed_of_none hdomain
      obtain ⟨hbase, -⟩ := passed_of_none hrest
      have hpositive : ¬base ≤ 0 := fun hle => hbase (by simp [hle])
      show Stands (do quotient (← logarithm Float.log x) (← logarithm Float.log base)) _
      rw [logarithm_eq hx, logarithm_eq hpositive]
      exact stands_quotient _ _

/-- **Every call of a function has a value or an error**, although its formula may have none. -/
theorem checked_call (f : Builtin) (arguments : List Value) :
    Checked.call f arguments = .ok (f.call arguments) := by
  unfold Checked.call call
  split
  · rename_i haccepts
    rcases hnumbers : f.numbers arguments with e | xs
    · rfl
    · have htakes : takes f xs.length = true := by
        rw [numbers_eq_ok hnumbers, List.length_map] at haccepts
        exact takes_of_accepts haccepts
      simp only [Checked.domainError?, htakes, if_true]
      rcases hdomain : f.domainError? xs with _ | e
      · rcases stands_compute htakes hdomain with h | ⟨hinfinite, h | h⟩
        · rw [h]
        · rw [h, hinfinite]
          rfl
        · rw [h, hinfinite]
          rfl
      · rfl
  · rfl

end Reckon.Builtin
