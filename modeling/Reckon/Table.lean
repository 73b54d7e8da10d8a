/-!
# Ordered tables

A table binds keys to values. A key keeps the place where it was first bound, also when it is bound
again.
-/

namespace Reckon

/-- Keys with their values, in the order in which the keys were first bound. -/
abbrev Table (α : Type) := List (String × α)

namespace Table

variable {α : Type}

/-- The value of a key. -/
def get? (t : Table α) (key : String) : Option α :=
  match t with
  | [] => none
  | (k, v) :: rest => if k = key then some v else get? rest key

/-- Binds a key; a new one goes to the end. -/
def insert (t : Table α) (key : String) (value : α) : Table α :=
  match t with
  | [] => [(key, value)]
  | (k, v) :: rest => if k = key then (k, value) :: rest else (k, v) :: insert rest key value

/-- The keys in order. -/
def keys (t : Table α) : List String := t.map (·.1)

/-- The values in order. -/
def values (t : Table α) : List α := t.map (·.2)

/-- The entries in alphabetical order of their keys. -/
def sorted (t : Table α) : Table α := t.mergeSort fun a b => decide (a.1 ≤ b.1)

theorem get?_insert (t : Table α) (key other : String) (value : α) :
    (t.insert key value).get? other = if other = key then some value else t.get? other := by
  induction t with
  | nil => grind [insert, get?]
  | cons p rest ih => grind [insert, get?]

/-- Binding keeps the keys in place and adds a new one at the end. -/
theorem keys_insert (t : Table α) (key : String) (value : α) :
    (t.insert key value).keys = if key ∈ t.keys then t.keys else t.keys ++ [key] := by
  induction t with
  | nil => simp [insert, keys]
  | cons p rest ih => grind [insert, keys]

end Table

end Reckon
