import Reckon.Proofs.Session.Purity
import Reckon.Proofs.Shape
import Reckon.Proofs.Table

/-!
# Evaluation by shapes

An outline is a session with shapes in place of values. `Outline.eval` is dimensional analysis: it
works out the shape of a node from the shapes of its parts, without any magnitude. It looks up units
as an evaluation does, and takes the dimensions of units from a memory.
-/

namespace Reckon

/-- A session with shapes in place of values. -/
structure Outline where
  /-- The shapes of the variables of the session. -/
  globals : Table Shape
  /-- The frame of the running call; `none` stands for the global one. -/
  current : Option (Table Shape)
  /-- The frames that were current when the open calls were entered, the last one first. -/
  suspended : List (Option (Table Shape))
  /-- The user functions by their folded names. -/
  functions : Table UserFunction
  /-- The units. -/
  catalog : Catalog

namespace Outline

/-- The shape of a variable, in the current frame or else in the global one. -/
def get? (o : Outline) (name : String) : Option Shape :=
  match o.current with
  | none => Table.get? o.globals (Text.fold name)
  | some frame => (Table.get? frame (Text.fold name)).or (Table.get? o.globals (Text.fold name))

/-- Binds a variable in the current frame. -/
def bind (o : Outline) (name : String) (shape : Shape) : Outline :=
  match o.current with
  | none => { o with globals := Table.insert o.globals (Text.fold name) shape }
  | some frame => { o with current := some (Table.insert frame (Text.fold name) shape) }

/-- Binds parameters to arguments, one after the other. -/
def bindAll (o : Outline) : List (String × Shape) → Outline
  | [] => o
  | (name, shape) :: rest => (o.bind name shape).bindAll rest

/-- Enters a call and binds the parameters. -/
def enter (o : Outline) (f : UserFunction) (arguments : List Shape) : Outline :=
  ({ o with current := some [], suspended := o.current :: o.suspended } : Outline).bindAll
    (f.parameters.zip arguments)

/-- Leaves the innermost call. -/
def leave (o : Outline) : Outline :=
  match o.suspended with
  | [] => o
  | frame :: rest => { o with current := frame, suspended := rest }

/-- Stores a function definition. -/
def define (o : Outline) (name : String) (parameters : List String) (body : Node) :
    Option (Shape × Outline) :=
  if Session.hasDuplicates parameters then none
  else
    some (.number,
      { o with functions := Table.insert o.functions (Text.fold name) ⟨name, parameters, body⟩ })

/-- The shape of a number with an optional unit. -/
def literal (m : Memory) (o : Outline) (unit : Option String) : Option (Shape × Outline) :=
  match unit with
  | none => some (.number, o)
  | some text =>
    if Text.isBlankText text then some (.number, o)
    else
      match o.catalog.resolve text with
      | (.ok units, c) => some (.quantity (m.report units).vector, { o with catalog := c })
      | (.error _, _) => none

mutual

/-- The shape of a node, if it has one, and the outline after it. At most `calls` further calls may
be opened. -/
def eval (m : Memory) (calls : Nat) (o : Outline) (n : Node) : Option (Shape × Outline) :=
  match n with
  | .number _ unit _ => o.literal m unit
  | .reference name _ => do return (← o.get? name, o)
  | .comment _ _ => some (.number, o)
  | .unknown _ => none
  | .definition name parameters body _ => o.define name parameters body
  | .unary operator operand _ => do
    let (shape, o) ← eval m calls o operand
    return (← Shape.unary operator shape, o)
  | .binary left operator right _ => do
    let (l, o) ← eval m calls o left
    let (r, o) ← eval m calls o right
    return (← Shape.binary operator l r, o)
  | .assignment name value _ => do
    let (shape, o) ← eval m calls o value
    return (shape, o.bind name shape)
  | .call name arguments _ => do
    let (shapes, o) ← evalAll m calls o arguments
    if (Builtin.ofName? name).isSome then
      if ∀ shape ∈ shapes, shape = .number then return (.number, o) else none
    else
      let f ← Table.get? o.functions (Text.fold name)
      if f.parameters.length = shapes.length then
        match calls with
        | 0 => none
        | calls + 1 =>
          let (shape, o) ← eval m calls (o.enter f shapes) f.body
          return (shape, o.leave)
      else none
termination_by (calls, sizeOf n)

/-- The shapes of several nodes, from left to right. -/
def evalAll (m : Memory) (calls : Nat) (o : Outline) (ns : List Node) :
    Option (List Shape × Outline) :=
  match ns with
  | [] => some ([], o)
  | n :: rest => do
    let (shape, o) ← eval m calls o n
    let (shapes, o) ← evalAll m calls o rest
    return (shape :: shapes, o)
termination_by (calls, sizeOf ns)

end

end Outline

namespace Session

/-- The shapes of bound values. -/
def shapes (m : Memory) (b : Bindings) : Table Shape := Table.mapValues (·.value.shape m) b

/-- The outline of a session, by what a memory reports. -/
def outline (m : Memory) (s : Session) : Outline where
  globals := shapes m s.context.globals
  current := s.context.current.map fun frame => shapes m frame.bindings
  suspended := s.context.suspended.map (·.map fun frame => shapes m frame.bindings)
  functions := s.functions
  catalog := s.catalog.withMemory .empty

variable (m : Memory) (s : Session)

theorem get?_shapes (b : Bindings) (name : String) :
    Table.get? (shapes m b) (Text.fold name) = (b.value? name).map (Value.shape m) := by
  unfold shapes Bindings.value?
  rw [Table.get?_mapValues, Option.map_map]
  rfl

theorem shapes_bind (b : Bindings) (name : String) (v : Value) :
    shapes m (b.bind name v) = Table.insert (shapes m b) (Text.fold name) (v.shape m) :=
  Table.mapValues_insert ..

theorem outline_get? (name : String) :
    (s.outline m).get? name = (s.context.get? name).map (Value.shape m) := by
  unfold Outline.get? Context.get? outline
  simp only
  rcases s.context.current with _ | frame
  · exact get?_shapes ..
  · simp only [Option.map_some, get?_shapes]
    cases frame.bindings.value? name <;> rfl

theorem outline_bind (name : String) (v : Value) :
    (s.bind name v).outline m = (s.outline m).bind name (v.shape m) := by
  unfold bind Context.set Outline.bind outline
  rcases hcurrent : s.context.current with _ | frame
  · simp only [Option.map_none, shapes_bind]
  · simp only [Option.map_some, shapes_bind]

theorem outline_bindAll (bindings : List (String × Value)) : ∀ s : Session,
    (s.bindAll bindings).outline m =
      (s.outline m).bindAll (bindings.map fun (name, v) => (name, v.shape m)) := by
  induction bindings with
  | nil => exact fun s => rfl
  | cons b rest ih =>
    intro s
    rw [bindAll, ih, outline_bind]
    rfl

theorem outline_enter (f : UserFunction) (arguments : List Value) :
    (s.enter f arguments).outline m = (s.outline m).enter f (arguments.map (Value.shape m)) := by
  unfold enter Outline.enter
  rw [outline_bindAll, List.zip_map_right]
  rfl

theorem outline_leave : s.leave.outline m = (s.outline m).leave := by
  obtain ⟨⟨globals, current, suspended, depth⟩, functions, catalog⟩ := s
  cases suspended with
  | nil => rfl
  | cons frame rest => rfl

variable {m s} {s' : Session} {v : Value}

theorem outline_literal {x : Float} {unit : Option String} (h : s.literal x unit = (.ok v, s')) :
    (s.outline m).literal m unit = some (v.shape m, s'.outline m) := by
  unfold Outline.literal
  cases unit with
  | none => cases h; rfl
  | some text =>
    simp only
    by_cases hblank : Text.isBlankText text = true
    · rw [literal, if_pos hblank] at h
      cases h
      exact if_pos hblank
    · rw [literal_eq_of_text s x hblank] at h
      rw [if_neg hblank]
      -- what is known about products plays no part in looking up a unit
      have hresolve : (s.outline m).catalog.resolve text = _ :=
        s.catalog.resolve_withMemory .empty text
      rw [hresolve]
      rcases hunits : s.catalog.resolve text with ⟨e | units, c⟩
      · rw [hunits] at h
        cases h
      · rw [hunits] at h
        cases h
        rfl

theorem outline_define {name : String} {parameters : List String} {body : Node}
    (h : s.define name parameters body = (.ok v, s')) :
    (s.outline m).define name parameters body = some (v.shape m, s'.outline m) := by
  unfold define at h
  unfold Outline.define
  split at h
  · cases h
  · rename_i hduplicates
    cases h
    rw [if_neg hduplicates]
    rfl

end Session

end Reckon
