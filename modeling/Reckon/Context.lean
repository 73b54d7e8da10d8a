import Reckon.Table
import Reckon.Text.Fold
import Reckon.Value

/-!
# Variables and frames

The global frame lives as long as the session. Every call of a user function has a frame of its
own, in which the names that it lacks are looked up in the global frame, never in the frame of the
caller. Names are compared without regard to case; the spelling of the last binding is kept.
-/

namespace Reckon

/-- A bound name. -/
structure Binding where
  /-- The name as it was last written. -/
  name : String
  /-- The value. -/
  value : Value

/-- Bindings by the folded names. -/
abbrev Bindings := Table Binding

/-- The value of a name. -/
def Bindings.value? (b : Bindings) (name : String) : Option Value :=
  (Table.get? b (Text.fold name)).map (·.value)

/-- Binds a name. -/
def Bindings.bind (b : Bindings) (name : String) (value : Value) : Bindings :=
  Table.insert b (Text.fold name) ⟨name, value⟩

/-- The variables of a function call. -/
structure Frame where
  /-- The name of the function. -/
  name : String
  /-- The parameters and what has been bound besides. -/
  bindings : Bindings

/-- The frames of a session. -/
structure Context where
  /-- The variables of the session. -/
  globals : Bindings
  /-- The frame of the running call; `none` stands for the global one. -/
  current : Option Frame
  /-- The frames that were current when the open calls were entered, the last one first. -/
  suspended : List (Option Frame)
  /-- The calls that were begun minus those that were left since the last reset. -/
  depth : Int

namespace Context

/-- No variables, and no call. -/
def empty : Context := ⟨[], none, [], 0⟩

/-- The value of a variable, in the current frame or else in the global one. -/
def get? (c : Context) (name : String) : Option Value :=
  match c.current with
  | none => c.globals.value? name
  | some frame => (frame.bindings.value? name).or (c.globals.value? name)

/-- Binds a variable in the current frame. -/
def set (c : Context) (name : String) (value : Value) : Context :=
  match c.current with
  | none => { c with globals := c.globals.bind name value }
  | some frame =>
    { c with current := some { frame with bindings := frame.bindings.bind name value } }

/-- Makes an empty frame current and counts a call, without keeping the frame to return to. -/
def begin (c : Context) (name : String) : Context :=
  { c with current := some ⟨name, []⟩, depth := c.depth + 1 }

/-- Enters a call with an empty frame. -/
def enter (c : Context) (name : String) : Context :=
  { c with
    current := some ⟨name, []⟩
    suspended := c.current :: c.suspended
    depth := c.depth + 1 }

/-- Leaves the innermost open call. -/
def leave (c : Context) : Context :=
  match c.suspended with
  | [] => c
  | frame :: rest => { c with current := frame, suspended := rest, depth := c.depth - 1 }

/-- Forgets all variables and returns to the global frame. Calls that are open stay open. -/
def reset (c : Context) : Context := { c with globals := [], current := none, depth := 0 }

/-- The name of the current frame. -/
def scopeName (c : Context) : String :=
  match c.current with
  | none => "global"
  | some frame => frame.name

/-- Whether the global frame is current. -/
def isGlobal (c : Context) : Bool := c.current.isNone

/-- The bindings of the current frame in order. -/
def items (c : Context) : List Binding :=
  match c.current with
  | none => Table.values c.globals
  | some frame => Table.values frame.bindings

end Context

end Reckon
