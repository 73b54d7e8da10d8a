import Reckon.Session

/-!
# What is bound in frames

A name has the value that was bound to it last (`Bindings.value?_bind`, `Context.get?_set_self`).

A property of bindings holds in the global frame, in the frame of the running call and in the frames
that are suspended, if it holds of no bindings and survives binding. Nothing else brings a frame
about (`Context.Frames`). A relation between the bindings of two contexts survives in the same way
(`Context.Related`).

A call starts in a frame that is made from the function and the arguments alone
(`Session.enter_eq_frame`), and all parameters are bound in it. A call that is begun and does not get
to its body leaves a context `Stuck`.
-/

namespace Reckon

theorem Bindings.value?_bind (b : Bindings) (name other : String) (v : Value) :
    (b.bind name v).value? other =
      if Text.fold other = Text.fold name then some v else b.value? other := by
  unfold Bindings.value? Bindings.bind
  rw [Table.get?_insert]
  split <;> rfl

/-- If the bindings of two names are related by their values, so are the values. -/
theorem Bindings.value?_rel {V : Value → Value → Prop} {b c : Bindings} {name name' : String}
    (h : Option.Rel (fun x y : Binding => V x.value y.value) (Table.get? b (Text.fold name))
      (Table.get? c (Text.fold name'))) : Option.Rel V (b.value? name) (c.value? name') := by
  unfold Bindings.value?
  generalize Table.get? b (Text.fold name) = x, Table.get? c (Text.fold name') = y at h
  cases h with
  | some hxy => exact .some hxy
  | none => exact .none

namespace Context

theorem get?_set_self (c : Context) (name : String) (v : Value) :
    (c.set name v).get? name = some v := by
  obtain ⟨globals, current, suspended, depth⟩ := c
  cases current <;> simp [set, get?, Bindings.value?_bind]

@[simp] theorem depth_set (c : Context) (name : String) (v : Value) :
    (c.set name v).depth = c.depth := by
  unfold set
  split <;> rfl

/-- The bindings of all frames have the property. -/
structure Frames (P : Bindings → Prop) (c : Context) : Prop where
  globals : P c.globals
  current : ∀ frame, c.current = some frame → P frame.bindings
  suspended : ∀ frame, some frame ∈ c.suspended → P frame.bindings

namespace Frames

variable {P : Bindings → Prop} {c : Context}

theorem empty (hnil : P []) : Frames P .empty := ⟨hnil, (fun _ h => nomatch h), fun _ h => nomatch h⟩

/-- A value that is found is bound in a frame. -/
theorem get? {R : Value → Prop} {name : String} {v : Value} (hc : Frames P c)
    (hvalue : ∀ b, P b → b.value? name = some v → R v) (h : c.get? name = some v) : R v := by
  unfold Context.get? at h
  split at h
  · exact hvalue _ hc.globals h
  · rename_i frame hframe
    rcases Option.or_eq_some_iff.mp h with h | ⟨-, h⟩
    · exact hvalue _ (hc.current frame hframe) h
    · exact hvalue _ hc.globals h

theorem set {name : String} {v : Value} (hc : Frames P c) (hbind : ∀ b, P b → P (b.bind name v)) :
    Frames P (c.set name v) := by
  unfold Context.set
  split
  · exact ⟨hbind _ hc.globals, hc.current, hc.suspended⟩
  · rename_i frame hframe
    refine ⟨hc.globals, fun frame' h => ?_, hc.suspended⟩
    cases h
    exact hbind _ (hc.current frame hframe)

theorem enter (hc : Frames P c) (hnil : P []) (name : String) : Frames P (c.enter name) := by
  refine ⟨hc.globals, fun frame h => ?_, fun frame h => ?_⟩
  · cases h
    exact hnil
  · rcases List.mem_cons.mp h with h | h
    · exact hc.current frame h.symm
    · exact hc.suspended frame h

theorem begin (hc : Frames P c) (hnil : P []) (name : String) : Frames P (c.begin name) := by
  refine ⟨hc.globals, fun frame h => ?_, hc.suspended⟩
  cases h
  exact hnil

theorem leave (hc : Frames P c) : Frames P c.leave := by
  unfold Context.leave
  split
  · exact hc
  · rename_i frame rest hsuspended
    have hmem : ∀ frame', some frame' ∈ frame :: rest → P frame'.bindings := by
      rw [← hsuspended]
      exact hc.suspended
    refine ⟨hc.globals, fun frame' h => hmem frame' ?_, fun frame' h => hmem frame' ?_⟩
    · rw [← show frame = some frame' from h]
      exact List.mem_cons_self
    · exact List.mem_cons_of_mem _ h

theorem reset (hc : Frames P c) (hnil : P []) : Frames P c.reset :=
  ⟨hnil, (fun _ h => nomatch h), hc.suspended⟩

end Frames

/-- As many calls are open in both contexts, and the bindings of the global frames and of the current
ones are related. -/
structure Related (B : Bindings → Bindings → Prop) (c d : Context) : Prop where
  globals : B c.globals d.globals
  current : Option.Rel (fun f g : Frame => B f.bindings g.bindings) c.current d.current
  depth : c.depth = d.depth

namespace Related

variable {B : Bindings → Bindings → Prop} {c d : Context} {name name' : String}

/-- The name is bound in both of two current frames, or is looked up further in both contexts. -/
theorem get? {V : Value → Value → Prop} (h : Related B c d)
    (hvalue : ∀ b b', B b b' → Option.Rel V (b.value? name) (b'.value? name')) :
    Option.Rel V (c.get? name) (d.get? name') := by
  have hglobals := hvalue _ _ h.globals
  have hcurrent := h.current
  unfold Context.get?
  generalize c.current = f, d.current = g at hcurrent
  cases hcurrent with
  | none => exact hglobals
  | @some f g hframe =>
    have hlocal := hvalue _ _ hframe
    simp only
    generalize f.bindings.value? name = x, g.bindings.value? name' = y at hlocal
    cases hlocal with
    | some hvw => exact .some hvw
    | none => exact hglobals

theorem set {v w : Value} (h : Related B c d)
    (hbind : ∀ b b', B b b' → B (b.bind name v) (b'.bind name' w)) :
    Related B (c.set name v) (d.set name' w) := by
  have hcurrent := h.current
  obtain ⟨hglobals, -, hdepth⟩ := h
  unfold Context.set
  generalize c.current = f, d.current = g at hcurrent
  cases hcurrent with
  | none => exact ⟨hbind _ _ hglobals, .none, hdepth⟩
  | some hframe => exact ⟨hglobals, .some (hbind _ _ hframe), hdepth⟩

theorem enter (h : Related B c d) (hnil : B [] []) : Related B (c.enter name) (d.enter name') where
  globals := h.globals
  current := .some hnil
  depth := congrArg (· + 1) h.depth

theorem begin (h : Related B c d) (hnil : B [] []) : Related B (c.begin name) (d.begin name') where
  globals := h.globals
  current := .some hnil
  depth := congrArg (· + 1) h.depth

end Related

/-- A call has been begun and not been left. The frame that is current is the same one, if another
call has been left since then, or the empty frame of the call. -/
structure Stuck (c d : Context) : Prop where
  globals : d.globals = c.globals
  suspended : d.suspended = c.suspended
  depth : d.depth = c.depth + 1
  current : d.current = c.current ∨ ∃ name, d.current = some ⟨name, []⟩

theorem stuck_begin (c : Context) (name : String) : c.Stuck (c.begin name) :=
  ⟨rfl, rfl, rfl, .inr ⟨name, rfl⟩⟩

/-- The context is the one from before, with one more call counted, or with one begun. -/
theorem Stuck.eq_or_begin {c d : Context} (h : c.Stuck d) :
    d = { c with depth := c.depth + 1 } ∨ ∃ name, d = c.begin name := by
  obtain ⟨globals, current, suspended, depth⟩ := d
  obtain ⟨rfl, rfl, rfl, hcurrent⟩ := h
  rcases hcurrent with rfl | ⟨name, rfl⟩
  · exact .inl rfl
  · exact .inr ⟨name, rfl⟩

end Context

/-! ### The frame of a call -/

/-- Binds names, one after the other. -/
def Bindings.bindAll (b : Bindings) : List (String × Value) → Bindings
  | [] => b
  | (name, value) :: rest => (b.bind name value).bindAll rest

theorem Bindings.isSome_value?_bindAll {bindings : List (String × Value)} {name : String} :
    ∀ {b : Bindings}, (b.value? name).isSome = true ∨
      Text.fold name ∈ bindings.map (fun p => Text.fold p.1) →
      ((b.bindAll bindings).value? name).isSome = true := by
  induction bindings with
  | nil => exact fun h => h.resolve_right List.not_mem_nil
  | cons p rest ih =>
    intro b h
    refine ih ?_
    rw [value?_bind]
    split
    · exact .inl rfl
    · rename_i hne
      exact h.imp_right fun hmem => (List.mem_cons.mp hmem).resolve_left hne

/-- The frame in which the body of a function is evaluated. -/
def UserFunction.frame (f : UserFunction) (arguments : List Value) : Frame :=
  ⟨f.name, Bindings.bindAll [] (f.parameters.zip arguments)⟩

/-- With as many arguments as there are parameters, all parameters are bound. -/
theorem UserFunction.isSome_value?_frame {f : UserFunction} {arguments : List Value}
    (hcount : f.parameters.length = arguments.length) {name : String}
    (hname : Text.fold name ∈ f.parameters.map Text.fold) :
    ((f.frame arguments).bindings.value? name).isSome = true := by
  refine Bindings.isSome_value?_bindAll (.inr ?_)
  show Text.fold name ∈ (f.parameters.zip arguments).map (Text.fold ∘ Prod.fst)
  rw [← List.map_map, List.map_fst_zip (Nat.le_of_eq hcount)]
  exact hname

namespace Session

theorem bindAll_eq_frame (s : Session) {frame : Frame} (hframe : s.context.current = some frame)
    (bindings : List (String × Value)) : s.bindAll bindings = { s with context := { s.context with
      current := some { frame with bindings := frame.bindings.bindAll bindings } } } := by
  induction bindings generalizing s frame with
  | nil => rw [bindAll, Bindings.bindAll, ← hframe]
  | cons b rest ih =>
    have hbind : s.bind b.1 b.2 = { s with context := { s.context with
        current := some { frame with bindings := frame.bindings.bind b.1 b.2 } } } := by
      unfold bind Context.set
      rw [hframe]
    rw [bindAll, ih (s.bind b.1 b.2) (by rw [hbind]), hbind]
    rfl

/-- **A call starts in the frame of its function.** -/
theorem enter_eq_frame (s : Session) (f : UserFunction) (arguments : List Value) :
    s.enter f arguments = { s with context := { s.context with
      current := some (f.frame arguments)
      suspended := s.context.current :: s.context.suspended
      depth := s.context.depth + 1 } } :=
  bindAll_eq_frame { s with context := s.context.enter f.name } rfl _

/-- A call that is left takes with it the frame of a further one that has got stuck in it. -/
theorem stuck_leave {s s' : Session} {f : UserFunction} {arguments : List Value}
    (h : (s.enter f arguments).context.Stuck s'.context) : s.context.Stuck s'.leave.context := by
  rw [enter_eq_frame] at h
  have hleave : s'.leave.context = { s'.context with
      current := s.context.current
      suspended := s.context.suspended
      depth := s'.context.depth - 1 } := by
    unfold leave Context.leave
    rw [h.suspended]
  rw [hleave]
  refine ⟨h.globals, rfl, ?_, .inl rfl⟩
  show s'.context.depth - 1 = s.context.depth + 1
  rw [h.depth]
  exact Int.add_sub_cancel ..

end Session

end Reckon
