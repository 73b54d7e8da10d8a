import Reckon.Proofs.Session.Dependence
import Reckon.Proofs.Session.History

/-!
# What outlasts an evaluation

An evaluation binds names and stores functions, perhaps in the midst of a node that is made by hand,
perhaps in the bodies of functions. What is bound in a call is lost when the call is left. What is
bound in the current frame stays, and so do functions, wherever they are defined; and if the entry of
a call fails, its frame stays. `deeds` lists all that stays, in the order in which it is done. Doing
it again in the session as it was before gives the bindings and functions of the session as it is
afterwards (`Evaluates.redo`).
-/

namespace Reckon

/-- Something that outlasts the evaluation in which it is done. -/
inductive Deed where
  /-- A name is bound in the current frame. -/
  | bind (name : String) (value : Value)
  /-- A function is stored. Its parameters have different names. -/
  | define (f : UserFunction) (distinct : (f.parameters.map Text.fold).Nodup)
  /-- A call is begun that is not left. -/
  | begin (f : UserFunction)

/-- Whether a function is stored. -/
def Deed.isDefinition : Deed → Bool
  | bind .. | begin _ => false
  | define .. => true

namespace Session

theorem nodup_of_not_hasDuplicates {parameters : List String}
    (h : ¬hasDuplicates parameters = true) : (parameters.map Text.fold).Nodup :=
  Decidable.of_not_not fun hnodup => h (decide_eq_true hnodup)

/-- Stores a function. -/
def store (s : Session) (f : UserFunction) : Session :=
  { s with functions := Table.insert s.functions (Text.fold f.name) f }

/-- Does something again. -/
def redo (s : Session) : Deed → Session
  | .bind name value => s.bind name value
  | .define f _ => s.store f
  | .begin f => s.begin f

/-- Does several things again, in order. -/
def redoAll (s : Session) (deeds : List Deed) : Session := deeds.foldl redo s

mutual

/-- What is done in the evaluation of a node and outlasts it. -/
def deeds (calls : Nat) (room : Room) (s : Session) (n : Node) : List Deed :=
  match room.deeper with
  | none => []
  | some room =>
    match n with
    | .number .. | .reference .. | .comment .. | .unknown _ => []
    | .definition name parameters body _ =>
      if h : hasDuplicates parameters then []
      else [.define ⟨name, parameters, body⟩ (nodup_of_not_hasDuplicates h)]
    | .unary _ operand _ => deeds calls room s operand
    | .binary left _ right _ =>
      deeds calls room s left ++
        match eval calls room s left with
        | (.error _, _) => []
        | (.ok _, s) => deeds calls room s right
    | .assignment name value _ =>
      deeds calls room s value ++
        match eval calls room s value with
        | (.error _, _) => []
        | (.ok v, _) => [.bind name v]
    | .call name arguments _ =>
      deedsAll calls room s arguments ++
        match evalAll calls room s arguments with
        | (.error _, _) => []
        | (.ok values, s) =>
          match s.callee? name with
          | none => []
          | some f =>
            if f.parameters.length ≠ values.length then []
            else
              match calls with
              | 0 => []
              | calls + 1 =>
                -- what the body binds goes to the frame of the call
                if room.admits s.context.depth then
                  (deeds calls room (s.enter f values) f.body).filter Deed.isDefinition
                else [.begin f]
termination_by (calls, sizeOf n)

/-- The same for several nodes that are evaluated from left to right. -/
def deedsAll (calls : Nat) (room : Room) (s : Session) (ns : List Node) : List Deed :=
  match ns with
  | [] => []
  | n :: rest =>
    deeds calls room s n ++
      match eval calls room s n with
      | (.error _, _) => []
      | (.ok _, s) => deedsAll calls room s rest
termination_by (calls, sizeOf ns)

end

/-! ### Doing things again -/

/-- The sessions have the same variables, frames and functions. They may count different numbers of
calls as open. -/
structure SameFrames (s s' : Session) : Prop where
  globals : s'.context.globals = s.context.globals
  current : s'.context.current = s.context.current
  suspended : s'.context.suspended = s.context.suspended
  functions : s'.functions = s.functions

theorem SameFrames.refl (s : Session) : SameFrames s s := ⟨rfl, rfl, rfl, rfl⟩

theorem SameBindings.sameFrames {s s' : Session} (h : SameBindings s s') : SameFrames s s' := by
  refine ⟨?_, ?_, ?_, h.2⟩ <;> rw [h.1]

section Redo

variable {s s' t : Session} {deeds : List Deed}

theorem SameFrames.trans (h : SameFrames s s') (h' : SameFrames s' t) : SameFrames s t where
  globals := h'.globals.trans h.globals
  current := h'.current.trans h.current
  suspended := h'.suspended.trans h.suspended
  functions := h'.functions.trans h.functions

theorem SameFrames.leave (h : SameFrames s t) : SameFrames s.leave t.leave := by
  unfold Session.leave Context.leave
  rw [h.suspended]
  cases s.context.suspended with
  | nil => exact h
  | cons frame rest => exact ⟨h.globals, rfl, rfl, h.functions⟩

theorem redoAll_append (s : Session) (deeds later : List Deed) :
    s.redoAll (deeds ++ later) = (s.redoAll deeds).redoAll later := List.foldl_append

theorem SameFrames.redo (h : SameFrames s t) (d : Deed) : SameFrames (s.redo d) (t.redo d) := by
  cases d with
  | bind name value =>
    unfold Session.redo bind Context.set
    simp only [h.current]
    cases s.context.current with
    | none => exact ⟨congrArg (·.bind name value) h.globals, rfl, h.suspended, h.functions⟩
    | some frame => exact ⟨h.globals, rfl, h.suspended, h.functions⟩
  | define f =>
    exact ⟨h.globals, h.current, h.suspended,
      congrArg (Table.insert · (Text.fold f.name) f) h.functions⟩
  | begin f => exact ⟨h.globals, rfl, h.suspended, h.functions⟩

theorem SameFrames.redoAll (h : SameFrames s t) (deeds : List Deed) :
    SameFrames (s.redoAll deeds) (t.redoAll deeds) := by
  induction deeds generalizing s t with
  | nil => exact h
  | cons d rest ih => exact ih (h.redo d)

/-- What is done after something else is done again after it. -/
theorem SameFrames.redoAll_append {later : List Deed} (h : SameFrames (s.redoAll deeds) s')
    (h' : SameFrames (s'.redoAll later) t) : SameFrames (s.redoAll (deeds ++ later)) t := by
  rw [Session.redoAll_append]
  exact (h.redoAll later).trans h'

theorem sameFrames_define {name : String} {parameters : List String} {body : Node}
    {o : Except Failure Value} (h : s.define name parameters body = (o, s')) :
    SameFrames (s.redoAll (if h : hasDuplicates parameters then []
      else [.define ⟨name, parameters, body⟩ (nodup_of_not_hasDuplicates h)])) s' := by
  unfold define at h
  split at h
  · rename_i hduplicates
    rw [dif_pos hduplicates]
    cases h
    exact .refl s
  · rename_i hduplicates
    rw [dif_neg hduplicates]
    cases h
    exact ⟨rfl, rfl, rfl, rfl⟩

/-- Once a call is left, of what has been done in it only the functions remain. -/
theorem sameFrames_leave_redoAll {caller : Option Frame} {outer : List (Option Frame)}
    (hcurrent : t.context.current.isSome = true) (hsuspended : t.context.suspended = caller :: outer)
    (hleave : SameFrames s t.leave) :
    SameFrames (s.redoAll (deeds.filter Deed.isDefinition)) (t.redoAll deeds).leave := by
  induction deeds generalizing s t with
  | nil => exact hleave
  | cons d rest ih =>
    cases d with
    | define f hf =>
      refine ih hcurrent hsuspended ((hleave.redo (.define f hf)).trans ?_)
      unfold Session.redo store leave Context.leave
      rw [hsuspended]
      exact .refl _
    | bind name value =>
      -- the name goes with the frame
      obtain ⟨frame, hframe⟩ := Option.isSome_iff_exists.mp hcurrent
      refine ih ?_ ((suspended_bind t name value).trans hsuspended) (hleave.trans ?_)
      · show (t.bind name value).context.current.isSome = true
        unfold bind Context.set
        rw [hframe]
        rfl
      · unfold Session.redo bind leave Context.set Context.leave
        rw [hframe, hsuspended]
        exact .refl _
    | begin f =>
      -- so does the frame of another call
      refine ih rfl hsuspended (hleave.trans ?_)
      unfold Session.redo Session.begin Context.begin leave Context.leave
      rw [hsuspended]
      exact ⟨rfl, rfl, rfl, rfl⟩

theorem SameFrames.leave_redoAll {f : UserFunction} {values : List Value}
    (h : SameFrames ((s.enter f values).redoAll deeds) t) :
    SameFrames (s.redoAll (deeds.filter Deed.isDefinition)) t.leave := by
  have hleave : SameBindings s (s.enter f values).leave := (SameBindings.refl _).leave
  obtain ⟨frame, henter⟩ := s.enter_eq f values
  refine SameFrames.trans ?_ h.leave
  exact sameFrames_leave_redoAll (by rw [henter]; rfl) (by rw [henter]) hleave.sameFrames

end Redo

/-! ### Whole evaluations -/

mutual

/-- **Doing again what outlasts an evaluation gives the bindings and functions after it.** -/
theorem Evaluates.redo : ∀ {calls : Nat} {room : Room} {s s' : Session} {n : Node}
    {o : Except Failure Value}, Evaluates calls room s n o s' →
    SameFrames (s.redoAll (deeds calls room s n)) s'
  | _, _, s, _, _, _, .tooDeep hroom => by
    rw [deeds.eq_def, hroom]
    exact .refl s
  | _, _, s, _, _, _, .reference hroom | _, _, s, _, _, _, .comment hroom
  | _, _, s, _, _, _, .unknown hroom => by
    rw [deeds.eq_def, hroom]
    exact .refl s
  | _, _, _, _, _, _, .number hroom h => by
    rw [deeds.eq_def, hroom]
    exact (sameBindings_of_literal h).sameFrames
  | _, _, _, _, _, _, .definition hroom h => by
    rw [deeds.eq_def, hroom]
    exact sameFrames_define h
  | _, _, _, _, _, _, .unaryFails hroom h | _, _, _, _, _, _, .unary hroom h => by
    rw [deeds.eq_def, hroom]
    exact h.redo
  | _, _, _, _, _, _, .leftFails hroom h => by
    rw [deeds.eq_def, hroom]
    simp only [h.eval_eq, List.append_nil]
    exact h.redo
  | _, _, _, _, _, _, .rightFails hroom hl hr => by
    rw [deeds.eq_def, hroom]
    simp only [hl.eval_eq]
    exact hl.redo.redoAll_append hr.redo
  | _, _, _, _, _, _, .binary hroom hl hr h => by
    rw [deeds.eq_def, hroom]
    simp only [hl.eval_eq]
    exact (hl.redo.redoAll_append hr.redo).trans (sameBindings_of_operate h).sameFrames
  | _, _, _, _, _, _, .assignmentFails hroom h => by
    rw [deeds.eq_def, hroom]
    simp only [h.eval_eq, List.append_nil]
    exact h.redo
  | _, _, _, _, _, _, .assignment hroom h => by
    rw [deeds.eq_def, hroom]
    simp only [h.eval_eq]
    exact h.redo.redoAll_append (.refl _)
  | _, _, _, _, _, _, .argumentFails hroom h => by
    rw [deeds.eq_def, hroom]
    simp only [h.evalAll_eq, List.append_nil]
    exact h.redo
  | _, _, _, _, _, _, .builtin hroom h hf => by
    rw [deeds.eq_def, hroom]
    simp only [h.evalAll_eq, callee?, hf, List.append_nil]
    exact h.redo
  | _, _, _, _, _, _, .undefinedFunction hroom h hbuiltin hf => by
    rw [deeds.eq_def, hroom]
    simp only [h.evalAll_eq, callee?, hbuiltin, hf, List.append_nil]
    exact h.redo
  | _, _, _, _, _, _, .argumentCount hroom h hbuiltin hf hcount => by
    rw [deeds.eq_def, hroom]
    simp only [h.evalAll_eq, callee?, hbuiltin, hf, if_pos hcount, List.append_nil]
    exact h.redo
  | _, _, _, _, _, _, .callDepth hroom h hbuiltin hf hcount => by
    rw [deeds.eq_def, hroom]
    simp only [h.evalAll_eq, callee?, hbuiltin, hf, hcount, ne_eq, not_true, if_false,
      List.append_nil]
    exact h.redo
  | _, _, _, _, _, _, .entryFails hroom h hbuiltin hf hcount hadmits => by
    rw [deeds.eq_def, hroom]
    simp only [h.evalAll_eq, callee?, hbuiltin, hf, hcount, ne_eq, not_true, if_false, hadmits,
      reduceCtorEq]
    exact h.redo.redoAll_append (.refl _)
  | _, _, _, _, _, _, .call hroom h hbuiltin hf hcount hadmits hbody => by
    rw [deeds.eq_def, hroom]
    -- what the body binds is gone with its frame, so only its definitions are done again
    simp only [h.evalAll_eq, callee?, hbuiltin, hf, hcount, ne_eq, not_true, if_false, hadmits,
      if_true]
    exact h.redo.redoAll_append hbody.redo.leave_redoAll

theorem EvaluatesAll.redo : ∀ {calls : Nat} {room : Room} {s s' : Session} {ns : List Node}
    {o : Except Failure (List Value)}, EvaluatesAll calls room s ns o s' →
    SameFrames (s.redoAll (deedsAll calls room s ns)) s'
  | _, _, s, _, _, _, .nil => by
    rw [deedsAll.eq_def]
    exact .refl s
  | _, _, _, _, _, _, .headFails h => by
    rw [deedsAll.eq_def]
    simp only [h.eval_eq, List.append_nil]
    exact h.redo
  | _, _, _, _, _, _, .tailFails h hrest | _, _, _, _, _, _, .cons h hrest => by
    rw [deedsAll.eq_def]
    simp only [h.eval_eq]
    exact h.redo.redoAll_append hrest.redo

end

end Session

end Reckon
