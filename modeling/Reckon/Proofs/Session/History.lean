import Reckon.Proofs.Session.Atomic

/-!
# Histories

A session is asked for statements, nodes and documents, it is cleared, and units are looked up in its
catalog. Nodes may be made by hand, so that assignments stand in function bodies and bind in the
frames of calls. Still every call that is entered is left (`Evaluates.suspended_eq`): whatever a
session has gone through, no call is in progress afterwards, and clearing it leaves nothing but the
catalog (`clear_history`).
-/

namespace Reckon

/-- What a session can go through. -/
inductive Step where
  /-- Something is asked of the session. -/
  | request (r : Request)
  /-- The units that a text means are looked up. -/
  | lookup (text : String)

/-- The statements that a step holds. -/
def Step.Holds : Step → Node → Prop
  | .request r, n => r.Holds n
  | .lookup _, _ => False

namespace Session

/-- The session after a step. -/
def perform (limits : Limits) (s : Session) : Step → Session
  | .request r => s.serve limits r
  | .lookup text => { s with catalog := (s.catalog.resolve text).2 }

/-- A session that has gone through the given steps. -/
def history (limits : Limits) (catalog : Catalog) (steps : List Step) : Session :=
  steps.foldl (perform limits) (fresh catalog)

/-- **What a fresh session has and the statements of all steps preserve holds in every history.** -/
theorem Keeps.history {limits : Limits} {Q : Node → Prop} {P : Session → Prop}
    (hP : Keeps limits Q P)
    (hlookup : ∀ {s : Session} (text : String), P s →
      P { s with catalog := (s.catalog.resolve text).2 })
    {catalog : Catalog} (hfresh : P (fresh catalog)) (steps : List Step)
    (hQ : ∀ step ∈ steps, ∀ n, step.Holds n → Q n) : P (history limits catalog steps) := by
  unfold Session.history
  generalize fresh catalog = s at hfresh
  induction steps generalizing s with
  | nil => exact hfresh
  | cons step rest ih =>
    obtain ⟨hstep, hrest⟩ := List.forall_mem_cons.mp hQ
    apply ih hrest
    cases step with
    | request r => exact hP.serve hstep hfresh
    | lookup text => exact hlookup text hfresh

/-- The same where all nodes preserve it. -/
theorem Preserved.history {limits : Limits} {P : Session → Prop}
    (hP : Preserved limits (fun _ => True) P)
    (hlookup : ∀ {s : Session} (text : String), P s →
      P { s with catalog := (s.catalog.resolve text).2 })
    {catalog : Catalog} (hfresh : P (fresh catalog)) (steps : List Step) :
    P (history limits catalog steps) :=
  hP.keeps.history hlookup hfresh steps fun _ _ _ _ => trivial

theorem suspended_bind (s : Session) (name : String) (v : Value) :
    (s.bind name v).context.suspended = s.context.suspended := by
  unfold bind Context.set
  split <;> rfl

theorem suspended_enter (s : Session) (f : UserFunction) (arguments : List Value) :
    (s.enter f arguments).context.suspended = s.context.current :: s.context.suspended := by
  obtain ⟨frame, h⟩ := s.enter_eq f arguments
  rw [h]

theorem suspended_define {s s' : Session} {name : String} {parameters : List String} {body : Node}
    {o : Except Failure Value} (h : s.define name parameters body = (o, s')) :
    s'.context.suspended = s.context.suspended := by
  unfold define at h
  split at h <;> cases h <;> rfl

theorem suspended_leave {s s' : Session} {f : UserFunction} {arguments : List Value}
    (h : s'.context.suspended = (s.enter f arguments).context.suspended) :
    s'.leave.context.suspended = s.context.suspended := by
  have hinner := h.trans (suspended_enter s f arguments)
  unfold Session.leave Context.leave
  rw [hinner]

theorem suspended_guarantee : Guarantee (fun _ => True) (fun _ => True) (fun _ => True)
    (fun s s' => s'.context.suspended = s.context.suspended)
    (fun s s' => s'.context.suspended = s.context.suspended) where
  refl _ := rfl
  trans h h' := h'.trans h
  literal _ _ h := congrArg Context.suspended (sameBindings_of_literal h).1
  define _ _ h := suspended_define h
  bind _ _ _ := suspended_bind _ _ _
  operate _ _ _ h := congrArg Context.suspended (sameBindings_of_operate h).1
  leave _ _ h := suspended_leave h
  begin _ := rfl
  after h h' := h'.trans h
  abandon _ _ h := suspended_leave h

/-- **Every call that is entered is left**, however the evaluation ends. -/
theorem Evaluates.suspended_eq {calls : Nat} {room : Room} {s s' : Session} {n : Node}
    {o : Except Failure Value} (h : Evaluates calls room s n o s') :
    s'.context.suspended = s.context.suspended :=
  (h.guarantee suspended_guarantee trivial trivial).1

/-- No call is in progress. -/
def Idle (s : Session) : Prop := s.context.suspended = []

theorem idle_preserved (limits : Limits) : Preserved limits (fun _ => True) Idle where
  statement := fun _ _ => trivial
  evaluate := by
    intro s n _ hs
    obtain ⟨o, h, -⟩ := exists_evaluates (rfl : s.evaluate limits n = _)
    exact h.suspended_eq.trans hs
  clear := id

theorem Idle.perform {s : Session} (hs : s.Idle) (limits : Limits) (step : Step) :
    (s.perform limits step).Idle := by
  cases step with
  | request r => exact (idle_preserved limits).keeps.serve (fun _ _ => trivial) hs
  | lookup text => exact hs

theorem history_idle (limits : Limits) (catalog : Catalog) (steps : List Step) :
    (history limits catalog steps).Idle :=
  (idle_preserved limits).history (fun _ => id) rfl steps

theorem Idle.clear_eq {s : Session} (h : s.Idle) : s.clear = fresh s.catalog := by
  unfold clear Context.reset
  rw [show s.context.suspended = [] from h]
  rfl

/-- **Clearing a session leaves nothing but its catalog.** -/
theorem clear_history (limits : Limits) (catalog : Catalog) (steps : List Step) :
    (history limits catalog steps).clear = fresh (history limits catalog steps).catalog :=
  (history_idle limits catalog steps).clear_eq

end Session

end Reckon
