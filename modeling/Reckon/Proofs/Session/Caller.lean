import Reckon.Proofs.Session.Depth

/-!
# Calls change no variables

What a function binds goes to the frame of its call, and so does what the functions bind that it
calls: an evaluation in a call leaves the variables of the session and all suspended frames alone
(`Evaluates.confined`). So nothing that a function does reaches the variables of its caller or of the
session (`call_keeps_variables`).
-/

namespace Reckon

/-- Whether a node is an assignment. -/
def Node.isAssignment : Node → Bool
  | assignment .. => true
  | _ => false

/-- No part of the node is an assignment. -/
def Node.AssignsNothing (n : Node) : Prop := ∀ m ∈ n.parts, m.isAssignment = false

theorem Node.AssignsNothing.child {n k : Node} (hn : n.AssignsNothing) (hk : k ∈ n.children) :
    k.AssignsNothing :=
  fun m hm => hn m (parts_subset_of_mem_children hk hm)

theorem Node.not_assignsNothing (name : String) (value : Node) (span : Span) :
    ¬(assignment name value span).AssignsNothing :=
  fun h => nomatch h _ List.mem_cons_self

namespace Session

/-! ### In a call -/

/-- If a call is entered, nothing is bound outside of its frame. -/
structure Confined (s s' : Session) : Prop where
  suspended : s'.context.suspended = s.context.suspended
  globals : s.context.current.isSome = true →
    s'.context.globals = s.context.globals ∧ s'.context.current.isSome = true

theorem confined_of_context {s s' : Session} (h : s'.context = s.context) : Confined s s' := by
  refine ⟨?_, ?_⟩ <;> rw [h]
  exact fun hs => ⟨rfl, hs⟩

theorem Confined.trans {s s' s'' : Session} (h : Confined s s') (h' : Confined s' s'') :
    Confined s s'' where
  suspended := h'.suspended.trans h.suspended
  globals hs := by
    obtain ⟨hglobals, hs'⟩ := h.globals hs
    obtain ⟨hglobals', hs''⟩ := h'.globals hs'
    exact ⟨hglobals'.trans hglobals, hs''⟩

theorem confined_bind (s : Session) (name : String) (v : Value) : Confined s (s.bind name v) := by
  refine ⟨suspended_bind s name v, fun hs => ?_⟩
  obtain ⟨frame, hframe⟩ := Option.isSome_iff_exists.mp hs
  unfold bind Context.set
  rw [hframe]
  exact ⟨rfl, rfl⟩

theorem context_define {s s' : Session} {name : String} {parameters : List String} {body : Node}
    {o : Except Failure Value} (h : s.define name parameters body = (o, s')) :
    s'.context = s.context := by
  unfold define at h
  split at h <;> cases h <;> rfl

/-- A call that is left leaves its caller in the frame in which it was made, with the variables of the
session as they were. -/
theorem Confined.context_leave {s s' : Session} {f : UserFunction} {arguments : List Value}
    (h : Confined (s.enter f arguments) s') :
    s'.leave.context = { s.context with depth := s'.context.depth - 1 } := by
  rw [Session.context_leave h.suspended]
  obtain ⟨frame, henter⟩ := s.enter_eq f arguments
  have hglobals := (h.globals (by rw [henter]; rfl)).1
  rw [henter] at hglobals
  show Context.mk s'.context.globals _ _ _ = Context.mk s.context.globals _ _ _
  rw [hglobals]

theorem Confined.leave {s s' : Session} {f : UserFunction} {arguments : List Value}
    (h : Confined (s.enter f arguments) s') : Confined s s'.leave where
  suspended := by rw [h.context_leave]
  globals hs := by rw [h.context_leave]; exact ⟨rfl, hs⟩

theorem confined_guarantee : Guarantee (fun _ => True) (fun _ => True) (fun _ => True) Confined
    Confined where
  refl _ := confined_of_context rfl
  trans := .trans
  literal _ _ h := confined_of_context (sameBindings_of_literal h).1
  define _ _ h := confined_of_context (context_define h)
  bind _ _ _ := confined_bind _ _ _
  operate _ _ _ h := confined_of_context (sameBindings_of_operate h).1
  leave _ _ h := h.leave
  begin _ := ⟨rfl, fun _ => ⟨rfl, rfl⟩⟩
  after := .trans
  abandon _ _ h := h.leave

/-- **In a call, nothing is bound outside of its frame**, however the evaluation ends. -/
theorem Evaluates.confined {calls : Nat} {room : Room} {s s' : Session} {n : Node}
    {o : Except Failure Value} (h : Evaluates calls room s n o s') : Confined s s' :=
  (h.guarantee confined_guarantee trivial trivial).1

/-! ### Around calls -/

/-- The evaluation of the node leaves all variables as they are; if the entry of a call fails, that
call stays open. -/
def KeepsContext (calls : Nat) {α : Type} (o : Except Failure α) (s s' : Session) : Prop :=
  Leads (fun s s' => s'.context = s.context) (fun s s' => s.context.Stuck s'.context) calls o s s'

theorem KeepsContext.prepend {calls : Nat} {α : Type} {o : Except Failure α} {s s' s'' : Session}
    (h : s'.context = s.context) (h' : KeepsContext calls o s' s'') : KeepsContext calls o s s'' := by
  refine h'.imp (·.trans h) fun ⟨hcalls, ho, hstuck⟩ => ⟨hcalls, ho, ?_⟩
  show s.context.Stuck s''.context
  rw [← h]
  exact hstuck

theorem Evaluates.keepsCaller {calls : Nat} {room : Room} {s s' : Session} {f : UserFunction}
    {vs : List Value} {o : Except Failure Value}
    (h : Evaluates calls room (s.enter f vs) f.body o s') : KeepsContext (calls + 1) o s s'.leave := by
  have hleave := h.confined.context_leave
  refine h.calls.imp (fun hsame => ?_) fun ⟨_, ho, hmore⟩ => ⟨Nat.succ_ne_zero _, ho, ?_⟩
  · have hdepth := hsame.depth
    rw [depth_enter] at hdepth
    show s'.leave.context = s.context
    rw [hleave, hdepth, Int.add_sub_cancel]
  · have hdepth := hmore.depth
    rw [depth_enter] at hdepth
    show s.context.Stuck s'.leave.context
    rw [hleave, hdepth, Int.add_sub_cancel]
    exact ⟨rfl, rfl, rfl, .inl rfl⟩

mutual

/-- **Without assignments, no variable changes**, whatever the functions bind that are called. -/
theorem Evaluates.keepsContext : ∀ {calls : Nat} {room : Room} {s s' : Session} {n : Node}
    {o : Except Failure Value}, Evaluates calls room s n o s' → n.AssignsNothing →
    KeepsContext calls o s s'
  | _, _, _, _, _, _, .tooDeep _ | _, _, _, _, _, _, .reference _ | _, _, _, _, _, _, .comment _
  | _, _, _, _, _, _, .unknown _ => fun _ => .inl rfl
  | _, _, _, _, _, _, .number _ h => fun _ => .inl (sameBindings_of_literal h).1
  | _, _, _, _, _, _, .definition _ h => fun _ => .inl (context_define h)
  | _, _, _, _, _, _, .assignment .. | _, _, _, _, _, _, .assignmentFails .. => fun hn =>
    (Node.not_assignsNothing _ _ _ hn).elim
  | _, _, _, _, _, _, .unaryFails _ h => fun hn => h.keepsContext (hn.child (by simp [Node.children]))
  | _, _, _, _, _, _, .unary _ h => fun hn =>
    .inl (h.keepsContext (hn.child (by simp [Node.children]))).of_ok
  | _, _, _, _, _, _, .leftFails _ h => fun hn => h.keepsContext (hn.child (by simp [Node.children]))
  | _, _, _, _, _, _, .rightFails _ hl hr => fun hn =>
    .prepend (hl.keepsContext (hn.child (by simp [Node.children]))).of_ok
      (hr.keepsContext (hn.child (by simp [Node.children])))
  | _, _, _, _, _, _, .binary _ hl hr h => fun hn => by
    have hleft := (hl.keepsContext (hn.child (by simp [Node.children]))).of_ok
    have hright := (hr.keepsContext (hn.child (by simp [Node.children]))).of_ok
    exact .inl (((sameBindings_of_operate h).1.trans hright).trans hleft)
  | _, _, _, _, _, _, .argumentFails _ h => fun hn =>
    Leads.of_error (h.keepsContext fun _ hk => hn.child hk)
  | _, _, _, _, _, _, .builtin _ h _ | _, _, _, _, _, _, .undefinedFunction _ h _ _
  | _, _, _, _, _, _, .argumentCount _ h _ _ _ | _, _, _, _, _, _, .callDepth _ h _ _ _ => fun hn =>
    .inl (h.keepsContext fun _ hk => hn.child hk).of_ok
  | _, _, _, _, _, _, .entryFails _ h _ _ _ _ => fun hn =>
    .prepend (h.keepsContext fun _ hk => hn.child hk).of_ok
      (.inr ⟨Nat.succ_ne_zero _, rfl, Context.stuck_begin ..⟩)
  | _, _, _, _, _, _, .call _ h _ _ _ _ hbody => fun hn =>
    .prepend (h.keepsContext fun _ hk => hn.child hk).of_ok hbody.keepsCaller

theorem EvaluatesAll.keepsContext : ∀ {calls : Nat} {room : Room} {s s' : Session}
    {ns : List Node} {o : Except Failure (List Value)}, EvaluatesAll calls room s ns o s' →
    (∀ n ∈ ns, n.AssignsNothing) → KeepsContext calls o s s'
  | _, _, _, _, _, _, .nil => fun _ => .inl rfl
  | _, _, _, _, _, _, .headFails h => fun hns =>
    Leads.of_error (h.keepsContext (List.forall_mem_cons.mp hns).1)
  | _, _, _, _, _, _, .tailFails h hrest => fun hns => by
    obtain ⟨hn, hns⟩ := List.forall_mem_cons.mp hns
    exact .prepend (h.keepsContext hn).of_ok (hrest.keepsContext hns)
  | _, _, _, _, _, _, .cons h hrest => fun hns => by
    obtain ⟨hn, hns⟩ := List.forall_mem_cons.mp hns
    exact .inl ((hrest.keepsContext hns).of_ok.trans (h.keepsContext hn).of_ok)

end

/-- **A call changes no variables**, neither those of the session nor those of the frame that the
call stands in, nor those of any open call. If no argument has an assignment in it, then whatever the
body binds and whichever functions it calls, and whether the call has a value, fails or aborts, the
context is the one from before. Only if a call could not be entered for the depth of nesting, it is
the one from before with that call counted, or begun, which makes an empty frame current and changes
none. -/
theorem call_keeps_variables (s : Session) (limits : Limits) (name : String) {arguments : List Node}
    (span : Span) (harguments : ∀ n ∈ arguments, ∀ m ∈ n.parts, m.isAssignment = false) :
    let r := s.evaluate limits (.call name arguments span)
    r.2.context.globals = s.context.globals ∧
      (r.2.context = s.context ∨ r.1 = .ok (.ofError .nesting) ∧
        (r.2.context = { s.context with depth := s.context.depth + 1 } ∨
          ∃ f, r.2.context = s.context.begin f)) := by
  have hcall : (Node.call name arguments span).AssignsNothing := by
    intro m hm
    rcases List.mem_cons.mp hm with rfl | hm
    · rfl
    · obtain ⟨n, hn, hm⟩ := Node.mem_partsAll.mp hm
      exact harguments n hn m hm
  intro r
  obtain ⟨o, heval, -⟩ := exists_evaluates (rfl : s.evaluate limits (.call name arguments span) = r)
  rcases heval.keepsContext hcall with hsame | ⟨-, rfl, hstuck⟩
  · exact ⟨congrArg (·.globals) hsame, .inl hsame⟩
  · have hnesting : (s.evaluate limits (.call name arguments span)).1 = .ok (.ofError .nesting) := by
      unfold evaluate
      rw [heval.eval_eq]
    exact ⟨hstuck.globals, .inr ⟨hnesting, hstuck.eq_or_begin⟩⟩

/-- In a call of `g(x)`, `f(2)` binds `x` and then fails. The variables `x` of the session and of the
call keep their values. -/
theorem call_keeps_variables_of_assigning :
    let f : UserFunction := ⟨"f", ["y"], .binary
      (.assignment "x" (.reference "y" .nowhere) .nowhere) "+" (.reference "z" .nowhere) .nowhere⟩
    let call : Node := .call "f" [.number 2 none .nowhere] .nowhere
    let s : Session := ({ (fresh .standard).bind "x" (.number 1) with
      functions := [("f", f)] } : Session).enter ⟨"g", ["x"], call⟩ [.number 5]
    (∀ n ∈ [Node.number 2 none .nowhere], ∀ m ∈ n.parts, m.isAssignment = false) ∧
      (s.evaluate .standard call).1 = .ok (.ofError (.undefinedVariable "z")) ∧
      (s.evaluate .standard call).2.context = s.context := by
  intro f call s
  have harguments : ∀ n ∈ [Node.number 2 none .nowhere], ∀ m ∈ n.parts, m.isAssignment = false := by
    simp [Node.parts, Node.isAssignment]
  have hbuiltin : Builtin.ofName? "f" = none := by decide
  have hcall : Evaluates (s.callsLeft .standard) Limits.standard.nesting s call
      (.error (.error (.undefinedVariable "z"))) _ :=
    .call rfl (.cons (.number rfl rfl) .nil) hbuiltin rfl rfl rfl
      (.rightFails rfl (.assignment rfl (.reference rfl)) (.reference rfl))
  have hfails : (s.evaluate .standard call).1 = .ok (.ofError (.undefinedVariable "z")) := by
    unfold evaluate
    rw [hcall.eval_eq]
  refine ⟨harguments, hfails,
    (call_keeps_variables s .standard "f" .nowhere harguments).2.resolve_right ?_⟩
  rintro ⟨hnesting, -⟩
  have hsame := hfails.symm.trans hnesting
  obtain ⟨_, hundefined⟩ := Result.ofError_eq (.undefinedVariable "z")
  obtain ⟨_, hdeep⟩ := Result.ofError_eq .nesting
  rw [hundefined, hdeep] at hsame
  cases hsame

end Session

end Reckon
