import Reckon.Proofs.Session.Depth

/-!
# Evaluation always ends

The calls that may still be opened, which `eval` counts down, are no fuel of its own: they are the
limit less the calls that are open, and when none is left the evaluation has the error that the
limit is there for. `stepWith` says what an evaluation does without any such count. It tests the
open calls of the session against the limit, and leaves further evaluations to an evaluator that it
is given.

* What a step leaves to the evaluator is a smaller node with as many calls open, or the body of a
  function with one more open, below the limit (`stepWith_congr`). So the pair of the calls left and
  the size of the node goes down lexicographically (`Spawns.descends`).
* There is exactly one evaluator that does what `stepWith` says with itself, and `eval` is it
  (`eval_is_only_solution`).
-/

namespace Reckon.Session

/-- A way to evaluate nodes. -/
abbrev Evaluator := Session → Node → Except Failure Value × Session

/-- Evaluates nodes from left to right with an evaluator, up to the first that fails. -/
def eachWith (f : Evaluator) (s : Session) : List Node → Except Failure (List Value) × Session
  | [] => (.ok [], s)
  | n :: rest =>
    match f s n with
    | (.error e, s) => (.error e, s)
    | (.ok v, s) =>
      match eachWith f s rest with
      | (.error e, s) => (.error e, s)
      | (.ok vs, s) => (.ok (v :: vs), s)

/-- What a node comes to if its parts and the bodies of functions are left to an evaluator. A call
is refused if as many calls are open as the limit allows. -/
def stepWith (limit : Int) (f : Evaluator) (s : Session) (n : Node) :
    Except Failure Value × Session :=
  match n with
  | .number x unit _ => s.literal x unit
  | .reference name _ => (s.fetch name, s)
  | .comment _ _ => (.ok (.number 0), s)
  | .unknown form => (.error (.error (.unsupportedNode form)), s)
  | .definition name parameters body _ => s.define name parameters body
  | .unary operator operand _ =>
    match f s operand with
    | (.ok v, s) => (Arithmetic.unary operator v, s)
    | (.error e, s) => (.error e, s)
  | .binary left operator right _ =>
    match f s left with
    | (.error e, s) => (.error e, s)
    | (.ok l, s) =>
      match f s right with
      | (.error e, s) => (.error e, s)
      | (.ok r, s) => s.operate operator l r
  | .assignment name value _ =>
    match f s value with
    | (.error e, s) => (.error e, s)
    | (.ok v, s) => (.ok v, s.bind name v)
  | .call name arguments _ =>
    match eachWith f s arguments with
    | (.error e, s) => (.error e, s)
    | (.ok values, s) =>
      match Builtin.ofName? name with
      | some builtin => (lift (builtin.call values), s)
      | none =>
        match s.function? name with
        | none => (.error (.error (.undefinedFunction name)), s)
        | some g =>
          if g.parameters.length ≠ values.length then
            let expected := toString g.parameters.length
            (.error (.error (.argumentCount name expected values.length)), s)
          else if limit ≤ s.context.depth then (.error (.error (.callDepth name)), s)
          else
            let (outcome, s) := f (s.enter g values) g.body
            (outcome, s.leave)

/-- The evaluation that is limited by the open calls alone. -/
def evalWithin (limits : Limits) : Evaluator := fun s n => eval (s.callsLeft limits) .unlimited s n

/-! ### What a step leaves to the evaluator -/

/-- Where the evaluator succeeds, it leaves as many calls open as it finds. -/
def Steady (f : Evaluator) : Prop :=
  ∀ ⦃s s' : Session⦄ ⦃n : Node⦄ ⦃v : Value⦄, f s n = (.ok v, s') →
    s'.context.depth = s.context.depth

theorem evalWithin_steady (limits : Limits) : Steady (evalWithin limits) :=
  fun _ _ _ _ h => (eval_evaluates h).sameCalls.depth

section Congr

variable {f g : Evaluator} (hg : Steady g)
include hg

theorem eachWith_steady (ns : List Node) : ∀ {s s' : Session} {vs : List Value},
    eachWith g s ns = (.ok vs, s') → s'.context.depth = s.context.depth := by
  induction ns with
  | nil =>
    intro s s' vs h
    cases h
    rfl
  | cons n rest ih =>
    intro s s' vs h
    unfold eachWith at h
    split at h
    · cases h
    · rename_i hn
      split at h
      · cases h
      · rename_i hrest
        cases h
        exact (ih hrest).trans (hg hn)

theorem eachWith_congr (ns : List Node) : ∀ s : Session,
    (∀ s' : Session, ∀ n ∈ ns, s'.context.depth = s.context.depth → f s' n = g s' n) →
    eachWith f s ns = eachWith g s ns := by
  induction ns with
  | nil => exact fun _ _ => rfl
  | cons n rest ih =>
    intro s h
    unfold eachWith
    rw [h s n List.mem_cons_self rfl]
    rcases hfirst : g s n with ⟨o, s₁⟩
    cases o with
    | error e => rfl
    | ok v =>
      -- the first node leaves as many calls open as it found
      have hrest : eachWith f s₁ rest = eachWith g s₁ rest :=
        ih s₁ fun s' m hm hs' => h s' m (List.mem_cons_of_mem _ hm) (hs'.trans (hg hfirst))
      simp only [hrest]

/-- **A step leaves smaller nodes to the evaluator, or opens a call below the limit.** -/
theorem stepWith_congr {limit : Int} {s : Session} {n : Node}
    (hsmaller : ∀ s' n', s'.context.depth = s.context.depth → sizeOf n' < sizeOf n →
      f s' n' = g s' n')
    (hdeeper : ∀ s' n', s.context.depth < limit → s'.context.depth = s.context.depth + 1 →
      f s' n' = g s' n') : stepWith limit f s n = stepWith limit g s n := by
  cases n with
  | number | reference | comment | unknown | definition => rfl
  | unary operator operand span =>
    have hoperand : f s operand = g s operand := hsmaller s operand rfl (by simp; omega)
    simp only [stepWith, hoperand]
  | assignment name value span =>
    have hvalue : f s value = g s value := hsmaller s value rfl (by simp; omega)
    simp only [stepWith, hvalue]
  | binary left operator right span =>
    have hleft : f s left = g s left := hsmaller s left rfl (by simp; omega)
    unfold stepWith
    simp only [hleft]
    rcases hfirst : g s left with ⟨_ | l, s₁⟩
    · rfl
    · have hright : f s₁ right = g s₁ right := hsmaller s₁ right (hg hfirst) (by simp; omega)
      simp only [hright]
  | call name arguments span =>
    have harguments : eachWith f s arguments = eachWith g s arguments := by
      refine eachWith_congr hg arguments s fun s' m hm hs' => hsmaller s' m hs' ?_
      have hlt := List.sizeOf_lt_of_mem hm
      simp
      omega
    unfold stepWith
    simp only [harguments]
    rcases hvalues : eachWith g s arguments with ⟨_ | values, s₁⟩
    · rfl
    · have hdepth : s₁.context.depth = s.context.depth := eachWith_steady hg arguments hvalues
      simp only
      split
      · rfl
      · split
        · rfl
        · rename_i h _
          split
          · rfl
          · split
            · rfl
            · rename_i hlimit
              -- the body need not be smaller, but it is one call deeper
              have hbody : f (s₁.enter h values) h.body = g (s₁.enter h values) h.body :=
                hdeeper _ _ (by omega) (by rw [depth_enter, hdepth])
              rw [hbody]

end Congr

/-! ### The one evaluator -/

theorem callsLeft_eq (limits : Limits) {s s' : Session}
    (h : s'.context.depth = s.context.depth) : s'.callsLeft limits = s.callsLeft limits := by
  unfold callsLeft
  rw [h]

theorem callsLeft_lt (limits : Limits) {s s' : Session} (hlimit : s.context.depth < limits.calls)
    (h : s'.context.depth = s.context.depth + 1) :
    s'.callsLeft limits + 1 = s.callsLeft limits := by
  unfold callsLeft
  omega

theorem evalAll_eq_eachWith (limits : Limits) (ns : List Node) : ∀ s : Session,
    evalAll (s.callsLeft limits) .unlimited s ns = eachWith (evalWithin limits) s ns := by
  induction ns with
  | nil =>
    intro s
    rw [evalAll.eq_def]
    rfl
  | cons n rest ih =>
    intro s
    rw [evalAll.eq_def]
    unfold eachWith
    simp only
    rcases hfirst : evalWithin limits s n with ⟨_ | v, s₁⟩
    · rw [show eval (s.callsLeft limits) .unlimited s n = _ from hfirst]
    · have hcalls : s₁.callsLeft limits = s.callsLeft limits :=
        callsLeft_eq limits (evalWithin_steady limits hfirst)
      have hrest := ih s₁
      rw [hcalls] at hrest
      rw [show eval (s.callsLeft limits) .unlimited s n = _ from hfirst]
      rcases hvalues : eachWith (evalWithin limits) s₁ rest with ⟨_ | _, _⟩ <;>
        simp only [hrest, hvalues]

/-- **Evaluation does what a step says**, with itself as the evaluator. -/
theorem evalWithin_eq_stepWith (limits : Limits) (s : Session) (n : Node) :
    evalWithin limits s n = stepWith limits.calls (evalWithin limits) s n := by
  have hsteady := evalWithin_steady limits
  unfold evalWithin
  rw [eval.eq_def]
  simp only [Room.deeper_unlimited, Room.admits_unlimited, if_true]
  cases n with
  | number | reference | comment | unknown | definition => rfl
  | unary operator operand span => rfl
  | assignment name value span => rfl
  | binary left operator right span =>
    unfold stepWith
    simp only
    rcases hfirst : eval (s.callsLeft limits) .unlimited s left with ⟨_ | l, s₁⟩
    · rfl
    · have hcalls : s₁.callsLeft limits = s.callsLeft limits :=
        callsLeft_eq limits (hsteady hfirst)
      rcases hsecond : eval (s.callsLeft limits) .unlimited s₁ right with ⟨_ | _, _⟩ <;>
        simp only [hcalls, hsecond]
  | call name arguments span =>
    unfold stepWith
    simp only
    rw [evalAll_eq_eachWith, show (fun s n => eval (s.callsLeft limits) .unlimited s n) =
      evalWithin limits from rfl]
    rcases hvalues : eachWith (evalWithin limits) s arguments with ⟨_ | values, s₁⟩
    · rfl
    · have hdepth : s₁.context.depth = s.context.depth :=
        eachWith_steady hsteady arguments hvalues
      cases hbuiltin : Builtin.ofName? name with
      | some builtin => rfl
      | none =>
        cases hfunction : s₁.function? name with
        | none => simp only [hfunction]
        | some g =>
          by_cases hcount : g.parameters.length ≠ values.length
          · simp only [hfunction, if_pos hcount]
          · simp only [hfunction, if_neg hcount]
            -- the calls that are left run out just when the limit is reached
            by_cases hlimit : limits.calls ≤ s₁.context.depth
            · have hnone : s.callsLeft limits = 0 := by
                unfold callsLeft
                omega
              rw [if_pos hlimit, hnone]
            · have hdeeper : (s₁.enter g values).context.depth = s.context.depth + 1 := by
                rw [depth_enter, hdepth]
              have hsome := callsLeft_lt limits (by omega) hdeeper
              rw [if_neg hlimit, ← hsome]

/-- Whatever does what a step says with itself is the evaluation. The recursion is on the calls that
are left and then on the size of the node. -/
theorem eq_evalWithin {limits : Limits} {f : Evaluator}
    (hf : ∀ s n, f s n = stepWith limits.calls f s n) (s : Session) (n : Node) :
    f s n = evalWithin limits s n := by
  rw [hf, evalWithin_eq_stepWith]
  refine stepWith_congr (evalWithin_steady limits) (fun s' n' hdepth hsize => ?_)
    fun s' n' hlimit hdepth => ?_
  · have hcalls := callsLeft_eq limits hdepth
    exact eq_evalWithin hf s' n'
  · have hcalls := callsLeft_lt limits hlimit hdepth
    exact eq_evalWithin hf s' n'
termination_by (s.callsLeft limits, sizeOf n)
decreasing_by
  · rw [hcalls]
    exact .right _ hsize
  · exact .left _ _ (by omega)

/-! ### What an evaluation comes to descends -/

/-- **Tasks descend**: what a task spawns may open fewer calls, or as many and has a smaller
node. -/
theorem Spawns.descends {t u : Task} (h : Spawns t u) :
    Prod.Lex (· < ·) (· < ·) (u.calls, sizeOf u.node) (t.calls, sizeOf t.node) := by
  cases h with
  | operand | left | right | value =>
    refine .right _ ?_
    simp
    omega
  | @argument _ _ _ _ _ _ before after n =>
    have hlt : sizeOf n < sizeOf (before ++ n :: after) := List.sizeOf_lt_of_mem (by simp)
    refine .right _ ?_
    simp
    omega
  | body => exact .left _ _ (Nat.lt_succ_self _)

/-- **No task spawns tasks without end.** -/
theorem spawns_wellFounded : WellFounded fun u t => Spawns t u :=
  Subrelation.wf Spawns.descends
    (InvImage.wf (fun t : Task => (t.calls, sizeOf t.node)) (Prod.lex Nat.lt_wfRel Nat.lt_wfRel).wf)

/-- The task may open as many calls as the limit leaves. -/
def Task.Counted (limits : Limits) (t : Task) : Prop := t.calls = t.session.callsLeft limits

theorem Spawns.counted {limits : Limits} {t u : Task} (h : Spawns t u) (ht : t.Counted limits) :
    u.Counted limits := by
  have hpart : ∀ {calls : Nat} {s s' : Session}, calls = s.callsLeft limits → SameCalls s s' →
      calls = s'.callsLeft limits := by
    intro calls s s' hcalls hs
    rw [hcalls, callsLeft_eq limits hs.depth]
  cases h with
  | operand _ | left _ | value _ => exact ht
  | right _ hleft => exact hpart ht hleft.sameCalls
  | argument _ hbefore => exact hpart ht hbefore.sameCalls
  | @body calls _ _ s s' _ _ _ values f _ harguments =>
    -- the arguments leave a call that may be opened, and it is opened
    have hcalls : calls + 1 = s.callsLeft limits := ht
    have hdepth := harguments.sameCalls.depth
    have hlimit : s.context.depth < limits.calls := by
      unfold callsLeft at hcalls
      omega
    have hdeeper : (s'.enter f values).context.depth = s.context.depth + 1 := by
      rw [depth_enter, hdepth]
    have hentered := callsLeft_lt limits hlimit hdeeper
    show calls = (s'.enter f values).callsLeft limits
    omega

theorem Reaches.counted {limits : Limits} {t u : Task} (h : Reaches t u) (ht : t.Counted limits) :
    u.Counted limits :=
  h.passes_on (fun ht hspawns => hspawns.counted ht) ht

/-! ### Limits -/

mutual

/-- A limit to nesting has no effect but that an evaluation may have the error that it is there
for. -/
theorem Evaluates.unlimited : ∀ {calls : Nat} {room : Room} {s s' : Session} {n : Node}
    {o : Except Failure Value}, Evaluates calls room s n o s' →
    o = .error (.error .nesting) ∨ Evaluates calls .unlimited s n o s'
  | _, _, _, _, _, _, .tooDeep _ => .inl rfl
  | _, _, _, _, _, _, .number _ h => .inr (.number rfl h)
  | _, _, _, _, _, _, .reference _ => .inr (.reference rfl)
  | _, _, _, _, _, _, .comment _ => .inr (.comment rfl)
  | _, _, _, _, _, _, .unknown _ => .inr (.unknown rfl)
  | _, _, _, _, _, _, .definition _ h => .inr (.definition rfl h)
  | _, _, _, _, _, _, .unaryFails _ h => h.unlimited.imp_right (.unaryFails rfl)
  | _, _, _, _, _, _, .unary _ h => .inr (.unary rfl (h.unlimited.resolve_left nofun))
  | _, _, _, _, _, _, .leftFails _ h => h.unlimited.imp_right (.leftFails rfl)
  | _, _, _, _, _, _, .rightFails _ hl hr =>
    hr.unlimited.imp_right (.rightFails rfl (hl.unlimited.resolve_left nofun))
  | _, _, _, _, _, _, .binary _ hl hr h =>
    .inr (.binary rfl (hl.unlimited.resolve_left nofun) (hr.unlimited.resolve_left nofun) h)
  | _, _, _, _, _, _, .assignmentFails _ h => h.unlimited.imp_right (.assignmentFails rfl)
  | _, _, _, _, _, _, .assignment _ h => .inr (.assignment rfl (h.unlimited.resolve_left nofun))
  | _, _, _, _, _, _, .argumentFails _ h =>
    h.unlimited.imp (fun he => by cases he; rfl) (.argumentFails rfl)
  | _, _, _, _, _, _, .builtin _ h hf => .inr (.builtin rfl (h.unlimited.resolve_left nofun) hf)
  | _, _, _, _, _, _, .undefinedFunction _ h hbuiltin hf =>
    .inr (.undefinedFunction rfl (h.unlimited.resolve_left nofun) hbuiltin hf)
  | _, _, _, _, _, _, .argumentCount _ h hbuiltin hf hcount =>
    .inr (.argumentCount rfl (h.unlimited.resolve_left nofun) hbuiltin hf hcount)
  | _, _, _, _, _, _, .callDepth _ h hbuiltin hf hcount =>
    .inr (.callDepth rfl (h.unlimited.resolve_left nofun) hbuiltin hf hcount)
  | _, _, _, _, _, _, .entryFails _ _ _ _ _ _ => .inl rfl
  | _, _, _, _, _, _, .call _ h hbuiltin hf hcount _ hbody =>
    hbody.unlimited.imp_right (.call rfl (h.unlimited.resolve_left nofun) hbuiltin hf hcount rfl)

theorem EvaluatesAll.unlimited : ∀ {calls : Nat} {room : Room} {s s' : Session}
    {ns : List Node} {o : Except Failure (List Value)}, EvaluatesAll calls room s ns o s' →
    o = .error (.error .nesting) ∨ EvaluatesAll calls .unlimited s ns o s'
  | _, _, _, _, _, _, .nil => .inr .nil
  | _, _, _, _, _, _, .headFails h => h.unlimited.imp (fun he => by cases he; rfl) .headFails
  | _, _, _, _, _, _, .tailFails h hrest =>
    hrest.unlimited.imp_right (.tailFails (h.unlimited.resolve_left nofun))
  | _, _, _, _, _, _, .cons h hrest =>
    .inr (.cons (h.unlimited.resolve_left nofun) (hrest.unlimited.resolve_left nofun))

end

mutual

/-- One more call that may be opened has no effect but that an evaluation may go on where it would
have the error about too many calls. -/
theorem Evaluates.anotherCall : ∀ {calls : Nat} {room : Room} {s s' : Session} {n : Node}
    {o : Except Failure Value}, Evaluates calls room s n o s' →
    (∃ name, o = .error (.error (.callDepth name))) ∨ Evaluates (calls + 1) room s n o s'
  | _, _, _, _, _, _, .tooDeep hroom => .inr (.tooDeep hroom)
  | _, _, _, _, _, _, .number hroom h => .inr (.number hroom h)
  | _, _, _, _, _, _, .reference hroom => .inr (.reference hroom)
  | _, _, _, _, _, _, .comment hroom => .inr (.comment hroom)
  | _, _, _, _, _, _, .unknown hroom => .inr (.unknown hroom)
  | _, _, _, _, _, _, .definition hroom h => .inr (.definition hroom h)
  | _, _, _, _, _, _, .unaryFails hroom h => h.anotherCall.imp_right (.unaryFails hroom)
  | _, _, _, _, _, _, .unary hroom h => .inr (.unary hroom (h.anotherCall.resolve_left nofun))
  | _, _, _, _, _, _, .leftFails hroom h => h.anotherCall.imp_right (.leftFails hroom)
  | _, _, _, _, _, _, .rightFails hroom hl hr =>
    hr.anotherCall.imp_right (.rightFails hroom (hl.anotherCall.resolve_left nofun))
  | _, _, _, _, _, _, .binary hroom hl hr h =>
    .inr (.binary hroom (hl.anotherCall.resolve_left nofun) (hr.anotherCall.resolve_left nofun) h)
  | _, _, _, _, _, _, .assignmentFails hroom h => h.anotherCall.imp_right (.assignmentFails hroom)
  | _, _, _, _, _, _, .assignment hroom h =>
    .inr (.assignment hroom (h.anotherCall.resolve_left nofun))
  | _, _, _, _, _, _, .argumentFails hroom h =>
    h.anotherCall.imp (fun ⟨name, he⟩ => ⟨name, by cases he; rfl⟩) (.argumentFails hroom)
  | _, _, _, _, _, _, .builtin hroom h hf =>
    .inr (.builtin hroom (h.anotherCall.resolve_left nofun) hf)
  | _, _, _, _, _, _, .undefinedFunction hroom h hbuiltin hf =>
    .inr (.undefinedFunction hroom (h.anotherCall.resolve_left nofun) hbuiltin hf)
  | _, _, _, _, _, _, .argumentCount hroom h hbuiltin hf hcount =>
    .inr (.argumentCount hroom (h.anotherCall.resolve_left nofun) hbuiltin hf hcount)
  | _, _, _, _, _, _, .callDepth _ _ _ _ _ => .inl ⟨_, rfl⟩
  | _, _, _, _, _, _, .entryFails hroom h hbuiltin hf hcount hadmits =>
    .inr (.entryFails hroom (h.anotherCall.resolve_left nofun) hbuiltin hf hcount hadmits)
  | _, _, _, _, _, _, .call hroom h hbuiltin hf hcount hadmits hbody =>
    hbody.anotherCall.imp_right
      (.call hroom (h.anotherCall.resolve_left nofun) hbuiltin hf hcount hadmits)

theorem EvaluatesAll.anotherCall : ∀ {calls : Nat} {room : Room} {s s' : Session}
    {ns : List Node} {o : Except Failure (List Value)}, EvaluatesAll calls room s ns o s' →
    (∃ name, o = .error (.error (.callDepth name))) ∨ EvaluatesAll (calls + 1) room s ns o s'
  | _, _, _, _, _, _, .nil => .inr .nil
  | _, _, _, _, _, _, .headFails h =>
    h.anotherCall.imp (fun ⟨name, he⟩ => ⟨name, by cases he; rfl⟩) .headFails
  | _, _, _, _, _, _, .tailFails h hrest =>
    hrest.anotherCall.imp_right (.tailFails (h.anotherCall.resolve_left nofun))
  | _, _, _, _, _, _, .cons h hrest =>
    .inr (.cons (h.anotherCall.resolve_left nofun) (hrest.anotherCall.resolve_left nofun))

end

/-- **Evaluation always ends.** Exactly one evaluator does what `stepWith` says with itself, which
tests the open calls against the limit and counts nothing else: it is `evalWithin`. In every
evaluation, whatever a task leaves to another one, the pair of the calls that may still be opened
and the size of the node goes down lexicographically. A limit to nesting, if there is one, can only
make an evaluation fail with the error that it is there for. -/
theorem eval_is_only_solution (limits : Limits) :
    (∀ f : Evaluator, (∀ s n, f s n = stepWith limits.calls f s n) ↔ f = evalWithin limits) ∧
    (∀ (s : Session) (n : Node) (t u : Task), Reaches (s.task limits n) t → Spawns t u →
      Prod.Lex (· < ·) (· < ·) (u.session.callsLeft limits, sizeOf u.node)
        (t.session.callsLeft limits, sizeOf t.node)) ∧
    ∀ (s : Session) (n : Node),
      eval (s.callsLeft limits) limits.nesting s n = evalWithin limits s n ∨
        (eval (s.callsLeft limits) limits.nesting s n).1 = .error (.error .nesting) := by
  refine ⟨fun f => ⟨fun hf => ?_, ?_⟩, ?_, fun s n => ?_⟩
  · funext s n
    exact eq_evalWithin hf s n
  · rintro rfl
    exact evalWithin_eq_stepWith limits
  · intro s n t u hreach hspawns
    -- both tasks may open as many calls as the limit leaves them
    have ht : t.calls = t.session.callsLeft limits := hreach.counted rfl
    have hu : u.calls = u.session.callsLeft limits := hspawns.counted ht
    have hlt := hspawns.descends
    rwa [ht, hu] at hlt
  · have heval : Evaluates (s.callsLeft limits) limits.nesting s n _ _ := eval_evaluates rfl
    rcases heval.unlimited with hnesting | hnone
    · exact .inr hnesting
    · exact .inl hnone.eval_eq.symm

/-- The first call of a function that calls itself may open fifty calls, the second one only
forty-nine. -/
theorem eval_is_only_solution_in_endless :
    let s : Session := { fresh .standard with functions := [("f", endless)] }
    let call : Node := .call "f" [.number 1 none .nowhere] .nowhere
    ∃ u, Spawns (s.task .standard call) u ∧ u.node = endless.body ∧
      s.callsLeft .standard = 50 ∧ u.session.callsLeft .standard = 49 ∧
      Prod.Lex (· < ·) (· < ·) (u.session.callsLeft .standard, sizeOf u.node)
        (s.callsLeft .standard, sizeOf call) := by
  intro s call
  have hspawns : Spawns (s.task .standard call)
      ⟨49, ⟨some 999, Limits.standard.nesting.entry⟩, s.enter endless [.number 1],
        endless.body⟩ :=
    .body rfl (.cons (.number rfl rfl) .nil) (by decide) rfl rfl rfl
  exact ⟨_, hspawns, rfl, rfl, rfl,
    (eval_is_only_solution .standard).2.1 s call _ _ .refl hspawns⟩

end Reckon.Session
