import Reckon.Proofs.Session.History
import Reckon.Proofs.Session.Reach

/-!
# Open calls

A call is open from the moment its frame is made until it is left. A session counts its open calls,
and a call is opened only while the count is below the limit.

* However an evaluation ends, afterwards those calls are open that were open before, unless it has
  been nested too deeply for a call to be entered: then one more call is open (`Evaluates.calls`).
  So no call is open between two steps as long as this does not happen (`history_quiet`).
* An evaluation passes through sessions: the ones in which its tasks start and end, and the ones
  that a call makes while it binds its parameters (`Task.Passes`). In each of them the count is
  within the limit, and the current frame is the global one or, if a call is open, one whose missing
  names are looked up in the global one (`Task.Within.passes`).
-/

namespace Reckon.Session

/-! ### Every call that is entered is left -/

/-- As many calls are open, and the current frame is the global one in both sessions or in
neither. -/
structure SameCalls (s s' : Session) : Prop where
  depth : s'.context.depth = s.context.depth
  current : s'.context.current.isSome = s.context.current.isSome

theorem SameCalls.refl (s : Session) : SameCalls s s := ⟨rfl, rfl⟩

theorem SameCalls.trans {s s' s'' : Session} (h : SameCalls s s') (h' : SameCalls s' s'') :
    SameCalls s s'' := ⟨h'.depth.trans h.depth, h'.current.trans h.current⟩

theorem sameCalls_of_context {s s' : Session} (h : s'.context = s.context) : SameCalls s s' := by
  refine ⟨?_, ?_⟩ <;> rw [h]

theorem sameCalls_bind (s : Session) (name : String) (v : Value) : SameCalls s (s.bind name v) := by
  unfold bind Context.set
  split
  · exact ⟨rfl, rfl⟩
  · rename_i frame hframe
    exact ⟨rfl, by rw [hframe]; rfl⟩

theorem sameCalls_bindAll (bindings : List (String × Value)) :
    ∀ s : Session, SameCalls s (s.bindAll bindings) := by
  induction bindings with
  | nil => exact .refl
  | cons b rest ih => exact fun s => (sameCalls_bind s b.1 b.2).trans (ih _)

theorem sameCalls_define {s s' : Session} {name : String} {parameters : List String} {body : Node}
    {o : Except Failure Value} (h : s.define name parameters body = (o, s')) : SameCalls s s' := by
  unfold define at h
  split at h <;> cases h <;> exact ⟨rfl, rfl⟩

theorem depth_enter (s : Session) (f : UserFunction) (arguments : List Value) :
    (s.enter f arguments).context.depth = s.context.depth + 1 := by
  obtain ⟨frame, h⟩ := s.enter_eq f arguments
  rw [h]

/-- Whoever leaves a call that has left all further ones is back in the frame in which the call was
entered. -/
theorem context_leave {s s' : Session} {f : UserFunction} {arguments : List Value}
    (hsuspended : s'.context.suspended = (s.enter f arguments).context.suspended) :
    s'.leave.context = { s'.context with
      current := s.context.current
      suspended := s.context.suspended
      depth := s'.context.depth - 1 } := by
  obtain ⟨frame, henter⟩ := s.enter_eq f arguments
  rw [henter] at hsuspended
  unfold leave Context.leave
  rw [hsuspended]

/-- If two calls are entered in frames that are related, they are left for frames that are. -/
theorem related_leave {B : Bindings → Bindings → Prop} {s s' t t' : Session} {f g : UserFunction}
    {vs ws : List Value} (h : s.context.Related B t.context) (h' : s'.context.Related B t'.context)
    (hs : s'.context.suspended = (s.enter f vs).context.suspended)
    (ht : t'.context.suspended = (t.enter g ws).context.suspended) :
    s'.leave.context.Related B t'.leave.context := by
  rw [context_leave hs, context_leave ht]
  exact ⟨h'.globals, h.current, congrArg (· - 1) h'.depth⟩

theorem sameCalls_leave {s s' : Session} {f : UserFunction} {arguments : List Value}
    (h : SameCalls (s.enter f arguments) s')
    (hsuspended : s'.context.suspended = (s.enter f arguments).context.suspended) :
    SameCalls s s'.leave := by
  have hdepth := h.depth
  rw [depth_enter] at hdepth
  refine ⟨?_, ?_⟩
  · rw [context_leave hsuspended]
    show s'.context.depth - 1 = s.context.depth
    rw [hdepth]
    exact Int.add_sub_cancel ..
  · rw [context_leave hsuspended]

/-- One more call is open: it has been begun and not been left. The current frame is the global one in
both sessions or in neither, or it is the empty frame of that call. -/
structure OneMoreCall (s s' : Session) : Prop where
  depth : s'.context.depth = s.context.depth + 1
  current : s'.context.current.isSome = s.context.current.isSome ∨
    ∃ name, s'.context.current = some ⟨name, []⟩

theorem SameCalls.oneMoreCall {s s' s'' : Session} (h : SameCalls s s') (h' : OneMoreCall s' s'') :
    OneMoreCall s s'' where
  depth := by rw [h'.depth, h.depth]
  current := by rw [← h.current]; exact h'.current

theorem oneMoreCall_begin (s : Session) (f : UserFunction) : OneMoreCall s (s.begin f) :=
  ⟨rfl, .inr ⟨f.name, rfl⟩⟩

theorem oneMoreCall_leave {s s' : Session} {f : UserFunction} {arguments : List Value}
    (h : OneMoreCall (s.enter f arguments) s')
    (hsuspended : s'.context.suspended = (s.enter f arguments).context.suspended) :
    OneMoreCall s s'.leave := by
  have hdepth := h.depth
  rw [depth_enter] at hdepth
  refine ⟨?_, .inl ?_⟩
  · rw [context_leave hsuspended]
    show s'.context.depth - 1 = s.context.depth + 1
    rw [hdepth]
    exact Int.add_sub_cancel ..
  · rw [context_leave hsuspended]

/-- Which frame is current after a call depends on which ones are suspended, so the guarantee is
about both. -/
theorem calls_guarantee : Guarantee (fun _ => True) (fun _ => True) (fun _ => True)
    (fun s s' => SameCalls s s' ∧ s'.context.suspended = s.context.suspended)
    (fun s s' => OneMoreCall s s' ∧ s'.context.suspended = s.context.suspended) where
  refl s := ⟨.refl s, rfl⟩
  trans h h' := ⟨h.1.trans h'.1, h'.2.trans h.2⟩
  literal _ _ h := ⟨sameCalls_of_context (sameBindings_of_literal h).1,
    congrArg Context.suspended (sameBindings_of_literal h).1⟩
  define _ _ h := ⟨sameCalls_define h, suspended_define h⟩
  bind _ _ _ := ⟨sameCalls_bind _ _ _, suspended_bind _ _ _⟩
  operate _ _ _ h := ⟨sameCalls_of_context (sameBindings_of_operate h).1,
    congrArg Context.suspended (sameBindings_of_operate h).1⟩
  leave _ _ h := ⟨sameCalls_leave h.1 h.2, suspended_leave h.2⟩
  begin _ := ⟨oneMoreCall_begin _ _, rfl⟩
  after h h' := ⟨h.1.oneMoreCall h'.1, h'.2.trans h.2⟩
  abandon _ _ h := ⟨oneMoreCall_leave h.1 h.2, suspended_leave h.2⟩

/-- **An evaluation leaves the calls open that it found open**, unless the entry of a call fails: that
call stays open then. -/
theorem Evaluates.calls {calls : Nat} {room : Room} {s s' : Session} {n : Node}
    {o : Except Failure Value} (h : Evaluates calls room s n o s') :
    Leads SameCalls OneMoreCall calls o s s' :=
  (h.leads calls_guarantee trivial trivial).1.imp And.left fun ⟨hcalls, ho, hs⟩ =>
    ⟨hcalls, ho, hs.1⟩

theorem Evaluates.sameCalls {calls : Nat} {room : Room} {s s' : Session} {n : Node} {v : Value}
    (h : Evaluates calls room s n (.ok v) s') : SameCalls s s' := h.calls.of_ok

theorem EvaluatesAll.sameCalls {calls : Nat} {room : Room} {s s' : Session} {ns : List Node}
    {vs : List Value} (h : EvaluatesAll calls room s ns (.ok vs) s') : SameCalls s s' :=
  (h.leads calls_guarantee (fun _ _ => trivial) trivial).1.of_ok.1

/-! ### The sessions that an evaluation passes through -/

/-- A session that the task itself brings about: the one in which it starts, the one that it leaves,
and those in which a call has bound some of its parameters. Everything else happens in the tasks
that it spawns. -/
inductive Task.Shows : Task → Session → Prop where
  | start (t : Task) : t.Shows t.session
  | finish {t : Task} {o : Except Failure Value} {s : Session} :
      Evaluates t.calls t.room t.session t.node o s → t.Shows s
  | binding {calls : Nat} {room inner : Room} {s s' : Session} {name : String}
      {arguments : List Node} {span : Span} {values : List Value} {f : UserFunction}
      {bound rest : List (String × Value)} (hroom : room.deeper = some inner) :
      EvaluatesAll (calls + 1) inner s arguments (.ok values) s' → Builtin.ofName? name = none →
      s'.function? name = some f → f.parameters.length = values.length →
      inner.admits s'.context.depth = true → f.parameters.zip values = bound ++ rest →
      Task.Shows ⟨calls + 1, room, s, .call name arguments span⟩
        (({ s' with context := s'.context.enter f.name } : Session).bindAll bound)

/-- At some moment of the task, the session is `u`. -/
def Task.Passes (t : Task) (u : Session) : Prop := ∃ v, Reaches t v ∧ v.Shows u

/-- The count of open calls is within the limit, and a frame is current only if a call is open. -/
structure Bounded (limit : Int) (s : Session) : Prop where
  nonneg : 0 ≤ s.context.depth
  le_limit : s.context.depth ≤ limit
  current : s.context.current.isSome = true → 0 < s.context.depth

theorem Bounded.sameCalls {limit : Int} {s s' : Session} (h : s.Bounded limit)
    (hs : SameCalls s s') : s'.Bounded limit where
  nonneg := by rw [hs.depth]; exact h.nonneg
  le_limit := by rw [hs.depth]; exact h.le_limit
  current := by rw [hs.depth, hs.current]; exact h.current

theorem Bounded.oneMoreCall {limit : Int} {s s' : Session} (h : s.Bounded limit)
    (hlimit : s.context.depth < limit) (hs : OneMoreCall s s') : s'.Bounded limit := by
  have hnonneg := h.nonneg
  have hdepth := hs.depth
  exact ⟨by omega, by omega, fun _ => by omega⟩

/-- The session of the task is bounded, and as many calls may be opened as the limit leaves. -/
structure Task.Within (limit : Int) (t : Task) : Prop where
  bounded : t.session.Bounded limit
  calls : t.session.context.depth + t.calls = limit

theorem Task.Within.sameCalls {limit : Int} {calls : Nat} {room inner : Room}
    {s s' : Session} {n n' : Node} (h : Task.Within limit ⟨calls, room, s, n⟩)
    (hs : SameCalls s s') : Task.Within limit ⟨calls, inner, s', n'⟩ where
  bounded := h.bounded.sameCalls hs
  calls := by rw [hs.depth]; exact h.calls

/-- A task that may open a call has room for it below the limit. -/
theorem Task.Within.entered {limit : Int} {calls : Nat} {room : Room} {s s' : Session}
    {n : Node} (h : Task.Within limit ⟨calls + 1, room, s, n⟩) (hs : SameCalls s s')
    (name : String) (bound : List (String × Value)) :
    (({ s' with context := s'.context.enter name } : Session).bindAll bound).Bounded limit := by
  have hcalls : s.context.depth + ((calls + 1 : Nat) : Int) = limit := h.calls
  have hnonneg : 0 ≤ s.context.depth := h.bounded.nonneg
  have hdepth := hs.depth
  have hentered : ({ s' with context := s'.context.enter name } : Session).Bounded limit := by
    refine ⟨?_, ?_, ?_⟩
    · show 0 ≤ s'.context.depth + 1
      omega
    · show s'.context.depth + 1 ≤ limit
      omega
    · show _ → 0 < s'.context.depth + 1
      omega
  exact hentered.sameCalls (sameCalls_bindAll bound _)

/-- **A task spawns tasks within the limit only.** -/
theorem Task.Within.spawned {limit : Int} {t u : Task} (h : t.Within limit) (hu : Spawns t u) :
    u.Within limit := by
  cases hu with
  | operand _ | left _ | value _ => exact h.sameCalls (.refl _)
  | right _ hleft => exact h.sameCalls hleft.sameCalls
  | argument _ hbefore => exact h.sameCalls hbefore.sameCalls
  | @body calls _ _ s s' _ _ _ values f _ harguments =>
    refine ⟨h.entered harguments.sameCalls f.name _, ?_⟩
    -- one more call is open, and one less may be opened
    have hcalls : s.context.depth + ((calls + 1 : Nat) : Int) = limit := h.calls
    have hdepth := harguments.sameCalls.depth
    show (s'.enter f values).context.depth + (calls : Int) = limit
    rw [depth_enter]
    omega

/-- A task that has no call left that may be opened does not get stuck in one. -/
theorem Task.Within.finish {limit : Int} {t : Task} {o : Except Failure Value} {s : Session}
    (h : t.Within limit) (heval : Evaluates t.calls t.room t.session t.node o s) :
    s.Bounded limit := by
  rcases heval.calls with hsame | ⟨hcalls, -, hmore⟩
  · exact h.bounded.sameCalls hsame
  · have hleft := h.calls
    exact h.bounded.oneMoreCall (by omega) hmore

theorem Task.Within.shows {limit : Int} {t : Task} {u : Session} (h : t.Within limit)
    (hu : t.Shows u) : u.Bounded limit := by
  cases hu with
  | start => exact h.bounded
  | finish heval => exact h.finish heval
  | binding _ harguments => exact h.entered harguments.sameCalls _ _

/-- **At every moment of a task within the limit, the session is bounded.** -/
theorem Task.Within.passes {limit : Int} {t : Task} {u : Session} (h : t.Within limit)
    (hu : t.Passes u) : u.Bounded limit := by
  obtain ⟨v, hreach, hshows⟩ := hu
  have hv : v.Within limit := hreach.passes_on Task.Within.spawned h
  exact hv.shows hshows

/-! ### Whole sessions -/

/-- The evaluation of a node as it is asked for. -/
def task (limits : Limits) (s : Session) (n : Node) : Task :=
  ⟨s.callsLeft limits, limits.nesting, s, n⟩

/-- The evaluations that a request comes to: a statement is evaluated in the session as it is, a
line of a document in the session that the lines before it leave. -/
inductive Undertakes (limits : Limits) (s : Session) : Request → Task → Prop where
  | node (n : Node) : Undertakes limits s (.node n) (s.task limits n)
  | text {text : String} {n : Node} : parseSingle text = .ok n →
      Undertakes limits s (.text text) (s.task limits n)
  | line {text raw : String} {line : Nat} {before after : List (Nat × String)} {n : Node}
      {outcomes : List LineOutcome} {s' : Session} : Text.isBlankText text = false →
      numberedLines text = before ++ (line, raw) :: after →
      Document.evaluateLines s.clear limits before = (.ok outcomes, s') →
      Text.isBlankText raw = false → parseLine raw line = .ok n → n.isComment = false →
      Undertakes limits s (.document text) (s'.task limits n)

theorem Bounded.task_within {limits : Limits} {s : Session} (hs : s.Bounded limits.calls)
    (n : Node) : (s.task limits n).Within limits.calls := by
  have hcalls : (s.task limits n).calls = (limits.calls - s.context.depth).toNat := rfl
  have hle := hs.le_limit
  refine ⟨hs, ?_⟩
  show s.context.depth + _ = _
  omega

/-- **Between two steps the session is bounded.** -/
theorem bounded_preserved {limits : Limits} (h : 0 ≤ limits.calls) :
    Preserved limits (fun _ => True) (Bounded limits.calls) where
  statement := fun _ _ => trivial
  evaluate := by
    intro s n _ hs
    obtain ⟨o, heval, -⟩ := exists_evaluates (rfl : s.evaluate limits n = _)
    exact (hs.task_within n).finish heval
  clear := fun _ => ⟨Int.le_refl 0, h, nofun⟩

theorem history_bounded {limits : Limits} (h : 0 ≤ limits.calls) (catalog : Catalog)
    (steps : List Step) : (history limits catalog steps).Bounded limits.calls :=
  (bounded_preserved h).history (fun _ hs => ⟨hs.nonneg, hs.le_limit, hs.current⟩)
    ⟨Int.le_refl 0, h, nofun⟩ steps

theorem Bounded.undertakes_within {limits : Limits} {s : Session} (hs : s.Bounded limits.calls)
    (h : 0 ≤ limits.calls) {r : Request} {t : Task} (ht : Undertakes limits s r t) :
    t.Within limits.calls := by
  cases ht with
  | node n => exact hs.task_within n
  | text _ => exact hs.task_within _
  | @line _ _ _ before _ _ _ _ _ _ hbefore =>
    have hlines := (bounded_preserved h).evaluateLines before ((bounded_preserved h).clear hs)
    rw [hbefore] at hlines
    exact hlines.task_within _

/-! ### Between steps -/

/-- No call is open, and the session knows it. -/
structure Quiet (s : Session) : Prop where
  depth : s.context.depth = 0
  current : s.context.current = none

theorem SameCalls.quiet {s s' : Session} (h : SameCalls s s') (hs : s.Quiet) : s'.Quiet where
  depth := h.depth.trans hs.depth
  current := by
    have hcurrent := h.current
    rw [hs.current] at hcurrent
    exact Option.isNone_iff_eq_none.mp (by simpa using hcurrent)

theorem clear_quiet (s : Session) : s.clear.Quiet := ⟨rfl, rfl⟩

/-- The task does not come out as nested too deeply. -/
def Task.Fits (t : Task) : Prop := (eval t.calls t.room t.session t.node).1 ≠ .error (.error .nesting)

theorem Quiet.evaluate {limits : Limits} {s : Session} {n : Node} (hs : s.Quiet)
    (h : (s.task limits n).Fits) : (s.evaluate limits n).2.Quiet := by
  obtain ⟨o, heval, -⟩ := exists_evaluates (rfl : s.evaluate limits n = _)
  rcases heval.calls with hsame | ⟨-, rfl, -⟩
  · exact hsame.quiet hs
  · refine absurd ?_ h
    show (eval (s.callsLeft limits) limits.nesting s n).1 = _
    rw [heval.eval_eq]

theorem Quiet.evaluateLine {limits : Limits} {s : Session} {line : Nat} {raw : String}
    (hs : s.Quiet) (h : ∀ n, Text.isBlankText raw = false → parseLine raw line = .ok n →
      n.isComment = false → (s.task limits n).Fits) :
    (Document.evaluateLine s limits line raw).2.Quiet := by
  unfold Document.evaluateLine
  split
  · exact hs
  · rename_i hblank
    split
    · exact hs
    · exact hs
    · rename_i n hcomment hn
      have hnot : n.isComment = false := by
        cases n with
        | comment text span => exact (hcomment text span rfl).elim
        | _ => rfl
      have hquiet := hs.evaluate (h n (by simpa using hblank) hn hnot)
      split <;> rename_i h' <;> rw [h'] at hquiet <;> exact hquiet

theorem Quiet.evaluateLines {limits : Limits} (lines : List (Nat × String)) :
    ∀ {s : Session}, s.Quiet → (∀ before (line : Nat) raw after outcomes s' n,
      lines = before ++ (line, raw) :: after →
      Document.evaluateLines s limits before = (.ok outcomes, s') →
      Text.isBlankText raw = false → parseLine raw line = .ok n → n.isComment = false →
      (s'.task limits n).Fits) → (Document.evaluateLines s limits lines).2.Quiet := by
  induction lines with
  | nil => exact fun hs _ => hs
  | cons l rest ih =>
    intro s hs h
    have hline := hs.evaluateLine fun n => h [] l.1 l.2 rest [] s n rfl rfl
    unfold Document.evaluateLines
    rcases hrun : Document.evaluateLine s limits l.1 l.2 with ⟨a | o, s₁⟩ <;> rw [hrun] at hline
    · exact hline
    · have hrest : (Document.evaluateLines s₁ limits rest).2.Quiet := by
        refine ih hline fun before line raw after outcomes s' n hlines hbefore => ?_
        refine h (l :: before) line raw after (o :: outcomes) s' n (by rw [hlines]; rfl) ?_
        rw [Document.evaluateLines, hrun]
        simp only [hbefore]
      simp only
      split <;> rename_i hrun' <;> rw [hrun'] at hrest <;> exact hrest

/-- What is asked of a session that is quiet leaves it so, as long as nothing is nested too deeply. -/
theorem Quiet.serve {limits : Limits} {s : Session} {r : Request} (hs : s.Quiet)
    (h : ∀ t, Undertakes limits s r t → t.Fits) : (s.serve limits r).Quiet := by
  cases r with
  | node n => exact hs.evaluate (h _ (.node n))
  | text text =>
    unfold Session.serve evaluateText
    simp only
    split
    · exact hs
    · rename_i n hn
      exact hs.evaluate (h _ (.text hn))
  | document text =>
    unfold Session.serve Document.evaluate
    simp only
    split
    · exact s.clear_quiet
    · rename_i hblank
      have hlines := s.clear_quiet.evaluateLines (numberedLines text)
        fun before line raw after outcomes s' n hlines hbefore hraw hn hcomment =>
          h _ (.line (by simpa using hblank) hlines hbefore hraw hn hcomment)
      split <;> rename_i hrun <;> rw [hrun] at hlines <;> exact hlines
  | clear => exact s.clear_quiet

/-- The evaluations that the steps of a history come to. -/
def Undergoes (limits : Limits) (catalog : Catalog) (steps : List Step) (t : Task) : Prop :=
  ∃ before r after, steps = before ++ .request r :: after ∧
    Undertakes limits (history limits catalog before) r t

theorem history_concat (limits : Limits) (catalog : Catalog) (steps : List Step) (step : Step) :
    history limits catalog (steps ++ [step]) =
      (history limits catalog steps).perform limits step := by
  unfold history
  rw [List.foldl_append]
  rfl

/-- **No call is open between two steps**, as long as nothing is nested too deeply. -/
theorem history_quiet {limits : Limits} {catalog : Catalog} (steps : List Step)
    (h : ∀ t, Undergoes limits catalog steps t → t.Fits) :
    (history limits catalog steps).Quiet := by
  induction steps using List.reverseRecOn with
  | nil => exact ⟨rfl, rfl⟩
  | append_singleton steps step ih =>
    have hs : (history limits catalog steps).Quiet := by
      refine ih fun t ⟨before, r, after, hsteps, ht⟩ => h t ⟨before, r, after ++ [step], ?_, ht⟩
      rw [hsteps]
      simp
    rw [history_concat]
    cases step with
    | lookup text => exact ⟨hs.depth, hs.current⟩
    | request r => exact hs.serve fun t ht => h t ⟨steps, r, [], rfl, ht⟩

/-- **Scope and depth are restored unless the entry of a call fails.** Whatever a session has gone
through, every evaluation leaves the calls open that it found open and the global frame current if it
was before; only one that is nested too deeply can leave a further call open, because that call could
not be entered. So if nothing has been nested too deeply, no call is open and the global frame is
current. At every moment of the evaluations that a request comes to, the number of open calls is
between zero and the limit, and the global frame is current, or a call is open and the current frame
is one in which the names that it lacks are those of the global one. -/
theorem history_restores_calls (limits : Limits) (catalog : Catalog) (steps : List Step) :
    let s := history limits catalog steps
    (∀ r t o s', Undertakes limits s r t → Evaluates t.calls t.room t.session t.node o s' →
      SameCalls t.session s' ∨ o = .error (.error .nesting) ∧ OneMoreCall t.session s') ∧
    ((∀ t, Undergoes limits catalog steps t → t.Fits) →
      s.context.depth = 0 ∧ s.context.current = none) ∧
    (0 ≤ limits.calls → ∀ r t u, Undertakes limits s r t → t.Passes u →
      0 ≤ u.context.depth ∧ u.context.depth ≤ limits.calls ∧
      (u.context.current = none ∨
        ∃ frame, u.context.current = some frame ∧ 0 < u.context.depth ∧
          ∀ name, u.context.get? name =
            (frame.bindings.value? name).or (u.context.globals.value? name))) := by
  intro s
  refine ⟨fun r t o s' _ heval => heval.calls.imp_right And.right, fun hfits => ?_,
    fun hlimit r t u ht hu => ?_⟩
  · have hquiet := history_quiet steps hfits
    exact ⟨hquiet.depth, hquiet.current⟩
  · have hs : s.Bounded limits.calls := history_bounded hlimit catalog steps
    have hbounded := (hs.undertakes_within hlimit ht).passes hu
    refine ⟨hbounded.nonneg, hbounded.le_limit, ?_⟩
    cases hframe : u.context.current with
    | none => exact .inl rfl
    | some frame =>
      refine .inr ⟨frame, rfl, hbounded.current (by rw [hframe]; rfl), fun name => ?_⟩
      unfold Context.get?
      rw [hframe]

/-- A function that calls itself without end. -/
def endless : UserFunction :=
  ⟨"f", ["n"], .call "f" [.reference "n" .nowhere] .nowhere⟩

/-- In the first call of a function that calls itself, one call is open; before it none is. -/
theorem history_restores_calls_in_endless :
    let definition := Node.definition endless.name endless.parameters endless.body .nowhere
    let steps := [Step.request (.node definition)]
    let s := history .standard .standard steps
    (∀ t, Undergoes .standard .standard steps t → t.Fits) ∧ s.context.current = none ∧
    0 ≤ Limits.standard.calls ∧ ∃ t u, Undertakes .standard s
        (.node (.call "f" [.number 1 none .nowhere] .nowhere)) t ∧ t.Passes u ∧
      u.context.depth = 1 ∧ u.context.depth ≤ Limits.standard.calls ∧
      ∃ frame, u.context.current = some frame := by
  intro definition steps s
  have hlimit : 0 ≤ Limits.standard.calls := by decide
  have hdefine : Evaluates ((fresh .standard).callsLeft .standard) Limits.standard.nesting
      (fresh .standard) definition (.ok (.number 0))
      { fresh .standard with functions := [("f", endless)] } := .definition rfl rfl
  have hs : s = { fresh .standard with functions := [("f", endless)] } := by
    show ((fresh .standard).evaluate .standard definition).2 = _
    unfold evaluate
    rw [hdefine.eval_eq]
  have hfits : ∀ t, Undergoes .standard .standard steps t → t.Fits := by
    rintro t ⟨before, r, after, hsteps, ht⟩
    cases before with
    | nil =>
      obtain ⟨hr, -⟩ := List.cons.inj hsteps
      cases hr
      cases ht
      show (eval ((fresh .standard).callsLeft .standard) Limits.standard.nesting (fresh .standard)
        definition).1 ≠ _
      rw [hdefine.eval_eq]
      exact nofun
    | cons step before =>
      have hlength := congrArg List.length hsteps
      simp [steps] at hlength
  have hspawns : Spawns (s.task .standard (.call "f" [.number 1 none .nowhere] .nowhere))
      ⟨49, ⟨some 999, Limits.standard.nesting.entry⟩, s.enter endless [.number 1],
        endless.body⟩ := by
    rw [hs]
    exact .body rfl (.cons (.number rfl rfl) .nil) (by decide) rfl rfl rfl
  have hpasses : (s.task .standard (.call "f" [.number 1 none .nowhere] .nowhere)).Passes
      (s.enter endless [.number 1]) := ⟨_, .single hspawns, .start _⟩
  obtain ⟨-, hquiet, hmoments⟩ := history_restores_calls .standard .standard steps
  obtain ⟨-, hle, hframe⟩ := hmoments hlimit _ _ _ (.node _) hpasses
  have hdepth : (s.enter endless [.number 1]).context.depth = 1 := by
    rw [hs]
    rfl
  refine ⟨hfits, (hquiet hfits).2, hlimit, _, _, .node _, hpasses, hdepth, hle, ?_⟩
  rcases hframe with hnone | ⟨frame, hcurrent, -, -⟩
  · rw [hs] at hnone
    cases hnone
  · exact ⟨frame, hcurrent⟩

/-! ### A call that stays open -/

/-- `n + 1 + 1 + …`, with as many additions as given. -/
def addedOnes (n : Node) : Nat → Node
  | 0 => n
  | k + 1 => .binary (addedOnes n k) "+" (.number 1 none .nowhere) .nowhere

/-- A call within so many additions that two levels are left for it is begun and not entered, if no
other is open. -/
theorem evaluates_addedOnes {calls : Nat} {entry : Int → Nat} {s : Session} {name : String}
    {f : UserFunction} (hentry : 1 < entry s.context.depth) (hname : Builtin.ofName? name = none)
    (hf : s.function? name = some f) (hparameters : f.parameters = []) (k : Nat) :
    Evaluates (calls + 1) ⟨some (k + 2), entry⟩ s (addedOnes (.call name [] .nowhere) k)
      (.error (.error .nesting)) (s.begin f) := by
  induction k with
  | zero =>
    have hadmits : Room.admits ⟨some 1, entry⟩ s.context.depth = false := by
      unfold Room.admits
      simpa using hentry
    exact .entryFails rfl .nil hname hf (by rw [hparameters]; rfl) hadmits
  | succ k ih => exact .leftFails rfl ih

/-- **A call that cannot be entered stays open**: not every step leaves no call open. -/
theorem call_stays_open : ¬∀ (limits : Limits) (catalog : Catalog) (steps : List Step),
    (history limits catalog steps).context.depth = 0 ∧
      (history limits catalog steps).context.current = none := by
  intro hclaim
  let f : UserFunction := ⟨"f", [], .number 1 none .nowhere⟩
  let s : Session := { fresh .standard with functions := [("f", f)] }
  have hdefine : (fresh .standard).evaluate .standard (.definition "f" [] f.body .nowhere) =
      (.ok (.value (.number 0)), s) := by
    unfold evaluate
    rw [(Evaluates.definition rfl rfl : Evaluates _ Limits.standard.nesting _ _ (.ok _) s).eval_eq]
  have hf : s.function? "f" = some f := rfl
  obtain ⟨n, heval⟩ : ∃ n, Evaluates (s.callsLeft .standard) Limits.standard.nesting s n
      (.error (.error .nesting)) (s.begin f) :=
    ⟨_, evaluates_addedOnes (by decide) (by decide) hf rfl 998⟩
  have hstuck : (s.evaluate .standard n).2 = s.begin f := by
    unfold evaluate
    rw [heval.eval_eq]
  have hquiet := (hclaim .standard .standard
    [.request (.node (.definition "f" [] f.body .nowhere)), .request (.node n)]).2
  have hfirst : (fresh .standard).perform .standard
      (.request (.node (.definition "f" [] f.body .nowhere))) = s := congrArg Prod.snd hdefine
  have hsecond : s.perform .standard (.request (.node n)) = s.begin f := hstuck
  unfold history at hquiet
  rw [List.foldl_cons, List.foldl_cons, List.foldl_nil, hfirst, hsecond] at hquiet
  cases hquiet

end Reckon.Session
