import Reckon.Proofs.Session.Frames

/-!
# What a context makes of its history

Names are bound and looked up, calls are entered and left, and the context is reset, in any order. A
history is the list of these steps, the latest one first. Two things are read off it without any
frame:

* which frame is current, and which ones will be when the open calls are left (`frameBelow`); the
  frame of a call is known by the number of steps before the call was entered;
* which value was bound to a name last while a frame was current (`lastBound`).

A context holds in its frames what the history says of them (`represents_after`). So a name is looked
up in the frame of the running call and then in the global one, and a value that was bound in any
other frame is not seen (`after_sees_own_frame_then_global`). A reset does not change which frames
are waiting for the open calls to be left, so calls may be left after it and the depth may become
negative.
-/

namespace Reckon

/-- What can happen to a context. -/
inductive ContextStep where
  /-- A name is bound in the current frame. -/
  | set (name : String) (value : Value)
  /-- A name is looked up. -/
  | get (name : String)
  /-- A call is entered. -/
  | enter (name : String)
  /-- The innermost open call is left. -/
  | leave
  /-- All variables are forgotten. -/
  | reset

namespace Context

/-- The context after a step. -/
def perform (c : Context) : ContextStep → Context
  | .set name value => c.set name value
  | .get _ => c
  | .enter name => c.enter name
  | .leave => c.leave
  | .reset => c.reset

/-- The context with the given history. -/
def after : List ContextStep → Context
  | [] => empty
  | step :: past => (after past).perform step

/-! ### What the history says -/

/-- The frame that will be current when the `n` innermost open calls are left: the global one, or
that of the call which was entered after so many steps. -/
def frameBelow (n : Nat) : List ContextStep → Option Nat
  | [] => none
  | .set _ _ :: past | .get _ :: past => frameBelow n past
  | .leave :: past => frameBelow (n + 1) past
  | .enter _ :: past =>
    match n with
    | 0 => some past.length
    | n + 1 => frameBelow n past
  | .reset :: past =>
    match n with
    | 0 => none
    | n + 1 => frameBelow (n + 1) past

/-- The frame that is current. -/
def currentFrame (history : List ContextStep) : Option Nat := frameBelow 0 history

/-- The value that a name, in any case, was bound to last while the given frame was current; in the
global frame, since the last reset. -/
def lastBound (frame : Option Nat) (name : String) : List ContextStep → Option Value
  | [] => none
  | .set other value :: past =>
    if currentFrame past = frame ∧ Text.fold name = Text.fold other then some value
    else lastBound frame name past
  | .reset :: past => if frame = none then none else lastBound frame name past
  | .get _ :: past | .enter _ :: past | .leave :: past => lastBound frame name past

/-- The number of calls that were entered. -/
def entered : List ContextStep → Nat
  | [] => 0
  | .enter _ :: past => entered past + 1
  | .set _ _ :: past | .get _ :: past | .leave :: past | .reset :: past => entered past

/-- The number of calls that were left. -/
def left : List ContextStep → Nat
  | [] => 0
  | .leave :: past => left past + 1
  | .set _ _ :: past | .get _ :: past | .enter _ :: past | .reset :: past => left past

/-- The steps after the last reset. -/
def sinceReset : List ContextStep → List ContextStep
  | [] | .reset :: _ => []
  | step :: past => step :: sinceReset past

/-- No call is left before it is entered. -/
def Proper (history : List ContextStep) : Prop := ∀ past, past <:+ history → left past ≤ entered past

/-- The steps leave the calls that they enter, and no others. -/
inductive Nested : List ContextStep → Prop where
  | nil : Nested []
  | set {past : List ContextStep} (name : String) (value : Value) :
      Nested past → Nested (.set name value :: past)
  | get {past : List ContextStep} (name : String) : Nested past → Nested (.get name :: past)
  | reset {past : List ContextStep} : Nested past → Nested (.reset :: past)
  | call {inner past : List ContextStep} (name : String) :
      Nested inner → Nested past → Nested (.leave :: (inner ++ .enter name :: past))

theorem Proper.tail {step : ContextStep} {past : List ContextStep} (h : Proper (step :: past)) :
    Proper past :=
  fun p hp => h p (hp.trans (List.suffix_cons step past))

theorem Proper.of_append {later past : List ContextStep} (h : Proper (later ++ past)) :
    Proper past :=
  fun p hp => h p (hp.trans (List.suffix_append later past))

theorem entered_append (later past : List ContextStep) :
    entered (later ++ past) = entered later + entered past := by
  induction later with
  | nil => exact (Nat.zero_add _).symm
  | cons step later ih =>
    cases step with
    | enter =>
      simp only [List.cons_append, entered, ih]
      omega
    | _ => exact ih

theorem left_append (later past : List ContextStep) :
    left (later ++ past) = left later + left past := by
  induction later with
  | nil => exact (Nat.zero_add _).symm
  | cons step later ih =>
    cases step with
    | leave =>
      simp only [List.cons_append, left, ih]
      omega
    | _ => exact ih

theorem Nested.left_eq {inner : List ContextStep} (h : Nested inner) : left inner = entered inner := by
  induction h with
  | nil => rfl
  | set _ _ _ ih | get _ _ ih | reset _ ih => exact ih
  | call name _ _ ih ih' =>
    simp only [left, entered, left_append, entered_append]
    omega

/-! ### Frames are known by when they were entered -/

theorem frameBelow_lt {history : List ContextStep} {n k : Nat}
    (h : frameBelow n history = some k) : k < history.length := by
  induction history generalizing n with
  | nil => cases h
  | cons step past ih =>
    have hpast : ∀ m, frameBelow m past = some k → k < (step :: past).length :=
      fun m hm => Nat.lt_succ_of_lt (ih hm)
    cases step with
    | set | get | leave => exact hpast _ h
    | enter name =>
      cases n with
      | zero =>
        cases h
        exact Nat.lt_succ_self _
      | succ n => exact hpast n h
    | reset =>
      cases n with
      | zero => cases h
      | succ n => exact hpast _ h

/-- No frame of a call waits twice. -/
theorem frameBelow_inj {history : List ContextStep} {m n k : Nat}
    (hm : frameBelow m history = some k) (hn : frameBelow n history = some k) : m = n := by
  induction history generalizing m n with
  | nil => cases hm
  | cons step past ih =>
    cases step with
    | set | get => exact ih hm hn
    | leave => exact Nat.succ.inj (ih hm hn)
    | enter name =>
      have hfresh : ∀ l, frameBelow l past ≠ some past.length :=
        fun l hl => Nat.lt_irrefl _ (frameBelow_lt hl)
      rcases m with _ | m <;> rcases n with _ | n
      · rfl
      · cases hm
        exact absurd hn (hfresh n)
      · cases hn
        exact absurd hm (hfresh m)
      · exact congrArg (· + 1) (ih hm hn)
    | reset =>
      rcases m with _ | m
      · cases hm
      · rcases n with _ | n
        · cases hn
        · exact ih hm hn

/-- Nothing was bound in the frame of a call that is entered later. -/
theorem lastBound_of_length_le {history : List ContextStep} {k : Nat} (name : String)
    (h : history.length ≤ k) : lastBound (some k) name history = none := by
  induction history with
  | nil => rfl
  | cons step past ih =>
    have hpast := ih (Nat.le_of_succ_le h)
    cases step with
    | get | enter | leave => exact hpast
    | set other value =>
      have hne : currentFrame past ≠ some k := fun hk =>
        Nat.lt_irrefl _ (Nat.lt_of_lt_of_le (frameBelow_lt hk) (Nat.le_of_succ_le h))
      rw [lastBound, if_neg fun hand => hne hand.1]
      exact hpast
    | reset =>
      rw [lastBound, if_neg (by simp)]
      exact hpast

/-! ### A context holds what its history says -/

/-- A frame has the values that were bound last while it was current. -/
inductive Holds (history : List ContextStep) : Option Nat → Option Frame → Prop where
  | global : Holds history none none
  | call {k : Nat} {frame : Frame}
      (h : ∀ name, frame.bindings.value? name = lastBound (some k) name history) :
      Holds history (some k) (some frame)

/-- Every frame of the context has the values that were bound last while it was current, and the
frames are those that the history says. -/
structure Represents (history : List ContextStep) (c : Context) : Prop where
  globals : ∀ name, c.globals.value? name = lastBound none name history
  current : Holds history (currentFrame history) c.current
  suspended : ∀ (n : Nat) frame, c.suspended[n]? = some frame →
    Holds history (frameBelow (n + 1) history) frame
  waiting : c.suspended.length + left history = entered history
  depth : c.depth = entered (sinceReset history) - left (sinceReset history)

theorem Holds.of_lastBound {history history' : List ContextStep} {id : Option Nat}
    {frame : Option Frame} (h : Holds history id frame)
    (heq : ∀ k, id = some k → ∀ name,
      lastBound (some k) name history' = lastBound (some k) name history) :
    Holds history' id frame := by
  cases h with
  | global => exact .global
  | call h => exact .call fun name => (h name).trans (heq _ rfl name).symm

theorem represents_empty : Represents [] empty where
  globals _ := rfl
  current := .global
  suspended _ _ h := nomatch h
  waiting := rfl
  depth := rfl

namespace Represents

variable {past : List ContextStep} {c : Context}

theorem get (h : Represents past c) (name : String) : Represents (.get name :: past) c where
  globals := h.globals
  current := h.current.of_lastBound fun _ _ _ => rfl
  suspended n frame hn := (h.suspended n frame hn).of_lastBound fun _ _ _ => rfl
  waiting := h.waiting
  depth := h.depth

/-- A name is bound in the current frame alone. -/
theorem set (h : Represents past c) (name : String) (v : Value) :
    Represents (.set name v :: past) (c.set name v) := by
  have hbound : ∀ frame other, lastBound frame other (.set name v :: past) =
      if currentFrame past = frame ∧ Text.fold other = Text.fold name then some v
      else lastBound frame other past := fun _ _ => rfl
  have hother : ∀ frame other, currentFrame past ≠ frame →
      lastBound frame other (.set name v :: past) = lastBound frame other past := by
    intro frame other hne
    rw [hbound, if_neg fun hand => hne hand.1]
  -- a suspended frame is never the current one, so the binding is not for it
  have hsuspended : ∀ (n : Nat) frame, c.suspended[n]? = some frame →
      Holds (.set name v :: past) (frameBelow (n + 1) past) frame := by
    intro n frame hn
    refine (h.suspended n frame hn).of_lastBound fun k hk other => hother _ other fun hcurrent => ?_
    cases frameBelow_inj hcurrent hk
  have hcurrent := h.current
  unfold Context.set
  generalize hid : currentFrame past = id, c.current = frame at hcurrent
  cases hcurrent with
  | global =>
    refine ⟨fun other => ?_, ?_, hsuspended, h.waiting, h.depth⟩
    · rw [Bindings.value?_bind, hbound, h.globals, hid]
      simp
    · show Holds _ (currentFrame past) _
      rw [hid]
      exact .global
  | @call k frame hcall =>
    refine ⟨fun other => ?_, ?_, hsuspended, h.waiting, h.depth⟩
    · rw [hother none other (by simp [hid])]
      exact h.globals other
    · show Holds _ (currentFrame past) _
      rw [hid]
      refine .call fun other => ?_
      rw [Bindings.value?_bind, hbound, hcall, hid]
      simp

/-- The frame of a new call is empty. -/
theorem enter (h : Represents past c) (name : String) :
    Represents (.enter name :: past) (c.enter name) where
  globals := h.globals
  current := .call fun other => (lastBound_of_length_le other (Nat.le_refl past.length)).symm
  suspended n frame hn := by
    cases n with
    | zero =>
      cases hn
      exact h.current.of_lastBound fun _ _ _ => rfl
    | succ n => exact (h.suspended n frame hn).of_lastBound fun _ _ _ => rfl
  waiting := by
    have hwaiting := h.waiting
    simp only [Context.enter, List.length_cons, left, entered]
    omega
  depth := by
    have hdepth := h.depth
    simp only [Context.enter, sinceReset, left, entered]
    omega

/-- The frame that has been waiting becomes current again. -/
theorem leave (h : Represents past c) (hproper : Proper (.leave :: past)) :
    Represents (.leave :: past) c.leave := by
  have hwaiting := h.waiting
  have hdepth := h.depth
  have hcount : left past + 1 ≤ entered past := hproper _ (List.suffix_refl _)
  obtain ⟨globals, current, suspended, depth⟩ := c
  cases suspended with
  | nil =>
    simp only [List.length_nil] at hwaiting
    omega
  | cons frame rest =>
    refine ⟨h.globals, ?_, fun n frame' hn => ?_, ?_, ?_⟩
    · exact (h.suspended 0 frame rfl).of_lastBound fun _ _ _ => rfl
    · exact (h.suspended (n + 1) frame' hn).of_lastBound fun _ _ _ => rfl
    · simp only [Context.leave, List.length_cons, left, entered] at hwaiting ⊢
      omega
    · simp only [Context.leave, sinceReset, left, entered] at hdepth ⊢
      omega

/-- The frames of calls keep what is bound in them, and go on waiting. -/
theorem reset (h : Represents past c) : Represents (.reset :: past) c.reset where
  globals _ := rfl
  current := .global
  suspended n frame hn := (h.suspended n frame hn).of_lastBound fun _ _ _ => by
    rw [lastBound, if_neg (by simp)]
  waiting := h.waiting
  depth := rfl

theorem get?_eq {history : List ContextStep} (h : Represents history c) (name : String) :
    c.get? name = (lastBound (currentFrame history) name history).or
      (lastBound none name history) := by
  have hcurrent := h.current
  unfold Context.get?
  generalize currentFrame history = id, c.current = frame at hcurrent
  cases hcurrent with
  | global => simp only [h.globals, Option.or_self]
  | call hcall => simp only [hcall, h.globals]

end Represents

/-- **A context holds what its history says.** -/
theorem represents_after {history : List ContextStep} (h : Proper history) :
    Represents history (after history) := by
  induction history with
  | nil => exact represents_empty
  | cons step past ih =>
    have hpast := ih h.tail
    cases step with
    | set name value => exact hpast.set name value
    | get name => exact hpast.get name
    | enter name => exact hpast.enter name
    | leave => exact hpast.leave h
    | reset => exact hpast.reset

/-! ### Leaving a call -/

/-- Steps that leave all calls they enter do not change the frames that wait. -/
theorem frameBelow_append {inner : List ContextStep} (h : Nested inner) (n : Nat)
    (past : List ContextStep) : frameBelow (n + 1) (inner ++ past) = frameBelow (n + 1) past := by
  induction h generalizing n past with
  | nil => rfl
  | set _ _ _ ih | get _ _ ih | reset _ ih => exact ih n past
  | @call inner later name _ _ ih ih' =>
    rw [List.cons_append, List.append_assoc, frameBelow, ih]
    exact ih' n past

theorem suspended_set (c : Context) (name : String) (v : Value) :
    (c.set name v).suspended = c.suspended := by
  unfold set
  split <;> rfl

theorem suspended_after_append {inner : List ContextStep} (h : Nested inner)
    (past : List ContextStep) : (after (inner ++ past)).suspended = (after past).suspended := by
  induction h generalizing past with
  | nil => rfl
  | set name value _ ih => exact (suspended_set _ name value).trans (ih past)
  | get _ _ ih | reset _ ih => exact ih past
  | @call inner later name _ _ ih ih' =>
    have hinner := ih (.enter name :: (later ++ past))
    rw [List.cons_append, List.append_assoc, List.cons_append]
    show (after (inner ++ .enter name :: (later ++ past))).leave.suspended = _
    unfold leave
    rw [hinner]
    exact ih' past

/-- The frame that is current before a call is entered is so again when it is left. -/
theorem current_after_leave {inner : List ContextStep} (h : Nested inner) (name : String)
    (before : List ContextStep) :
    (after (.leave :: (inner ++ .enter name :: before))).current = (after before).current := by
  have hinner := suspended_after_append h (.enter name :: before)
  show (after (inner ++ .enter name :: before)).leave.current = _
  unfold leave
  rw [hinner]
  rfl

/-- A call that is open has been entered, and since then calls were left as they were entered. -/
theorem exists_enter {past : List ContextStep} (hproper : Proper past)
    (hopen : left past < entered past) :
    ∃ inner name before, past = inner ++ .enter name :: before ∧ Nested inner := by
  induction hlength : past.length using Nat.strongRecOn generalizing past with
  | _ length ih =>
    subst hlength
    cases past with
    | nil => exact absurd hopen (Nat.lt_irrefl 0)
    | cons step rest =>
      have hrest := fun h => ih rest.length (Nat.lt_succ_self _) hproper.tail h rfl
      cases step with
      | enter name => exact ⟨[], name, rest, rfl, .nil⟩
      | set name value =>
        obtain ⟨inner, other, before, rfl, hinner⟩ := hrest hopen
        exact ⟨_, other, before, rfl, .set name value hinner⟩
      | get name =>
        obtain ⟨inner, other, before, rfl, hinner⟩ := hrest hopen
        exact ⟨_, other, before, rfl, .get name hinner⟩
      | reset =>
        obtain ⟨inner, other, before, rfl, hinner⟩ := hrest hopen
        exact ⟨_, other, before, rfl, .reset hinner⟩
      | leave =>
        -- the call that was left, and before it the one that is still open
        have hcount : left rest + 1 < entered rest := hopen
        obtain ⟨inner, name, before, rfl, hinner⟩ := hrest (Nat.lt_of_succ_lt hcount)
        have hbalance := hinner.left_eq
        simp only [left_append, entered_append, left, entered] at hcount
        have hbefore : Proper before := hproper.tail.of_append.tail
        obtain ⟨inner', name', before', rfl, hinner'⟩ :=
          ih before.length (by simp; omega) hbefore (by omega) rfl
        exact ⟨.leave :: (inner ++ .enter name :: inner'), name', before', by simp,
          .call name hinner hinner'⟩

theorem exists_set_of_lastBound {frame : Option Nat} {name : String} {value : Value}
    {history : List ContextStep} (h : lastBound frame name history = some value) :
    ∃ later other past, history = later ++ .set other value :: past ∧
      Text.fold name = Text.fold other ∧ currentFrame past = frame ∧
      (frame = none → .reset ∉ later) := by
  induction history with
  | nil => cases h
  | cons step rest ih =>
    -- a binding that was made before this step lasts, unless the step resets the global frame
    have hrest : lastBound frame name rest = some value → (frame = none → step ≠ .reset) →
        ∃ later other past, step :: rest = later ++ .set other value :: past ∧
          Text.fold name = Text.fold other ∧ currentFrame past = frame ∧
          (frame = none → .reset ∉ later) := by
      intro h hstep
      obtain ⟨later, other, past, rfl, hfold, hframe, hlater⟩ := ih h
      refine ⟨step :: later, other, past, rfl, hfold, hframe, fun hnone hmem => ?_⟩
      rcases List.mem_cons.mp hmem with hmem | hmem
      · exact hstep hnone hmem.symm
      · exact hlater hnone hmem
    cases step with
    | set other v =>
      rw [lastBound] at h
      split at h
      · rename_i hset
        cases h
        exact ⟨[], other, rest, rfl, hset.2, hset.1, fun _ => List.not_mem_nil⟩
      · exact hrest h fun _ hreset => nomatch hreset
    | get | enter | leave => exact hrest h fun _ hreset => nomatch hreset
    | reset =>
      rw [lastBound] at h
      split at h
      · cases h
      · rename_i hframe
        exact hrest h fun hnone => absurd hnone hframe

/-- **Own frame, then the global one, nothing between.** A name has the value that it, in any case,
was bound to last while the frame that is current now was current; if there is none, then the one
that it was bound to last in the global frame; in the global frame, all bindings before the last
reset are forgotten. A value that was bound while any other frame was current is not seen. Leaving a
call makes the frame current that was current when the call was entered, with all that was bound in
it. The depth is the number of calls entered since the last reset minus that of those left. -/
theorem after_sees_own_frame_then_global {history : List ContextStep} (hproper : Proper history) :
    let c := after history
    (∀ name, c.get? name = (lastBound (currentFrame history) name history).or
      (lastBound none name history)) ∧
    (∀ name value, c.get? name = some value → ∃ later other past,
      history = later ++ .set other value :: past ∧ Text.fold name = Text.fold other ∧
      (currentFrame past = currentFrame history ∨ currentFrame past = none) ∧
      (currentFrame past = none → .reset ∉ later)) ∧
    (∀ past, history = .leave :: past → ∃ inner name before,
      past = inner ++ .enter name :: before ∧ Nested inner ∧
      currentFrame history = currentFrame before ∧ c.current = (after before).current) ∧
    c.depth = entered (sinceReset history) - left (sinceReset history) := by
  intro c
  have hrepresents : Represents history c := represents_after hproper
  refine ⟨hrepresents.get?_eq, fun name value hvalue => ?_, fun past hpast => ?_,
    hrepresents.depth⟩
  · rw [hrepresents.get?_eq] at hvalue
    rcases Option.or_eq_some_iff.mp hvalue with hown | ⟨-, hglobal⟩
    · obtain ⟨later, other, past, hsplit, hfold, hframe, hlater⟩ := exists_set_of_lastBound hown
      exact ⟨later, other, past, hsplit, hfold, .inl hframe, fun hnone => hlater (hframe ▸ hnone)⟩
    · obtain ⟨later, other, past, hsplit, hfold, hframe, hlater⟩ := exists_set_of_lastBound hglobal
      exact ⟨later, other, past, hsplit, hfold, .inr hframe, fun _ => hlater rfl⟩
  · subst hpast
    have hcount : left past + 1 ≤ entered past := hproper _ (List.suffix_refl _)
    obtain ⟨inner, name, before, rfl, hinner⟩ := exists_enter hproper.tail hcount
    refine ⟨inner, name, before, rfl, hinner, ?_, current_after_leave hinner name before⟩
    exact frameBelow_append hinner 0 (.enter name :: before)

/-- Two calls of `f` are entered, the variables are forgotten, and the inner call is left: the outer
frame is current with its value of `x`, which was written `X`, one call has been left that was not
entered since, and when the outer call is left too, the global value is the new one. -/
theorem after_sees_own_frame_then_global_around_reset :
    let inner : List ContextStep := [.leave, .set "x" (.number 3), .reset, .enter "f",
      .set "X" (.number 2), .enter "f", .set "x" (.number 1)]
    let outer : List ContextStep := .leave :: .get "x" :: inner
    Proper outer ∧
      (after inner).get? "x" = some (.number 2) ∧ (after inner).get? "y" = none ∧
      (after inner).depth = -1 ∧ (after outer).get? "X" = some (.number 3) ∧
      (after outer).depth = -2 := by
  intro inner outer
  have hproper : Proper outer := by
    unfold outer inner
    intro past hpast
    simp only [List.suffix_cons_iff, List.suffix_nil] at hpast
    rcases hpast with rfl | rfl | rfl | rfl | rfl | rfl | rfl | rfl | rfl | rfl <;> decide
  have hinner : Proper inner := hproper.tail.tail
  obtain ⟨hget, -, -, hdepth⟩ := after_sees_own_frame_then_global hinner
  obtain ⟨hgetOuter, -, -, hdepthOuter⟩ := after_sees_own_frame_then_global hproper
  have hcase : Text.fold "x" = Text.fold "X" := by decide +kernel
  have hother : Text.fold "y" ≠ Text.fold "X" := by decide +kernel
  refine ⟨hproper, (hget "x").trans ?_, (hget "y").trans ?_, hdepth, (hgetOuter "X").trans ?_,
    hdepthOuter⟩
  · simp [inner, lastBound, currentFrame, frameBelow, hcase]
  · simp [inner, lastBound, currentFrame, frameBelow, hcase, hother]
  · simp [outer, inner, lastBound, currentFrame, frameBelow, hcase]

end Context

end Reckon
