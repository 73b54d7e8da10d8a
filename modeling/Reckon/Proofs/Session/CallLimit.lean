import Reckon.Proofs.Session.Termination

/-!
# A higher limit of open calls

The calls that may still be opened are looked at in one place only, where a call is about to be
opened. An evaluation that does not end there, with the error that the limit is there for, goes the
same way if more calls may be opened (`Evaluates.moreCalls`), even if it fails for another reason in
the innermost of many calls.

So raising the limit turns some outcomes of the class `recursionLimit` into others, and changes no
other outcome (`evaluate_of_raised_limit`).
-/

namespace Reckon.Session

/-- An evaluation that does not have the error about too many calls is the same if more calls may be
opened. -/
theorem Evaluates.moreCalls {calls calls' : Nat} {room : Room} {s s' : Session} {n : Node}
    {o : Except Failure Value} (hle : calls ≤ calls') (h : Evaluates calls room s n o s')
    (ho : ∀ name, o ≠ .error (.error (.callDepth name))) : Evaluates calls' room s n o s' := by
  induction hle with
  | refl => exact h
  | step _ ih => exact ih.anotherCall.resolve_left fun ⟨name, hdepth⟩ => ho name hdepth

/-- A higher limit leaves more calls. -/
theorem callsLeft_mono (s : Session) {limits limits' : Limits} (h : limits.calls ≤ limits'.calls) :
    s.callsLeft limits ≤ s.callsLeft limits' := by
  unfold callsLeft
  omega

/-- **Raising the limit of open calls changes no outcome but an error about limits.** If a node has a
result of another class in a session, or aborts, then it has the same outcome under any higher limit
and leaves the same session: the same variables, functions and units. -/
theorem evaluate_of_raised_limit (s : Session) (n : Node) (nesting : Room)
    {calls calls' : Int} (hle : calls ≤ calls')
    (h : ∀ message, (s.evaluate ⟨calls, nesting⟩ n).1 ≠ .ok (.error message .recursionLimit)) :
    s.evaluate ⟨calls', nesting⟩ n = s.evaluate ⟨calls, nesting⟩ n := by
  rcases heval : eval (s.callsLeft ⟨calls, nesting⟩) nesting s n with ⟨o, s'⟩
  -- the error about too many calls would have been reported
  have ho : ∀ name, o ≠ .error (.error (.callDepth name)) := by
    rintro name rfl
    obtain ⟨message, hmessage⟩ := Result.ofError_eq (.callDepth name)
    refine h message ?_
    unfold evaluate
    rw [heval]
    exact congrArg Except.ok hmessage
  have hleft : s.callsLeft ⟨calls, nesting⟩ ≤ s.callsLeft ⟨calls', nesting⟩ := callsLeft_mono s hle
  have hraised := ((eval_evaluates heval).moreCalls hleft ho).eval_eq
  unfold evaluate
  rw [heval, hraised]

/-- A function whose body uses a variable that is bound nowhere fails in the second of two nested
calls under a limit of two and under one of fifty, where a limit of one is too low to get there. -/
theorem evaluate_of_raised_limit_in_second_call :
    let inner : UserFunction := ⟨"f", ["x"], .reference "y" .nowhere⟩
    let outer : UserFunction := ⟨"g", ["x"], .call "f" [.reference "x" .nowhere] .nowhere⟩
    let s : Session := { fresh .standard with functions := [("f", inner), ("g", outer)] }
    let n : Node := .call "g" [.number 1 none .nowhere] .nowhere
    (s.evaluate ⟨1, .unlimited⟩ n).1 = .ok (.ofError (.callDepth "f")) ∧
      (s.evaluate ⟨2, .unlimited⟩ n).1 = .ok (.ofError (.undefinedVariable "y")) ∧
      s.evaluate ⟨50, .unlimited⟩ n = s.evaluate ⟨2, .unlimited⟩ n := by
  intro inner outer s n
  have hone : EvaluatesAll 1 .unlimited s [.number 1 none .nowhere] (.ok [.number 1]) s :=
    .cons (.number rfl rfl) .nil
  have htwo : EvaluatesAll 2 .unlimited s [.number 1 none .nowhere] (.ok [.number 1]) s :=
    .cons (.number rfl rfl) .nil
  have hargument : ∀ calls, EvaluatesAll calls .unlimited (s.enter outer [.number 1])
      [.reference "x" .nowhere] (.ok [.number 1]) (s.enter outer [.number 1]) :=
    fun calls => .cons (.reference rfl) .nil
  have hlow : Evaluates 1 .unlimited s n (.error (.error (.callDepth "f"))) _ :=
    .call rfl hone (by decide) rfl rfl rfl (.callDepth rfl (hargument 0) (by decide) rfl rfl)
  have hfails : Evaluates 2 .unlimited s n (.error (.error (.undefinedVariable "y"))) _ :=
    .call rfl htwo (by decide) rfl rfl rfl
      (.call rfl (hargument 1) (by decide) rfl rfl rfl (.reference rfl))
  have hresult : (s.evaluate ⟨2, .unlimited⟩ n).1 = .ok (.ofError (.undefinedVariable "y")) := by
    unfold evaluate
    rw [show s.callsLeft ⟨2, .unlimited⟩ = 2 from rfl, hfails.eval_eq]
  refine ⟨?_, hresult, evaluate_of_raised_limit s n .unlimited (by decide) fun message hmessage => ?_⟩
  · unfold evaluate
    rw [show s.callsLeft ⟨1, .unlimited⟩ = 1 from rfl, hlow.eval_eq]
  · obtain ⟨text, htext⟩ := Result.ofError_eq (.undefinedVariable "y")
    rw [hresult, htext] at hmessage
    cases hmessage

end Reckon.Session
