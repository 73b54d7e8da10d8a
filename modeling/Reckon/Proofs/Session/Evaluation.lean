import Reckon.Session

/-!
# Evaluation by rules

`Evaluates calls room s n o s'` says by rules, one for each way an evaluation can go, that `n` in the
session `s` comes out as `o` and leaves the session `s'`. The rules say the same as `eval`
(`eval_evaluates`, `Evaluates.eval_eq`), so what every evaluation preserves is proved by one case for
each rule.
-/

namespace Reckon.Session

theorem eq_ok_of_lift {outcome : Except EvalError Value} {v : Value} (h : lift outcome = .ok v) :
    outcome = .ok v := by
  cases outcome with
  | error e => cases h
  | ok w => cases h; rfl

mutual

/-- `Evaluates calls room s n o s'`: the node `n` has the outcome `o` in `s` and leaves `s'`. -/
inductive Evaluates : Nat → Room → Session → Node → Except Failure Value → Session → Prop where
  | tooDeep {calls : Nat} {room : Room} {s : Session} {n : Node} (hroom : room.deeper = none) :
      Evaluates calls room s n (.error (.error .nesting)) s
  | number {calls : Nat} {room inner : Room} {s s' : Session} {x : Float}
      {unit : Option String} {span : Span} {o : Except Failure Value}
      (hroom : room.deeper = some inner) : s.literal x unit = (o, s') →
      Evaluates calls room s (.number x unit span) o s'
  | reference {calls : Nat} {room inner : Room} {s : Session} {name : String} {span : Span}
      (hroom : room.deeper = some inner) :
      Evaluates calls room s (.reference name span) (s.fetch name) s
  | comment {calls : Nat} {room inner : Room} {s : Session} {text : String} {span : Span}
      (hroom : room.deeper = some inner) :
      Evaluates calls room s (.comment text span) (.ok (.number 0)) s
  | unknown {calls : Nat} {room inner : Room} {s : Session} {form : String}
      (hroom : room.deeper = some inner) :
      Evaluates calls room s (.unknown form) (.error (.error (.unsupportedNode form))) s
  | definition {calls : Nat} {room inner : Room} {s s' : Session} {name : String}
      {parameters : List String} {body : Node} {span : Span} {o : Except Failure Value}
      (hroom : room.deeper = some inner) : s.define name parameters body = (o, s') →
      Evaluates calls room s (.definition name parameters body span) o s'
  | unaryFails {calls : Nat} {room inner : Room} {s s' : Session} {operator : String}
      {operand : Node} {span : Span} {e : Failure} (hroom : room.deeper = some inner) :
      Evaluates calls inner s operand (.error e) s' →
      Evaluates calls room s (.unary operator operand span) (.error e) s'
  | unary {calls : Nat} {room inner : Room} {s s' : Session} {operator : String}
      {operand : Node} {span : Span} {v : Value} (hroom : room.deeper = some inner) :
      Evaluates calls inner s operand (.ok v) s' →
      Evaluates calls room s (.unary operator operand span) (Arithmetic.unary operator v) s'
  | leftFails {calls : Nat} {room inner : Room} {s s' : Session} {left right : Node}
      {operator : String} {span : Span} {e : Failure} (hroom : room.deeper = some inner) :
      Evaluates calls inner s left (.error e) s' →
      Evaluates calls room s (.binary left operator right span) (.error e) s'
  | rightFails {calls : Nat} {room inner : Room} {s s' s'' : Session} {left right : Node}
      {operator : String} {span : Span} {l : Value} {e : Failure}
      (hroom : room.deeper = some inner) :
      Evaluates calls inner s left (.ok l) s' → Evaluates calls inner s' right (.error e) s'' →
      Evaluates calls room s (.binary left operator right span) (.error e) s''
  | binary {calls : Nat} {room inner : Room} {s s₁ s₂ s' : Session} {left right : Node}
      {operator : String} {span : Span} {l r : Value} {o : Except Failure Value}
      (hroom : room.deeper = some inner) :
      Evaluates calls inner s left (.ok l) s₁ → Evaluates calls inner s₁ right (.ok r) s₂ →
      s₂.operate operator l r = (o, s') →
      Evaluates calls room s (.binary left operator right span) o s'
  | assignmentFails {calls : Nat} {room inner : Room} {s s' : Session} {name : String}
      {value : Node} {span : Span} {e : Failure} (hroom : room.deeper = some inner) :
      Evaluates calls inner s value (.error e) s' →
      Evaluates calls room s (.assignment name value span) (.error e) s'
  | assignment {calls : Nat} {room inner : Room} {s s' : Session} {name : String}
      {value : Node} {span : Span} {v : Value} (hroom : room.deeper = some inner) :
      Evaluates calls inner s value (.ok v) s' →
      Evaluates calls room s (.assignment name value span) (.ok v) (s'.bind name v)
  | argumentFails {calls : Nat} {room inner : Room} {s s' : Session} {name : String}
      {arguments : List Node} {span : Span} {e : Failure} (hroom : room.deeper = some inner) :
      EvaluatesAll calls inner s arguments (.error e) s' →
      Evaluates calls room s (.call name arguments span) (.error e) s'
  | builtin {calls : Nat} {room inner : Room} {s s' : Session} {name : String}
      {arguments : List Node} {span : Span} {values : List Value} {f : Builtin}
      (hroom : room.deeper = some inner) :
      EvaluatesAll calls inner s arguments (.ok values) s' → Builtin.ofName? name = some f →
      Evaluates calls room s (.call name arguments span) (lift (f.call values)) s'
  | undefinedFunction {calls : Nat} {room inner : Room} {s s' : Session} {name : String}
      {arguments : List Node} {span : Span} {values : List Value}
      (hroom : room.deeper = some inner) :
      EvaluatesAll calls inner s arguments (.ok values) s' → Builtin.ofName? name = none →
      s'.function? name = none →
      Evaluates calls room s (.call name arguments span)
        (.error (.error (.undefinedFunction name))) s'
  | argumentCount {calls : Nat} {room inner : Room} {s s' : Session} {name : String}
      {arguments : List Node} {span : Span} {values : List Value} {f : UserFunction}
      (hroom : room.deeper = some inner) :
      EvaluatesAll calls inner s arguments (.ok values) s' → Builtin.ofName? name = none →
      s'.function? name = some f → f.parameters.length ≠ values.length →
      Evaluates calls room s (.call name arguments span)
        (.error (.error (.argumentCount name (toString f.parameters.length) values.length))) s'
  | callDepth {room inner : Room} {s s' : Session} {name : String}
      {arguments : List Node} {span : Span} {values : List Value} {f : UserFunction}
      (hroom : room.deeper = some inner) :
      EvaluatesAll 0 inner s arguments (.ok values) s' → Builtin.ofName? name = none →
      s'.function? name = some f → f.parameters.length = values.length →
      Evaluates 0 room s (.call name arguments span) (.error (.error (.callDepth name))) s'
  | entryFails {calls : Nat} {room inner : Room} {s s' : Session} {name : String}
      {arguments : List Node} {span : Span} {values : List Value} {f : UserFunction}
      (hroom : room.deeper = some inner) :
      EvaluatesAll (calls + 1) inner s arguments (.ok values) s' → Builtin.ofName? name = none →
      s'.function? name = some f → f.parameters.length = values.length →
      inner.admits s'.context.depth = false →
      Evaluates (calls + 1) room s (.call name arguments span) (.error (.error .nesting))
        (s'.begin f)
  | call {calls : Nat} {room inner : Room} {s s' s'' : Session} {name : String}
      {arguments : List Node} {span : Span} {values : List Value} {f : UserFunction}
      {o : Except Failure Value} (hroom : room.deeper = some inner) :
      EvaluatesAll (calls + 1) inner s arguments (.ok values) s' → Builtin.ofName? name = none →
      s'.function? name = some f → f.parameters.length = values.length →
      inner.admits s'.context.depth = true →
      Evaluates calls inner (s'.enter f values) f.body o s'' →
      Evaluates (calls + 1) room s (.call name arguments span) o s''.leave

/-- `EvaluatesAll calls room s ns o s'`: the same for several nodes, from left to right. -/
inductive EvaluatesAll :
    Nat → Room → Session → List Node → Except Failure (List Value) → Session → Prop where
  | nil {calls : Nat} {room : Room} {s : Session} : EvaluatesAll calls room s [] (.ok []) s
  | headFails {calls : Nat} {room : Room} {s s' : Session} {n : Node} {rest : List Node}
      {e : Failure} : Evaluates calls room s n (.error e) s' →
      EvaluatesAll calls room s (n :: rest) (.error e) s'
  | tailFails {calls : Nat} {room : Room} {s s' s'' : Session} {n : Node} {rest : List Node}
      {v : Value} {e : Failure} : Evaluates calls room s n (.ok v) s' →
      EvaluatesAll calls room s' rest (.error e) s'' →
      EvaluatesAll calls room s (n :: rest) (.error e) s''
  | cons {calls : Nat} {room : Room} {s s' s'' : Session} {n : Node} {rest : List Node}
      {v : Value} {vs : List Value} : Evaluates calls room s n (.ok v) s' →
      EvaluatesAll calls room s' rest (.ok vs) s'' →
      EvaluatesAll calls room s (n :: rest) (.ok (v :: vs)) s''

end

mutual

theorem eval_evaluates {calls : Nat} {room : Room} {s s' : Session} {n : Node}
    {o : Except Failure Value} (h : eval calls room s n = (o, s')) :
    Evaluates calls room s n o s' := by
  rw [eval.eq_def] at h
  split at h
  · rename_i hroom
    cases h
    exact .tooDeep hroom
  · rename_i room hroom
    cases n with
    | number x unit _ => exact .number hroom h
    | reference name _ => cases h; exact .reference hroom
    | comment _ _ => cases h; exact .comment hroom
    | unknown form => cases h; exact .unknown hroom
    | definition name parameters body _ => exact .definition hroom h
    | unary operator operand _ =>
      simp only at h
      split at h
      · rename_i hv; cases h; exact .unary hroom (eval_evaluates hv)
      · rename_i he; cases h; exact .unaryFails hroom (eval_evaluates he)
    | binary left operator right _ =>
      simp only at h
      split at h
      · rename_i he; cases h; exact .leftFails hroom (eval_evaluates he)
      · rename_i hl
        split at h
        · rename_i he; cases h; exact .rightFails hroom (eval_evaluates hl) (eval_evaluates he)
        · rename_i hr; exact .binary hroom (eval_evaluates hl) (eval_evaluates hr) h
    | assignment name value _ =>
      simp only at h
      split at h
      · rename_i he; cases h; exact .assignmentFails hroom (eval_evaluates he)
      · rename_i hv; cases h; exact .assignment hroom (eval_evaluates hv)
    | call name arguments _ =>
      simp only at h
      split at h
      · rename_i he; cases h; exact .argumentFails hroom (evalAll_evaluates he)
      · rename_i hargs
        have hargs := evalAll_evaluates hargs
        split at h
        · rename_i hf; cases h; exact .builtin hroom hargs hf
        · rename_i hbuiltin
          split at h
          · rename_i hf; cases h; exact .undefinedFunction hroom hargs hbuiltin hf
          · rename_i hf
            split at h
            · rename_i hcount; cases h; exact .argumentCount hroom hargs hbuiltin hf hcount
            · rename_i hcount
              have hcount := Decidable.of_not_not hcount
              split at h
              · cases h; exact .callDepth hroom hargs hbuiltin hf hcount
              · split at h
                · rename_i hadmits
                  cases h
                  exact .call hroom hargs hbuiltin hf hcount hadmits (eval_evaluates rfl)
                · rename_i hadmits
                  cases h
                  exact .entryFails hroom hargs hbuiltin hf hcount (by simpa using hadmits)
termination_by (calls, sizeOf n)

theorem evalAll_evaluates {calls : Nat} {room : Room} {s s' : Session} {ns : List Node}
    {o : Except Failure (List Value)} (h : evalAll calls room s ns = (o, s')) :
    EvaluatesAll calls room s ns o s' := by
  rw [evalAll.eq_def] at h
  cases ns with
  | nil => cases h; exact .nil
  | cons n rest =>
    simp only at h
    split at h
    · rename_i he; cases h; exact .headFails (eval_evaluates he)
    · rename_i hv
      split at h
      · rename_i he; cases h; exact .tailFails (eval_evaluates hv) (evalAll_evaluates he)
      · rename_i hvs; cases h; exact .cons (eval_evaluates hv) (evalAll_evaluates hvs)
termination_by (calls, sizeOf ns)

end

mutual

theorem Evaluates.eval_eq : ∀ {calls : Nat} {room : Room} {s s' : Session} {n : Node}
    {o : Except Failure Value}, Evaluates calls room s n o s' → eval calls room s n = (o, s')
  | _, _, _, _, _, _, .tooDeep hroom => by rw [eval.eq_def, hroom]
  | _, _, _, _, _, _, .number hroom h => by rw [eval.eq_def, hroom]; exact h
  | _, _, _, _, _, _, .reference hroom => by rw [eval.eq_def, hroom]
  | _, _, _, _, _, _, .comment hroom => by rw [eval.eq_def, hroom]
  | _, _, _, _, _, _, .unknown hroom => by rw [eval.eq_def, hroom]
  | _, _, _, _, _, _, .definition hroom h => by rw [eval.eq_def, hroom]; exact h
  | _, _, _, _, _, _, .unaryFails hroom h => by rw [eval.eq_def, hroom]; simp only [h.eval_eq]
  | _, _, _, _, _, _, .unary hroom h => by rw [eval.eq_def, hroom]; simp only [h.eval_eq]
  | _, _, _, _, _, _, .leftFails hroom h => by rw [eval.eq_def, hroom]; simp only [h.eval_eq]
  | _, _, _, _, _, _, .rightFails hroom hl hr => by
    rw [eval.eq_def, hroom]; simp only [hl.eval_eq, hr.eval_eq]
  | _, _, _, _, _, _, .binary hroom hl hr h => by
    rw [eval.eq_def, hroom]; simp only [hl.eval_eq, hr.eval_eq, h]
  | _, _, _, _, _, _, .assignmentFails hroom h => by
    rw [eval.eq_def, hroom]; simp only [h.eval_eq]
  | _, _, _, _, _, _, .assignment hroom h => by rw [eval.eq_def, hroom]; simp only [h.eval_eq]
  | _, _, _, _, _, _, .argumentFails hroom h => by
    rw [eval.eq_def, hroom]; simp only [h.evalAll_eq]
  | _, _, _, _, _, _, .builtin hroom h hf => by
    rw [eval.eq_def, hroom]; simp only [h.evalAll_eq, hf]
  | _, _, _, _, _, _, .undefinedFunction hroom h hbuiltin hf => by
    rw [eval.eq_def, hroom]; simp only [h.evalAll_eq, hbuiltin, hf]
  | _, _, _, _, _, _, .argumentCount hroom h hbuiltin hf hcount => by
    rw [eval.eq_def, hroom]; simp only [h.evalAll_eq, hbuiltin, hf, if_pos hcount]
  | _, _, _, _, _, _, .callDepth hroom h hbuiltin hf hcount => by
    rw [eval.eq_def, hroom]; simp only [h.evalAll_eq, hbuiltin, hf, hcount, ne_eq, not_true, if_false]
  | _, _, _, _, _, _, .entryFails hroom h hbuiltin hf hcount hadmits => by
    rw [eval.eq_def, hroom]
    simp only [h.evalAll_eq, hbuiltin, hf, hcount, ne_eq, not_true, if_false, hadmits, reduceCtorEq]
  | _, _, _, _, _, _, .call hroom h hbuiltin hf hcount hadmits hbody => by
    rw [eval.eq_def, hroom]
    simp only [h.evalAll_eq, hbuiltin, hf, hcount, ne_eq, not_true, if_false, hadmits, if_true,
      hbody.eval_eq]

theorem EvaluatesAll.evalAll_eq : ∀ {calls : Nat} {room : Room} {s s' : Session}
    {ns : List Node} {o : Except Failure (List Value)}, EvaluatesAll calls room s ns o s' →
    evalAll calls room s ns = (o, s')
  | _, _, _, _, _, _, .nil => by rw [evalAll.eq_def]
  | _, _, _, _, _, _, .headFails h => by rw [evalAll.eq_def]; simp only [h.eval_eq]
  | _, _, _, _, _, _, .tailFails h hs => by
    rw [evalAll.eq_def]; simp only [h.eval_eq, hs.evalAll_eq]
  | _, _, _, _, _, _, .cons h hs => by rw [evalAll.eq_def]; simp only [h.eval_eq, hs.evalAll_eq]

end

end Reckon.Session
