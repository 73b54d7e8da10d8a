import Reckon.Proofs.Session.Purity
import Reckon.Proofs.Table

/-!
# Evaluation does not look at spans

The bare form of a session has the spans forgotten in all function bodies. Evaluating the bare form
of a node in the bare form of a session has the same outcome and ends in the bare form of the
session that the evaluation proper ends in (`eval_bare`). So two sessions with the same bare form
cannot be told apart by nodes with the same bare form (`evaluate_eq_of_bare`).
-/

namespace Reckon

namespace Node

mutual

/-- What is forgotten stays forgotten. -/
theorem bare_bare : ∀ n : Node, n.bare.bare = n.bare
  | number .. | reference .. | comment .. | unknown _ => by simp [bare]
  | unary _ operand _ => by simp [bare, operand.bare_bare]
  | binary left _ right _ => by simp [bare, left.bare_bare, right.bare_bare]
  | call _ arguments _ => by simp [bare, bareAll_bareAll arguments]
  | assignment _ value _ => by simp [bare, value.bare_bare]
  | definition _ _ body _ => by simp [bare, body.bare_bare]

theorem bareAll_bareAll : ∀ ns : List Node, bareAll (bareAll ns) = bareAll ns
  | [] => by simp [bareAll]
  | n :: ns => by simp [bareAll, n.bare_bare, bareAll_bareAll ns]

end

end Node

/-- The function with the spans of its body forgotten. -/
def UserFunction.bare (f : UserFunction) : UserFunction := { f with body := f.body.bare }

namespace Session

/-- The session with the spans of all function bodies forgotten. -/
def bare (s : Session) : Session := { s with functions := s.functions.mapValues UserFunction.bare }

theorem function?_bare (s : Session) (name : String) :
    s.bare.function? name = (s.function? name).map UserFunction.bare :=
  Table.get?_mapValues ..

theorem function?_bare_of_eq {s : Session} {name : String} {f : UserFunction}
    (h : s.function? name = some f) : s.bare.function? name = some f.bare := by
  rw [function?_bare, h]
  rfl

theorem literal_bare {s s' : Session} {x : Float} {unit : Option String} {o : Except Failure Value}
    (h : s.literal x unit = (o, s')) : s.bare.literal x unit = (o, s'.bare) := by
  rcases literal_cases h with ⟨rfl, hany⟩ | ⟨text, -, rfl, hany⟩
  · exact hany _
  · exact hany s.bare rfl

theorem define_bare {s s' : Session} {name : String} {parameters : List String} {body : Node}
    {o : Except Failure Value} (h : s.define name parameters body = (o, s')) :
    s.bare.define name parameters body.bare = (o, s'.bare) := by
  unfold define at h ⊢
  split at h
  · rename_i hduplicate
    cases h
    exact if_pos hduplicate
  · rename_i hduplicate
    cases h
    rw [if_neg hduplicate]
    unfold bare
    rw [Table.mapValues_insert]
    rfl

theorem operate_bare {s s' : Session} {operator : String} {left right : Value}
    {o : Except Failure Value} (h : s.operate operator left right = (o, s')) :
    s.bare.operate operator left right = (o, s'.bare) := by
  cases h
  rfl

theorem bindAll_bare (bindings : List (String × Value)) :
    ∀ s : Session, s.bare.bindAll bindings = (s.bindAll bindings).bare := by
  induction bindings with
  | nil => exact fun _ => rfl
  | cons b rest ih => exact fun s => ih (s.bind b.1 b.2)

theorem enter_bare (s : Session) (f : UserFunction) (arguments : List Value) :
    s.bare.enter f.bare arguments = (s.enter f arguments).bare :=
  bindAll_bare _ { s with context := s.context.enter f.name }

theorem leave_bare (s : Session) : s.bare.leave = s.leave.bare := rfl

mutual

theorem Evaluates.bare : ∀ {calls : Nat} {room : Room} {s s' : Session} {n : Node}
    {o : Except Failure Value}, Evaluates calls room s n o s' →
    Evaluates calls room s.bare n.bare o s'.bare
  | _, _, _, _, _, _, .tooDeep hroom => .tooDeep hroom
  | _, _, _, _, _, _, .number hroom h => by rw [Node.bare]; exact .number hroom (literal_bare h)
  | _, _, _, _, _, _, .reference hroom => by rw [Node.bare]; exact .reference hroom
  | _, _, _, _, _, _, .comment hroom => by rw [Node.bare]; exact .comment hroom
  | _, _, _, _, _, _, .unknown hroom => by rw [Node.bare]; exact .unknown hroom
  | _, _, _, _, _, _, .definition hroom h => by
    rw [Node.bare]; exact .definition hroom (define_bare h)
  | _, _, _, _, _, _, .unaryFails hroom h => by rw [Node.bare]; exact .unaryFails hroom h.bare
  | _, _, _, _, _, _, .unary hroom h => by rw [Node.bare]; exact .unary hroom h.bare
  | _, _, _, _, _, _, .leftFails hroom h => by rw [Node.bare]; exact .leftFails hroom h.bare
  | _, _, _, _, _, _, .rightFails hroom hl hr => by
    rw [Node.bare]; exact .rightFails hroom hl.bare hr.bare
  | _, _, _, _, _, _, .binary hroom hl hr h => by
    rw [Node.bare]; exact .binary hroom hl.bare hr.bare (operate_bare h)
  | _, _, _, _, _, _, .assignmentFails hroom h => by
    rw [Node.bare]; exact .assignmentFails hroom h.bare
  | _, _, _, _, _, _, .assignment hroom h => by rw [Node.bare]; exact .assignment hroom h.bare
  | _, _, _, _, _, _, .argumentFails hroom h => by rw [Node.bare]; exact .argumentFails hroom h.bare
  | _, _, _, _, _, _, .builtin hroom h hf => by rw [Node.bare]; exact .builtin hroom h.bare hf
  | _, _, _, _, _, _, .undefinedFunction hroom h hbuiltin hf => by
    rw [Node.bare]
    exact .undefinedFunction hroom h.bare hbuiltin (by rw [function?_bare, hf]; rfl)
  | _, _, _, _, _, _, .argumentCount (f := f) hroom h hbuiltin hf hcount => by
    rw [Node.bare]
    exact .argumentCount (f := f.bare) hroom h.bare hbuiltin (function?_bare_of_eq hf) hcount
  | _, _, _, _, _, _, .callDepth hroom h hbuiltin hf hcount => by
    rw [Node.bare]
    exact .callDepth hroom h.bare hbuiltin (function?_bare_of_eq hf) hcount
  | _, _, _, _, _, _, .entryFails (f := f) hroom h hbuiltin hf hcount hadmits => by
    rw [Node.bare]
    exact .entryFails (f := f.bare) hroom h.bare hbuiltin (function?_bare_of_eq hf) hcount hadmits
  | _, _, _, _, _, _, .call hroom h hbuiltin hf hcount hadmits hbody => by
    rw [Node.bare, ← leave_bare]
    refine .call hroom h.bare hbuiltin (function?_bare_of_eq hf) hcount hadmits ?_
    rw [enter_bare]
    exact hbody.bare

theorem EvaluatesAll.bare : ∀ {calls : Nat} {room : Room} {s s' : Session} {ns : List Node}
    {o : Except Failure (List Value)}, EvaluatesAll calls room s ns o s' →
    EvaluatesAll calls room s.bare (Node.bareAll ns) o s'.bare
  | _, _, _, _, _, _, .nil => by rw [Node.bareAll]; exact .nil
  | _, _, _, _, _, _, .headFails h => by rw [Node.bareAll]; exact .headFails h.bare
  | _, _, _, _, _, _, .tailFails h hs => by rw [Node.bareAll]; exact .tailFails h.bare hs.bare
  | _, _, _, _, _, _, .cons h hs => by rw [Node.bareAll]; exact .cons h.bare hs.bare

end

/-- **Evaluation does not look at spans.** -/
theorem eval_bare (calls : Nat) (room : Room) (s : Session) (n : Node) :
    eval calls room s.bare n.bare = ((eval calls room s n).1, (eval calls room s n).2.bare) :=
  (eval_evaluates rfl).bare.eval_eq

theorem evaluate_bare (limits : Limits) (s : Session) (n : Node) :
    s.bare.evaluate limits n.bare = ((s.evaluate limits n).1, (s.evaluate limits n).2.bare) := by
  unfold evaluate
  have hcalls : s.bare.callsLeft limits = s.callsLeft limits := rfl
  rw [hcalls, eval_bare]
  rcases eval (s.callsLeft limits) limits.nesting s n with ⟨(e | a) | v, s'⟩
  · rfl
  · cases a <;> rfl
  · rfl

/-- Sessions that differ in spans only give the same result for nodes that do, and still differ in
spans only. -/
theorem evaluate_eq_of_bare (limits : Limits) {s t : Session} {n n' : Node}
    (hs : s.bare = t.bare) (hn : n.bare = n'.bare) :
    (s.evaluate limits n).1 = (t.evaluate limits n').1 ∧
      (s.evaluate limits n).2.bare = (t.evaluate limits n').2.bare := by
  have h := evaluate_bare limits s n
  rw [hs, hn, evaluate_bare limits t n'] at h
  exact ⟨congrArg (·.1) h.symm, congrArg (·.2) h.symm⟩

end Session

end Reckon
