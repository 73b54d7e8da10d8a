import Mathlib.Logic.Relation
import Reckon.Proofs.Session.Guarantee
import Reckon.Proofs.Unit.Inquiry

/-!
# What an evaluation comes to

To evaluate a node in a session is a task, and it spawns tasks: the parts of the node, and the bodies
of the functions that it calls, each in the session that the evaluation has reached by then. A task
reaches whatever it spawns and whatever these reach. What a guarantee asks of nodes and sessions
holds of all of them (`Guarantee.spawned`).

`Task.Asks` says which questions about units come up in a task, that is in the operators that it
reaches.
-/

namespace Reckon.Session

/-- The evaluation of a node in a session, within limits. -/
structure Task where
  /-- How many further calls may be opened. -/
  calls : Nat
  /-- The depth of nesting that is left. -/
  room : Room
  /-- The session. -/
  session : Session
  /-- The node. -/
  node : Node

/-- The first task has the second one done on its way. -/
inductive Spawns : Task → Task → Prop where
  | operand {calls : Nat} {room inner : Room} {s : Session} {operator : String}
      {operand : Node} {span : Span} (hroom : room.deeper = some inner) :
      Spawns ⟨calls, room, s, .unary operator operand span⟩ ⟨calls, inner, s, operand⟩
  | left {calls : Nat} {room inner : Room} {s : Session} {operator : String}
      {left right : Node} {span : Span} (hroom : room.deeper = some inner) :
      Spawns ⟨calls, room, s, .binary left operator right span⟩ ⟨calls, inner, s, left⟩
  | right {calls : Nat} {room inner : Room} {s s' : Session} {operator : String}
      {left right : Node} {span : Span} {l : Value} (hroom : room.deeper = some inner) :
      Evaluates calls inner s left (.ok l) s' →
      Spawns ⟨calls, room, s, .binary left operator right span⟩ ⟨calls, inner, s', right⟩
  | value {calls : Nat} {room inner : Room} {s : Session} {name : String} {value : Node}
      {span : Span} (hroom : room.deeper = some inner) :
      Spawns ⟨calls, room, s, .assignment name value span⟩ ⟨calls, inner, s, value⟩
  | argument {calls : Nat} {room inner : Room} {s s' : Session} {name : String}
      {before after : List Node} {n : Node} {span : Span} {values : List Value}
      (hroom : room.deeper = some inner) : EvaluatesAll calls inner s before (.ok values) s' →
      Spawns ⟨calls, room, s, .call name (before ++ n :: after) span⟩ ⟨calls, inner, s', n⟩
  | body {calls : Nat} {room inner : Room} {s s' : Session} {name : String}
      {arguments : List Node} {span : Span} {values : List Value} {f : UserFunction}
      (hroom : room.deeper = some inner) :
      EvaluatesAll (calls + 1) inner s arguments (.ok values) s' → Builtin.ofName? name = none →
      s'.function? name = some f → f.parameters.length = values.length →
      inner.admits s'.context.depth = true →
      Spawns ⟨calls + 1, room, s, .call name arguments span⟩
        ⟨calls, inner, s'.enter f values, f.body⟩

/-- What a guarantee asks of a node and a session passes to all tasks that are spawned. -/
theorem Guarantee.spawned {N : Node → Prop} {I : Session → Prop} {V : Value → Prop}
    {R Q : Session → Session → Prop} (hR : Guarantee N I V R Q) {t u : Task} (hu : Spawns t u)
    (hn : N t.node) (hs : I t.session) : N u.node ∧ I u.session := by
  have hchild : ∀ k ∈ t.node.children, N k := fun _ hk => hR.child hn hk
  cases hu with
  | operand _ | left _ | value _ => exact ⟨hchild _ (by simp [Node.children]), hs⟩
  | right _ hleft =>
    have hafter := (hleft.leads hR (hchild _ (by simp [Node.children])) hs).1.of_ok
    exact ⟨hchild _ (by simp [Node.children]), hR.keeps hs hafter⟩
  | argument _ hbefore =>
    obtain ⟨hbefores, hrest⟩ := List.forall_mem_append.mp hchild
    exact ⟨hrest _ List.mem_cons_self, hR.keeps hs (hbefore.leads hR hbefores hs).1.of_ok⟩
  | body _ harguments hbuiltin hf _ _ =>
    obtain ⟨hafter, hvs⟩ := harguments.leads hR hchild hs
    have hs' := hR.keeps hs hafter.of_ok
    exact ⟨hR.body hn hs' hbuiltin hf, hR.enter hs' (hvs _ rfl)⟩

/-- The first task comes to the second one. -/
def Reaches : Task → Task → Prop := Relation.ReflTransGen Spawns

/-- What passes from every task to those that it spawns passes to all that it reaches. -/
theorem Reaches.passes_on {P : Task → Prop} (hP : ∀ {t u : Task}, P t → Spawns t u → P u)
    {t u : Task} (h : Reaches t u) (ht : P t) : P u := by
  induction h with
  | refl => exact ht
  | tail _ hspawns ih => exact hP ih hspawns

namespace Task

/-- The task is to apply an operator to the given operands, which have values by then. -/
inductive Applies : Task → String → Value → Value → Session → Prop where
  | binary {calls : Nat} {room inner : Room} {s s₁ s₂ : Session} {left right : Node}
      {operator : String} {span : Span} {l r : Value} (hroom : room.deeper = some inner) :
      Evaluates calls inner s left (.ok l) s₁ → Evaluates calls inner s₁ right (.ok r) s₂ →
      Applies ⟨calls, room, s, .binary left operator right span⟩ operator l r s₂

/-- A question about units comes up in the task. -/
def Asks (t : Task) (q : Question) : Prop :=
  ∃ u operator l r s, Reaches t u ∧ u.Applies operator l r s ∧
    q ∈ (Inquiry.binary operator l r).asked s.catalog.memory

theorem Asks.of_spawns {t u : Task} {q : Question} (h : Spawns t u) (hq : u.Asks q) : t.Asks q := by
  obtain ⟨v, operator, l, r, s, hreach, hrest⟩ := hq
  exact ⟨v, operator, l, r, s, .head h hreach, hrest⟩

/-- A task that spawns nothing and applies nothing asks nothing. -/
theorem not_asks_of_idle {t : Task} {q : Question} (hspawns : ∀ u, ¬Spawns t u)
    (happlies : ∀ operator l r s, ¬t.Applies operator l r s) : ¬t.Asks q := by
  rintro ⟨u, operator, l, r, s, hreach, happ, -⟩
  rcases hreach.cases_head with rfl | ⟨u, hspawn, -⟩
  · exact happlies _ _ _ _ happ
  · exact hspawns u hspawn

/-- A question comes up in one of several tasks that are done from left to right. -/
def AsksAny (calls : Nat) (room : Room) (s : Session) (ns : List Node) (q : Question) : Prop :=
  ∃ before n after values s', ns = before ++ n :: after ∧
    EvaluatesAll calls room s before (.ok values) s' ∧ Asks ⟨calls, room, s', n⟩ q

section AsksAny

variable {calls : Nat} {room inner : Room} {s s' : Session} {n : Node} {rest : List Node}
  {q : Question}

theorem AsksAny.head (h : Asks ⟨calls, room, s, n⟩ q) : AsksAny calls room s (n :: rest) q :=
  ⟨[], n, rest, [], s, rfl, .nil, h⟩

theorem AsksAny.tail {v : Value} (hn : Evaluates calls room s n (.ok v) s')
    (h : AsksAny calls room s' rest q) : AsksAny calls room s (n :: rest) q := by
  obtain ⟨before, n', after, values, s'', rfl, hbefore, hq⟩ := h
  exact ⟨n :: before, n', after, v :: values, s'', rfl, .cons hn hbefore, hq⟩

theorem Asks.of_arguments {name : String} {arguments : List Node} {span : Span}
    (hroom : room.deeper = some inner) (h : AsksAny calls inner s arguments q) :
    Asks ⟨calls, room, s, .call name arguments span⟩ q := by
  obtain ⟨before, n, after, values, s', rfl, hbefore, hq⟩ := h
  exact hq.of_spawns (.argument hroom hbefore)

end AsksAny

/-- All questions that come up in the task are in `K`. -/
def AsksOnly (K : Question → Prop) (t : Task) : Prop := ∀ q, t.Asks q → K q

theorem AsksOnly.spawned {K : Question → Prop} {t u : Task} (h : t.AsksOnly K) (hu : Spawns t u) :
    u.AsksOnly K :=
  fun q hq => h q (hq.of_spawns hu)

/-- `P` holds of all of several tasks that are done from left to right. -/
def Each (P : Task → Prop) (calls : Nat) (room : Room) (s : Session) (ns : List Node) : Prop :=
  ∀ before n after values s', ns = before ++ n :: after →
    EvaluatesAll calls room s before (.ok values) s' → P ⟨calls, room, s', n⟩

section Each

variable {P : Task → Prop} {calls : Nat} {room : Room} {s s' : Session} {n : Node}
  {rest : List Node}

theorem Each.head (h : Each P calls room s (n :: rest)) : P ⟨calls, room, s, n⟩ :=
  h [] n rest [] s rfl .nil

theorem Each.tail {v : Value} (h : Each P calls room s (n :: rest))
    (hn : Evaluates calls room s n (.ok v) s') : Each P calls room s' rest := by
  rintro before n' after values s'' rfl hbefore
  exact h (n :: before) n' after (v :: values) s'' rfl (.cons hn hbefore)

end Each

end Task

end Reckon.Session
