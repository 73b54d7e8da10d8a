import Reckon.Node

/-!
# The parts of a node

What is written somewhere in a node is written in one of its parts: the numbers, the variables that
are used, and the functions that are called.
-/

namespace Reckon.Node

mutual

/-- The node and all nodes in it, also those in the body of a function that it defines. -/
def parts : Node → List Node
  | number x unit span => [number x unit span]
  | reference name span => [reference name span]
  | comment text span => [comment text span]
  | unknown form => [unknown form]
  | unary operator operand span => unary operator operand span :: operand.parts
  | binary left operator right span =>
    binary left operator right span :: (left.parts ++ right.parts)
  | call name arguments span => call name arguments span :: partsAll arguments
  | assignment name value span => assignment name value span :: value.parts
  | definition name parameters body span => definition name parameters body span :: body.parts

/-- The parts of several nodes. -/
def partsAll : List Node → List Node
  | [] => []
  | n :: ns => n.parts ++ partsAll ns

end

theorem mem_partsAll {n : Node} {ns : List Node} : n ∈ partsAll ns ↔ ∃ m ∈ ns, n ∈ m.parts := by
  induction ns with
  | nil => simp [partsAll]
  | cons m rest ih => simp [partsAll, ih]

/-- The nodes right below a node, as they are written from left to right. -/
def children : Node → List Node
  | unary _ operand _ => [operand]
  | binary left _ right _ => [left, right]
  | call _ arguments _ => arguments
  | assignment _ value _ => [value]
  | definition _ _ body _ => [body]
  | number .. | reference .. | comment .. | unknown _ => []

/-- The parts of a node are the node itself and the parts of its children. -/
theorem mem_parts_iff {m n : Node} : m ∈ n.parts ↔ m = n ∨ ∃ k ∈ n.children, m ∈ k.parts := by
  cases n <;> simp [parts, children, mem_partsAll]

theorem parts_subset_of_mem_children {k n : Node} (hk : k ∈ n.children) : k.parts ⊆ n.parts :=
  fun _ hm => mem_parts_iff.mpr (.inr ⟨k, hk, hm⟩)

theorem sizeOf_lt_of_mem_children {k n : Node} (h : k ∈ n.children) : sizeOf k < sizeOf n := by
  cases n with
  | call name arguments span =>
    have := List.sizeOf_lt_of_mem (show k ∈ arguments from h)
    simp only [call.sizeOf_spec]
    omega
  | _ => grind [children]

/-- Induction over a tree: what holds of a node if it holds of its children holds of every node. -/
@[elab_as_elim]
theorem induction_children {P : Node → Prop} (h : ∀ n, (∀ k ∈ n.children, P k) → P n) (n : Node) :
    P n := by
  refine h n fun k hk => ?_
  have := sizeOf_lt_of_mem_children hk
  exact induction_children h k
termination_by sizeOf n

/-- **What passes from every node to its children passes to all parts.** -/
theorem forall_mem_parts {P : Node → Prop} (hstep : ∀ n, P n → ∀ k ∈ n.children, P k) (n : Node)
    (h : P n) : ∀ m ∈ n.parts, P m := by
  intro m hm
  rcases mem_parts_iff.mp hm with rfl | ⟨k, hk, hm⟩
  · exact h
  · have := sizeOf_lt_of_mem_children hk
    exact forall_mem_parts hstep k (hstep n h k hk) m hm
termination_by sizeOf n

/-- The numbers that are written in a node. -/
def literals (n : Node) : List Float :=
  n.parts.filterMap fun
    | number x _ _ => some x
    | _ => none

/-- The variables and parameters that are used in a node. -/
def references (n : Node) : List String :=
  n.parts.filterMap fun
    | reference name _ => some name
    | _ => none

/-- The functions that are called in a node. -/
def callees (n : Node) : List String :=
  n.parts.filterMap fun
    | call name _ _ => some name
    | _ => none

end Reckon.Node
