import Reckon.Proofs.Catalog
import Reckon.Proofs.Session.Purity
import Reckon.Proofs.Session.Reach
import Reckon.Proofs.Unit.Recollection

/-!
# What a session knows about units

Besides variables and functions a session keeps its catalog of units. An evaluation can add to it in
three ways: a unit text can make the registry know a prefixed unit or have the spellings of all units
gathered, and an operator can make the memory know a product of units.

* The memory of a session only grows (`Evaluates.memory_extends`).
* Where all unit texts leave the registry as it is, the memory and the spellings are all of the
  catalog that changes (`Evaluates.settled`).
* There, an evaluation goes the same way if the spellings have been gathered before, and with another
  memory that answers the questions which come up in it alike (`Evaluates.congruent`).
-/

namespace Reckon

namespace Node

mutual

/-- The unit texts in a node. -/
def unitTexts : Node → List String
  | number _ unit _ => unit.toList
  | reference .. | comment .. | unknown _ => []
  | unary _ operand _ => operand.unitTexts
  | binary left _ right _ => left.unitTexts ++ right.unitTexts
  | call _ arguments _ => unitTextsAll arguments
  | assignment _ value _ => value.unitTexts
  | definition _ _ body _ => body.unitTexts

/-- The unit texts in several nodes. -/
def unitTextsAll : List Node → List String
  | [] => []
  | n :: ns => n.unitTexts ++ unitTextsAll ns

end

theorem mem_unitTextsAll {t : String} {ns : List Node} :
    t ∈ unitTextsAll ns ↔ ∃ n ∈ ns, t ∈ n.unitTexts := by
  induction ns with
  | nil => simp [unitTextsAll]
  | cons n rest ih => simp [unitTextsAll, ih]

theorem unitTexts_subset_of_mem_children {n k : Node} (hk : k ∈ n.children) :
    k.unitTexts ⊆ n.unitTexts := by
  intro t ht
  cases n with
  | binary =>
    simp only [children, List.mem_cons, List.not_mem_nil, or_false] at hk
    rw [unitTexts, List.mem_append]
    rcases hk with rfl | rfl
    · exact .inl ht
    · exact .inr ht
  | call =>
    rw [unitTexts, mem_unitTextsAll]
    exact ⟨k, hk, ht⟩
  | _ => simp_all [children, unitTexts]

mutual

theorem unitTexts_bare : ∀ n : Node, n.bare.unitTexts = n.unitTexts
  | number .. | reference .. | comment .. | unknown _ => by simp [bare, unitTexts]
  | unary _ operand _ => by simp [bare, unitTexts, operand.unitTexts_bare]
  | binary left _ right _ => by
    simp [bare, unitTexts, left.unitTexts_bare, right.unitTexts_bare]
  | call _ arguments _ => by simp [bare, unitTexts, unitTextsAll_bareAll arguments]
  | assignment _ value _ => by simp [bare, unitTexts, value.unitTexts_bare]
  | definition _ _ body _ => by simp [bare, unitTexts, body.unitTexts_bare]

theorem unitTextsAll_bareAll : ∀ ns : List Node, unitTextsAll (bareAll ns) = unitTextsAll ns
  | [] => by simp [bareAll]
  | n :: ns => by simp [bareAll, unitTextsAll, n.unitTexts_bare, unitTextsAll_bareAll ns]

end

end Node

namespace Session

/-- Replaces what has been worked out about units. -/
def withMemory (s : Session) (m : Memory) : Session := { s with catalog := s.catalog.withMemory m }

/-! ### The steps of an evaluation -/

theorem literal_memory {s s' : Session} {x : Float} {unit : Option String}
    {o : Except Failure Value} (h : s.literal x unit = (o, s')) :
    s'.catalog.memory = s.catalog.memory := by
  rcases literal_cases h with ⟨rfl, -⟩ | ⟨text, -, rfl, -⟩
  · rfl
  · exact s.catalog.resolve_memory text

theorem define_catalog {s s' : Session} {name : String} {parameters : List String} {body : Node}
    {o : Except Failure Value} (h : s.define name parameters body = (o, s')) :
    s'.catalog = s.catalog := by
  unfold define at h
  split at h <;> cases h <;> rfl

theorem catalog_enter (s : Session) (f : UserFunction) (arguments : List Value) :
    (s.enter f arguments).catalog = s.catalog := by
  obtain ⟨frame, h⟩ := s.enter_eq f arguments
  rw [h]

/-- An operator asks what its inquiry asks. -/
theorem operate_eq (s : Session) (operator : String) (left right : Value) :
    s.operate operator left right =
      (((Inquiry.binary operator left right).run s.catalog.memory).1,
        s.withMemory ((Inquiry.binary operator left right).run s.catalog.memory).2) := by
  rw [Inquiry.run_binary]
  rfl

theorem exists_operate {s : Session} {m : Memory} (hm : s.catalog.memory = m) {operator : String}
    {l r : Value} (h : (Arithmetic.binary m operator l r).1.isOk = true) :
    ∃ v, s.operate operator l r = (.ok v, s.withMemory (Arithmetic.binary m operator l r).2) := by
  unfold operate
  rw [hm]
  generalize Arithmetic.binary m operator l r = outcome at h ⊢
  rcases outcome with ⟨e | v, m'⟩
  · cases h
  · exact ⟨v, rfl⟩

/-! ### Whole evaluations -/

/-- A relation that holds between a catalog and whatever literals and operators make of it. -/
structure Evolution (R : Catalog → Catalog → Prop) : Prop where
  refl : ∀ c, R c c
  trans : ∀ {a b c}, R a b → R b c → R a c
  resolve : ∀ (c : Catalog) (text : String), R c (c.resolve text).2
  operate : ∀ (c : Catalog) (operator : String) (left right : Value),
    R c (c.withMemory ((Inquiry.binary operator left right).run c.memory).2)

section Evolution

variable {R : Catalog → Catalog → Prop} (hR : Evolution R)
include hR

theorem literal_evolves {s s' : Session} {x : Float} {unit : Option String}
    {o : Except Failure Value} (h : s.literal x unit = (o, s')) : R s.catalog s'.catalog := by
  rcases literal_cases h with ⟨rfl, -⟩ | ⟨text, -, rfl, -⟩
  · exact hR.refl _
  · exact hR.resolve _ text

theorem operate_evolves {s s' : Session} {operator : String} {left right : Value}
    {o : Except Failure Value} (h : s.operate operator left right = (o, s')) :
    R s.catalog s'.catalog := by
  rw [operate_eq] at h
  obtain ⟨-, rfl⟩ := Prod.mk.inj h
  exact hR.operate ..

theorem evolution_guarantee : Guarantee (fun _ => True) (fun _ => True) (fun _ => True)
    (fun s s' => R s.catalog s'.catalog) (fun s s' => R s.catalog s'.catalog) where
  refl _ := hR.refl _
  trans := hR.trans
  literal _ _ h := literal_evolves hR h
  define _ _ h := by
    rw [define_catalog h]
    exact hR.refl _
  bind _ _ _ := hR.refl _
  operate _ _ _ h := operate_evolves hR h
  leave _ _ h := by
    rw [catalog_enter] at h
    exact h
  begin _ := hR.refl _
  after := hR.trans
  abandon _ _ h := by
    rw [catalog_enter] at h
    exact h

/-- **Literals and operators are all that changes a catalog.** -/
theorem Evaluates.evolves {calls : Nat} {room : Room} {s s' : Session} {n : Node}
    {o : Except Failure Value} (h : Evaluates calls room s n o s') : R s.catalog s'.catalog :=
  (h.guarantee (evolution_guarantee hR) trivial trivial).1

theorem EvaluatesAll.evolves {calls : Nat} {room : Room} {s s' : Session} {ns : List Node}
    {o : Except Failure (List Value)} (h : EvaluatesAll calls room s ns o s') :
    R s.catalog s'.catalog :=
  (h.guarantee (evolution_guarantee hR) (fun _ _ => trivial) trivial).1

end Evolution

theorem extends_evolution : Evolution fun c c' => c.memory.Extends c'.memory where
  refl := fun _ => .refl _
  trans := .trans
  resolve := by
    intro c text
    rw [Catalog.resolve_memory]
    exact .refl _
  operate := fun c operator left right => (Inquiry.binary operator left right).run_extends c.memory

theorem operate_extends {s s' : Session} {operator : String} {left right : Value}
    {o : Except Failure Value} (h : s.operate operator left right = (o, s')) :
    s.catalog.memory.Extends s'.catalog.memory :=
  operate_evolves extends_evolution h

/-- **The memory of a session only grows.** -/
theorem Evaluates.memory_extends {calls : Nat} {room : Room} {s s' : Session} {n : Node}
    {o : Except Failure Value} (h : Evaluates calls room s n o s') :
    s.catalog.memory.Extends s'.catalog.memory :=
  h.evolves extends_evolution

theorem EvaluatesAll.memory_extends {calls : Nat} {room : Room} {s s' : Session}
    {ns : List Node} {o : Except Failure (List Value)} (h : EvaluatesAll calls room s ns o s') :
    s.catalog.memory.Extends s'.catalog.memory :=
  h.evolves extends_evolution

/-- The session has the catalog `c`, apart from what has been worked out about units and whether its
spellings have been gathered, and no unit text in a function body would change the registry. -/
structure Settled (c : Catalog) (s : Session) : Prop where
  catalog : c.Becomes s.catalog
  bodies : ∀ key f, Table.get? s.functions key = some f → ∀ t ∈ f.body.unitTexts, c.Settles t

section Settled

variable {c : Catalog} {s s' : Session}

/-- A change to nothing but the variables and the catalog. -/
theorem Settled.of_eq (hs : s.Settled c) (hcatalog : c.Becomes s'.catalog)
    (hfunctions : s'.functions = s.functions) : s'.Settled c where
  catalog := hcatalog
  bodies := by rw [hfunctions]; exact hs.bodies

/-- A literal whose unit adds nothing to the known units. -/
theorem becomes_of_literal {x : Float} {unit : Option String} {o : Except Failure Value}
    (hs : c.Becomes s.catalog) (hunit : ∀ t ∈ unit.toList, c.Settles t)
    (h : s.literal x unit = (o, s')) : c.Becomes s'.catalog := by
  rcases literal_cases h with ⟨rfl, -⟩ | ⟨text, rfl, rfl, -⟩
  · exact hs
  · exact hs.trans (hs.resolve (hunit text (by simp))).1.resolve_becomes

theorem becomes_of_operate {operator : String} {left right : Value} {o : Except Failure Value}
    (hs : c.Becomes s.catalog) (h : s.operate operator left right = (o, s')) :
    c.Becomes s'.catalog := by
  rw [operate_eq] at h
  obtain ⟨-, rfl⟩ := Prod.mk.inj h
  exact hs.withMemory _

theorem Settled.literal {x : Float} {unit : Option String} {o : Except Failure Value}
    (hs : s.Settled c) (hunit : ∀ t ∈ unit.toList, c.Settles t)
    (h : s.literal x unit = (o, s')) : s'.Settled c :=
  hs.of_eq (becomes_of_literal hs.catalog hunit h) (sameBindings_of_literal h).2

theorem Settled.define {name : String} {parameters : List String} {body : Node}
    {o : Except Failure Value} (hs : s.Settled c) (hbody : ∀ t ∈ body.unitTexts, c.Settles t)
    (h : s.define name parameters body = (o, s')) : s'.Settled c := by
  unfold Session.define at h
  split at h
  · cases h; exact hs
  · cases h
    refine ⟨hs.catalog, ?_⟩
    intro key f hf
    rw [Table.get?_insert] at hf
    split at hf
    · cases hf; exact hbody
    · exact hs.bodies key f hf

theorem Settled.operate {operator : String} {left right : Value} {o : Except Failure Value}
    (hs : s.Settled c) (h : s.operate operator left right = (o, s')) : s'.Settled c :=
  hs.of_eq (becomes_of_operate hs.catalog h) (sameBindings_of_operate h).2

theorem Settled.enter (hs : s.Settled c) (f : UserFunction) (arguments : List Value) :
    (s.enter f arguments).Settled c := by
  refine hs.of_eq ?_ (functions_enter s f arguments)
  rw [catalog_enter]
  exact hs.catalog

end Settled

theorem settled_guarantee (c : Catalog) : Guarantee (fun n => ∀ t ∈ n.unitTexts, c.Settles t)
    (Settled c) (fun _ => True) (fun s s' => s.Settled c → s'.Settled c)
    (fun s s' => s.Settled c → s'.Settled c) where
  refl _ := id
  trans h h' hs := h' (h hs)
  keeps hs h := h hs
  child hn hk t ht := hn t (Node.unitTexts_subset_of_mem_children hk ht)
  body _ hs _ hf := hs.bodies _ _ hf
  literal hn _ h hs := hs.literal (by simpa [Node.unitTexts] using hn) h
  define hn _ h hs := hs.define (by simpa [Node.unitTexts] using hn) h
  bind _ _ _ hs := hs.of_eq hs.catalog rfl
  operate _ _ _ h hs := hs.operate h
  enter hs _ := hs.enter _ _
  leave _ _ h hs := (h (hs.enter _ _)).of_eq (h (hs.enter _ _)).catalog rfl
  begin _ hs := hs.of_eq hs.catalog rfl
  after h h' hs := h' (h hs)
  abandon _ _ h hs := (h (hs.enter _ _)).of_eq (h (hs.enter _ _)).catalog rfl

/-- **Where unit texts leave the registry alone**, an evaluation changes nothing in the catalog but
the memory, and whether the spellings have been gathered. -/
theorem Evaluates.settled {c : Catalog} {calls : Nat} {room : Room} {s s' : Session}
    {n : Node} {o : Except Failure Value} (h : Evaluates calls room s n o s') (hs : s.Settled c)
    (hn : ∀ t ∈ n.unitTexts, c.Settles t) : s'.Settled c :=
  (h.guarantee (settled_guarantee c) hn hs).1 hs

/-! ### Other memories -/

/-- The session with its spellings gathered and with another memory. -/
def prepared (s : Session) (m : Memory) : Session :=
  { s with catalog := s.catalog.gather.withMemory m }

theorem literal_prepared {s s' : Session} {x : Float} {unit : Option String}
    {o : Except Failure Value} (hunit : ∀ t ∈ unit.toList, s.catalog.Settles t) (m : Memory)
    (h : s.literal x unit = (o, s')) : (s.prepared m).literal x unit = (o, s'.prepared m) := by
  rcases literal_cases h with ⟨rfl, hany⟩ | ⟨text, rfl, rfl, hany⟩
  · exact hany _
  · obtain ⟨hgather, hsame⟩ := (hunit text (by simp)).resolve_gather
    have hresolve : (s.prepared m).catalog.resolve text =
        ((s.catalog.resolve text).1, s.catalog.gather.withMemory m) := by
      unfold prepared
      rw [Catalog.resolve_withMemory, hsame]
    rw [hany (s.prepared m) (congrArg (·.1) hresolve), hresolve]
    unfold prepared
    rw [hgather]

theorem define_prepared {s s' : Session} {name : String} {parameters : List String} {body : Node}
    {o : Except Failure Value} (m : Memory) (h : s.define name parameters body = (o, s')) :
    (s.prepared m).define name parameters body = (o, s'.prepared m) := by
  unfold define at h ⊢
  split at h
  · rename_i hduplicate; cases h; exact if_pos hduplicate
  · rename_i hduplicate; cases h; exact if_neg hduplicate

theorem bindAll_prepared (m : Memory) (bindings : List (String × Value)) :
    ∀ s : Session, (s.prepared m).bindAll bindings = (s.bindAll bindings).prepared m := by
  induction bindings with
  | nil => exact fun _ => rfl
  | cons b rest ih => exact fun s => ih (s.bind b.1 b.2)

theorem enter_prepared (m : Memory) (s : Session) (f : UserFunction) (arguments : List Value) :
    (s.prepared m).enter f arguments = (s.enter f arguments).prepared m :=
  bindAll_prepared m _ { s with context := s.context.enter f.name }

theorem operate_congruent {K : Question → Prop} {R : Memory → Memory → Prop}
    (hR : Memory.Congruence K R) {s s' : Session} {operator : String} {left right : Value}
    {o : Except Failure Value} (h : s.operate operator left right = (o, s'))
    (hasked : ∀ q ∈ (Inquiry.binary operator left right).asked s.catalog.memory, K q)
    {m : Memory} (hm : R s.catalog.memory m) :
    ∃ m', (s.prepared m).operate operator left right = (o, s'.prepared m') ∧
      R s'.catalog.memory m' := by
  have hrun := Inquiry.run_congruent hR (Inquiry.binary operator left right) hm hasked
  rw [operate_eq] at h
  obtain ⟨rfl, rfl⟩ := Prod.mk.inj h
  refine ⟨((Inquiry.binary operator left right).run m).2, ?_, hrun.2⟩
  rw [operate_eq, hrun.1]
  rfl

/-- The task asks questions in `K` only, and no unit text that is looked up in it adds to the known
units. -/
structure Task.Tame (K : Question → Prop) (t : Task) : Prop where
  asks : t.AsksOnly K
  settles : ∀ u, Reaches t u → ∀ x unit span, u.node = .number x unit span →
    ∀ text ∈ unit.toList, u.session.catalog.Settles text

section Tame

variable {K : Question → Prop} {t u : Task}

theorem Task.Tame.spawned (h : t.Tame K) (hu : Spawns t u) : u.Tame K where
  asks := h.asks.spawned hu
  settles v hv := h.settles v (.head hu hv)

theorem Task.Tame.arguments {calls : Nat} {room inner : Room} {s : Session} {name : String}
    {arguments : List Node} {span : Span} (hroom : room.deeper = some inner)
    (h : Task.Tame K ⟨calls, room, s, .call name arguments span⟩) :
    Task.Each (Task.Tame K) calls inner s arguments := by
  rintro before n after values s' rfl hbefore
  exact h.spawned (.argument hroom hbefore)

/-- What a guarantee asks of nodes and sessions can say that no unit text adds to the known units. -/
theorem Guarantee.tame {N : Node → Prop} {I : Session → Prop} {V : Value → Prop}
    {R Q : Session → Session → Prop} (hR : Guarantee N I V R Q)
    (hsettles : ∀ {s : Session} {x : Float} {unit : Option String} {span : Span},
      N (.number x unit span) → I s → ∀ text ∈ unit.toList, s.catalog.Settles text)
    (hn : N t.node) (hs : I t.session) (hK : t.AsksOnly K) : t.Tame K where
  asks := hK
  settles u hu x unit span hnode := by
    have hpasses : N u.node ∧ I u.session :=
      Reaches.passes_on (P := fun t => N t.node ∧ I t.session)
        (fun h hspawns => hR.spawned hspawns h.1 h.2) hu ⟨hn, hs⟩
    rw [hnode] at hpasses
    exact hsettles hpasses.1 hpasses.2

theorem Settled.tame {c : Catalog} (hs : t.session.Settled c)
    (hn : ∀ text ∈ t.node.unitTexts, c.Settles text) (hK : t.AsksOnly K) : t.Tame K :=
  (settled_guarantee c).tame
    (fun hn hs text htext => (hs.catalog.resolve (hn text htext)).1) hn hs hK

end Tame

mutual

/-- **An evaluation goes the same way with the spellings gathered and with another memory** that
answers the questions which come up in it alike. -/
theorem Evaluates.congruent {K : Question → Prop} {R : Memory → Memory → Prop}
    (hR : Memory.Congruence K R) :
    ∀ {calls : Nat} {room : Room} {s s' : Session} {n : Node} {o : Except Failure Value},
    Evaluates calls room s n o s' → Task.Tame K ⟨calls, room, s, n⟩ →
    ∀ {m : Memory}, R s.catalog.memory m →
    ∃ m', Evaluates calls room (s.prepared m) n o (s'.prepared m') ∧ R s'.catalog.memory m'
  | _, _, _, _, _, _, .tooDeep hroom => fun _ m hm => ⟨m, .tooDeep hroom, hm⟩
  | _, _, _, _, _, _, .reference hroom => fun _ m hm => ⟨m, .reference hroom, hm⟩
  | _, _, _, _, _, _, .comment hroom => fun _ m hm => ⟨m, .comment hroom, hm⟩
  | _, _, _, _, _, _, .unknown hroom => fun _ m hm => ⟨m, .unknown hroom, hm⟩
  | _, _, _, _, _, _, .number hroom h => fun hK m hm => by
    have hunit := hK.settles _ .refl _ _ _ rfl
    exact ⟨m, .number hroom (literal_prepared hunit m h), by rw [literal_memory h]; exact hm⟩
  | _, _, _, _, _, _, .definition hroom h => fun _ m hm =>
    ⟨m, .definition hroom (define_prepared m h), by rw [define_catalog h]; exact hm⟩
  | _, _, _, _, _, _, .unaryFails hroom h => fun hK m hm => by
    obtain ⟨m', h', hm'⟩ := h.congruent hR (hK.spawned (.operand hroom)) hm
    exact ⟨m', .unaryFails hroom h', hm'⟩
  | _, _, _, _, _, _, .unary hroom h => fun hK m hm => by
    obtain ⟨m', h', hm'⟩ := h.congruent hR (hK.spawned (.operand hroom)) hm
    exact ⟨m', .unary hroom h', hm'⟩
  | _, _, _, _, _, _, .leftFails hroom h => fun hK m hm => by
    obtain ⟨m', h', hm'⟩ := h.congruent hR (hK.spawned (.left hroom)) hm
    exact ⟨m', .leftFails hroom h', hm'⟩
  | _, _, _, _, _, _, .rightFails hroom hl hr => fun hK m hm => by
    obtain ⟨m₁, hl', hm₁⟩ := hl.congruent hR (hK.spawned (.left hroom)) hm
    obtain ⟨m₂, hr', hm₂⟩ := hr.congruent hR (hK.spawned (.right hroom hl)) hm₁
    exact ⟨m₂, .rightFails hroom hl' hr', hm₂⟩
  | _, _, _, _, _, _, .binary hroom hl hr h => fun hK m hm => by
    obtain ⟨m₁, hl', hm₁⟩ := hl.congruent hR (hK.spawned (.left hroom)) hm
    obtain ⟨m₂, hr', hm₂⟩ := hr.congruent hR (hK.spawned (.right hroom hl)) hm₁
    have hasked := fun q hq => hK.asks q ⟨_, _, _, _, _, .refl, .binary hroom hl hr, hq⟩
    obtain ⟨m₃, h', hm₃⟩ := operate_congruent hR h hasked hm₂
    exact ⟨m₃, .binary hroom hl' hr' h', hm₃⟩
  | _, _, _, _, _, _, .assignmentFails hroom h => fun hK m hm => by
    obtain ⟨m', h', hm'⟩ := h.congruent hR (hK.spawned (.value hroom)) hm
    exact ⟨m', .assignmentFails hroom h', hm'⟩
  | _, _, _, _, _, _, .assignment hroom h => fun hK m hm => by
    obtain ⟨m', h', hm'⟩ := h.congruent hR (hK.spawned (.value hroom)) hm
    exact ⟨m', .assignment hroom h', hm'⟩
  | _, _, _, _, _, _, .argumentFails hroom h => fun hK m hm => by
    obtain ⟨m', h', hm'⟩ := h.congruent hR (hK.arguments hroom) hm
    exact ⟨m', .argumentFails hroom h', hm'⟩
  | _, _, _, _, _, _, .builtin hroom h hf => fun hK m hm => by
    obtain ⟨m', h', hm'⟩ := h.congruent hR (hK.arguments hroom) hm
    exact ⟨m', .builtin hroom h' hf, hm'⟩
  | _, _, _, _, _, _, .undefinedFunction hroom h hbuiltin hf => fun hK m hm => by
    obtain ⟨m', h', hm'⟩ := h.congruent hR (hK.arguments hroom) hm
    exact ⟨m', .undefinedFunction hroom h' hbuiltin hf, hm'⟩
  | _, _, _, _, _, _, .argumentCount hroom h hbuiltin hf hcount => fun hK m hm => by
    obtain ⟨m', h', hm'⟩ := h.congruent hR (hK.arguments hroom) hm
    exact ⟨m', .argumentCount hroom h' hbuiltin hf hcount, hm'⟩
  | _, _, _, _, _, _, .callDepth hroom h hbuiltin hf hcount => fun hK m hm => by
    obtain ⟨m', h', hm'⟩ := h.congruent hR (hK.arguments hroom) hm
    exact ⟨m', .callDepth hroom h' hbuiltin hf hcount, hm'⟩
  | _, _, _, _, _, _, .entryFails hroom h hbuiltin hf hcount hadmits => fun hK m hm => by
    obtain ⟨m', h', hm'⟩ := h.congruent hR (hK.arguments hroom) hm
    exact ⟨m', .entryFails hroom h' hbuiltin hf hcount hadmits, hm'⟩
  | _, _, _, _, _, _, .call hroom h hbuiltin hf hcount hadmits hbody => fun hK m hm => by
    obtain ⟨m₁, h', hm₁⟩ := h.congruent hR (hK.arguments hroom) hm
    -- entering a call changes no memory, so the body starts where the arguments ended
    have hbodyTame := hK.spawned (.body hroom h hbuiltin hf hcount hadmits)
    rw [← catalog_enter] at hm₁
    obtain ⟨m₂, hbody', hm₂⟩ := hbody.congruent hR hbodyTame hm₁
    rw [← enter_prepared] at hbody'
    exact ⟨m₂, .call hroom h' hbuiltin hf hcount hadmits hbody', hm₂⟩

theorem EvaluatesAll.congruent {K : Question → Prop} {R : Memory → Memory → Prop}
    (hR : Memory.Congruence K R) :
    ∀ {calls : Nat} {room : Room} {s s' : Session} {ns : List Node}
    {o : Except Failure (List Value)}, EvaluatesAll calls room s ns o s' →
    Task.Each (Task.Tame K) calls room s ns → ∀ {m : Memory}, R s.catalog.memory m →
    ∃ m', EvaluatesAll calls room (s.prepared m) ns o (s'.prepared m') ∧ R s'.catalog.memory m'
  | _, _, _, _, _, _, .nil => fun _ m hm => ⟨m, .nil, hm⟩
  | _, _, _, _, _, _, .headFails h => fun hK m hm => by
    obtain ⟨m', h', hm'⟩ := h.congruent hR hK.head hm
    exact ⟨m', .headFails h', hm'⟩
  | _, _, _, _, _, _, .tailFails h hs => fun hK m hm => by
    obtain ⟨m₁, h', hm₁⟩ := h.congruent hR hK.head hm
    obtain ⟨m₂, hs', hm₂⟩ := hs.congruent hR (hK.tail h) hm₁
    exact ⟨m₂, .tailFails h' hs', hm₂⟩
  | _, _, _, _, _, _, .cons h hs => fun hK m hm => by
    obtain ⟨m₁, h', hm₁⟩ := h.congruent hR hK.head hm
    obtain ⟨m₂, hs', hm₂⟩ := hs.congruent hR (hK.tail h) hm₁
    exact ⟨m₂, .cons h' hs', hm₂⟩

end

/-- The same for the result of a node. -/
theorem evaluate_congruent {K : Question → Prop} {R : Memory → Memory → Prop}
    (hR : Memory.Congruence K R) {s s' : Session} {limits : Limits} {n : Node}
    {r : Except Abort Result} (h : s.evaluate limits n = (r, s'))
    (hK : Task.Tame K ⟨s.callsLeft limits, limits.nesting, s, n⟩) {m : Memory}
    (hm : R s.catalog.memory m) :
    ∃ m', (s.prepared m).evaluate limits n = (r, s'.prepared m') ∧ R s'.catalog.memory m' := by
  unfold evaluate at h ⊢
  rcases heval : eval (s.callsLeft limits) limits.nesting s n with ⟨o, s₁⟩
  obtain ⟨m', h', hm'⟩ := (eval_evaluates heval).congruent hR hK hm
  have hcalls : (s.prepared m).callsLeft limits = s.callsLeft limits := rfl
  rw [heval] at h
  rw [hcalls, h'.eval_eq]
  rcases o with (e | a) | v
  · cases h; exact ⟨m', rfl, hm'⟩
  · cases a <;> cases h <;> exact ⟨m', rfl, hm'⟩
  · cases h; exact ⟨m', rfl, hm'⟩

end Session

end Reckon
