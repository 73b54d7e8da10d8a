import Reckon.Proofs.Session.Dependence

/-!
# Evaluations without a trace

A node without assignments and definitions binds nothing, and if its unit texts leave the registry as
it is, all that its evaluation changes is the memory of products of units, and whether the spellings
of units have been gathered (`Evaluates.traceless`). What it calls must be like that too: the
functions that can be called have names in a set `N`, and their bodies stay within it.

What becomes of the memory depends only on the questions that come up: whatever they preserve, the
evaluation preserves (`Evaluates.keeps_memory`).
-/

namespace Reckon

/-- The node is pure, it calls functions with names in `N` only, and its unit texts leave the registry
of the catalog `c` as it is. -/
structure Node.Traceless (c : Catalog) (N : String → Prop) (n : Node) : Prop where
  pure : n.isPure = true
  callees : ∀ name ∈ n.callees, N name
  units : ∀ t ∈ n.unitTexts, c.Settles t

namespace Node.Traceless

variable {c : Catalog} {N : String → Prop} {operator name : String} {n left right : Node}
  {arguments : List Node} {span : Span}

theorem child (h : n.Traceless c N) {k : Node} (hk : k ∈ n.children) : k.Traceless c N where
  pure := isPure_of_mem_children h.pure hk
  callees := fun name hname =>
    h.callees name (callees_subset (parts_subset_of_mem_children hk) hname)
  units := fun t ht => h.units t (unitTexts_subset_of_mem_children hk ht)

theorem operand (h : (unary operator n span).Traceless c N) : n.Traceless c N :=
  h.child (by simp [children])

theorem operands (h : (binary left operator right span).Traceless c N) :
    left.Traceless c N ∧ right.Traceless c N :=
  ⟨h.child (by simp [children]), h.child (by simp [children])⟩

theorem argument (h : (call name arguments span).Traceless c N) :
    ∀ n ∈ arguments, n.Traceless c N :=
  fun _ hn => h.child hn

theorem callee (h : (call name arguments span).Traceless c N) : N name :=
  h.callees name (by simp [Node.callees, parts])

theorem of_operand (h : n.Traceless c N) : (unary operator n span).Traceless c N where
  pure := by simpa [isPure] using h.pure
  callees := by simpa [Node.callees, parts] using h.callees
  units := by simpa [unitTexts] using h.units

theorem of_operands (hl : left.Traceless c N) (hr : right.Traceless c N) :
    (binary left operator right span).Traceless c N where
  pure := by simp [isPure, hl.pure, hr.pure]
  callees name h := by
    simp only [Node.callees, parts, List.filterMap_cons, List.filterMap_append,
      List.mem_append] at h
    exact h.elim (hl.callees name) (hr.callees name)
  units t h := by
    rw [unitTexts, List.mem_append] at h
    exact h.elim (hl.units t) (hr.units t)

theorem of_arguments (hname : N name) (h : ∀ n ∈ arguments, n.Traceless c N) :
    (call name arguments span).Traceless c N where
  pure := by
    rw [isPure, arePure_iff]
    exact fun n hn => (h n hn).pure
  callees callee hcallee := by
    simp only [Node.callees, parts, List.filterMap_cons, List.mem_cons, List.mem_filterMap] at hcallee
    rcases hcallee with rfl | ⟨part, hpart, hcallee⟩
    · exact hname
    · obtain ⟨n, hn, hpart⟩ := mem_partsAll.mp hpart
      exact (h n hn).callees callee (List.mem_filterMap.mpr ⟨part, hpart, hcallee⟩)
  units t ht := by
    obtain ⟨n, hn, ht⟩ := mem_unitTextsAll.mp ht
    exact (h n hn).units t ht

end Node.Traceless

namespace Session

/-- The session has the catalog `c`, apart from its memory and from whether its spellings have been
gathered, and the bodies of all functions with names in `N` are traceless. -/
structure Traceless (c : Catalog) (N : String → Prop) (s : Session) : Prop where
  catalog : c.Becomes s.catalog
  body : ∀ name f, N name → s.callee? name = some f → f.body.Traceless c N

section Steps

variable {c : Catalog} {N : String → Prop} {s s' s'' : Session}

/-- Nothing changes but the memory, and whether the spellings have been gathered. -/
structure OnlyMemory (s s' : Session) : Prop where
  bindings : SameBindings s s'
  catalog : s.catalog.Becomes s'.catalog

theorem OnlyMemory.refl (s : Session) : OnlyMemory s s := ⟨.refl s, .refl s.catalog⟩

theorem OnlyMemory.trans (h : OnlyMemory s s') (h' : OnlyMemory s' s'') : OnlyMemory s s'' :=
  ⟨h.bindings.trans h'.bindings, h.catalog.trans h'.catalog⟩

/-- With the spellings gathered and the same memory, the sessions are the same. -/
theorem OnlyMemory.prepared (h : OnlyMemory s s') (m : Memory) : s'.prepared m = s.prepared m := by
  unfold Session.prepared
  rw [h.bindings.1, h.bindings.2, h.catalog.gather]
  rfl

theorem Traceless.after (hs : s.Traceless c N) (h : OnlyMemory s s') : s'.Traceless c N where
  catalog := hs.catalog.trans h.catalog
  body name f hN hf := by
    refine hs.body name f hN ?_
    rw [← hf]
    unfold callee? function?
    rw [h.bindings.2]

/-- Sessions with what has become of one catalog have the same catalog, once the spellings have been
gathered and with the same memory. -/
theorem Traceless.catalog_prepared (hs : s.Traceless c N) (m : Memory) :
    (s.prepared m).catalog = c.gather.withMemory m := by
  unfold Session.prepared
  simp only [hs.catalog.gather]
  rfl

theorem Traceless.enter (hs : s.Traceless c N) (f : UserFunction) (arguments : List Value) :
    (s.enter f arguments).Traceless c N := by
  rw [enter_eq_frame]
  exact ⟨hs.catalog, hs.body⟩

theorem Traceless.settles (hs : s.Traceless c N) {text : String} (htext : c.Settles text) :
    s.catalog.Settles text := (hs.catalog.resolve htext).1

theorem onlyMemory_literal {x : Float} {unit : Option String} {o : Except Failure Value}
    (hunit : ∀ t ∈ unit.toList, s.catalog.Settles t) (h : s.literal x unit = (o, s')) :
    OnlyMemory s s' :=
  ⟨sameBindings_of_literal h, becomes_of_literal (.refl _) hunit h⟩

theorem onlyMemory_operate {operator : String} {left right : Value} {o : Except Failure Value}
    (h : s.operate operator left right = (o, s')) : OnlyMemory s s' :=
  ⟨sameBindings_of_operate h, becomes_of_operate (.refl _) h⟩

theorem OnlyMemory.enter (h : OnlyMemory s s') (f : UserFunction) (arguments : List Value) :
    OnlyMemory (s.enter f arguments) (s'.enter f arguments) := by
  rw [enter_eq_frame, enter_eq_frame, h.bindings.1]
  exact ⟨⟨rfl, h.bindings.2⟩, h.catalog⟩

theorem OnlyMemory.leave {f : UserFunction} {arguments : List Value}
    (h : OnlyMemory (s.enter f arguments) s') : OnlyMemory s s'.leave := by
  have hcatalog := h.catalog
  rw [catalog_enter] at hcatalog
  exact ⟨h.bindings.leave, hcatalog⟩

end Steps

theorem onlyMemory_guarantee (c : Catalog) (N : String → Prop) :
    Guarantee (Node.Traceless c N) (Traceless c N) (fun _ => True) OnlyMemory fun _ _ => True where
  refl := .refl
  trans := .trans
  keeps hs h := hs.after h
  child hn hk := hn.child hk
  body hn hs hbuiltin hf := hs.body _ _ hn.callee ((callee?_of_not_builtin hbuiltin).trans hf)
  literal hn hs h := onlyMemory_literal (fun t ht => hs.settles (hn.units t ht)) h
  define hn := absurd hn.pure (by simp [Node.isPure])
  bind hn := absurd hn.pure (by simp [Node.isPure])
  operate _ _ _ h := onlyMemory_operate h
  enter hs _ := hs.enter _ _
  leave _ _ h := h.leave

/-- **A traceless node that has a value leaves no trace but in the memory.** -/
theorem Evaluates.traceless {c : Catalog} {N : String → Prop} {calls : Nat} {room : Room}
    {s s' : Session} {n : Node} {v : Value} (h : Evaluates calls room s n (.ok v) s')
    (hs : s.Traceless c N) (hn : n.Traceless c N) : OnlyMemory s s' :=
  (h.leads (onlyMemory_guarantee c N) hn hs).1.of_ok

theorem EvaluatesAll.traceless {c : Catalog} {N : String → Prop} {calls : Nat} {room : Room}
    {s s' : Session} {ns : List Node} {vs : List Value}
    (h : EvaluatesAll calls room s ns (.ok vs) s') (hs : s.Traceless c N)
    (hns : ∀ n ∈ ns, n.Traceless c N) : OnlyMemory s s' :=
  (h.leads (onlyMemory_guarantee c N) hns hs).1.of_ok

/-- No unit text in a traceless node adds to the known units. -/
theorem Traceless.tame {c : Catalog} {N : String → Prop} {K : Question → Prop} {t : Task}
    (hs : t.session.Traceless c N) (hn : t.node.Traceless c N) (hK : t.AsksOnly K) : t.Tame K :=
  (onlyMemory_guarantee c N).tame (fun hn hs text htext => hs.settles (hn.units text htext)) hn hs hK

/-- **What all questions of an evaluation preserve, the evaluation preserves.** -/
theorem Evaluates.keeps_memory {K : Question → Prop} {P : Memory → Prop}
    (hP : ∀ {m : Memory} {q : Question}, P m → K q → P (m.noted q)) {calls : Nat}
    {room : Room} {s s' : Session} {n : Node} {o : Except Failure Value}
    (h : Evaluates calls room s n o s') (hK : Task.Tame K ⟨calls, room, s, n⟩)
    (hs : P s.catalog.memory) : P s'.catalog.memory := by
  obtain ⟨m, -, -, hm⟩ := h.congruent (Memory.congruence_of_preserved hP) hK ⟨rfl, hs⟩
  exact hm

end Session

end Reckon
