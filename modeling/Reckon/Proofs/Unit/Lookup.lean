import Reckon.Proofs.Catalog
import Reckon.Proofs.FirstBy
import Reckon.Proofs.Unit.Naming
import Reckon.Proofs.Unit.Report

/-!
# The units that texts stand for

A standard catalog is one that the catalog of the standard registry turns into by looking units up.
The units that it finds are genuine, that is, their factors are distinct and can be named,
and it stays standard (`resolve_genuine`).
-/

namespace Reckon

/-- Factors are distinct and can be named. -/
structure Units.Genuine (u : Units) : Prop where
  distinct : Powers.Distinct u
  nameable : u.Of Unit.Nameable

theorem Units.genuine_nil : Units.Genuine [] := ⟨Powers.distinct_nil, fun _ hx => nomatch hx⟩

theorem Units.genuine_single {u : Unit} (hu : u.Nameable) (e : Scalar) : Units.Genuine [(u, e)] :=
  ⟨List.pairwise_singleton .., List.forall_mem_singleton.mpr hu⟩

/-! ### Outcomes that hold genuine units, if any -/

section Outcomes

variable {ε : Type} {u v : Units}

theorem Units.Genuine.of_some (hu : u.Genuine) (h : some u = some v) : v.Genuine :=
  Option.some.inj h ▸ hu

theorem Units.genuine_of_none (h : (none : Option Units) = some v) : v.Genuine := nomatch h

theorem Units.Genuine.of_ok (hu : u.Genuine) (h : (.ok u : Except ε Units) = .ok v) : v.Genuine :=
  Except.ok.inj h ▸ hu

theorem Units.genuine_of_error {e : ε} (h : (.error e : Except ε Units) = .ok v) : v.Genuine :=
  nomatch h

end Outcomes

theorem mem_of_mem_eraseDupsBy {α : Type} {r : α → α → Bool} {a : α} :
    ∀ (n : Nat) (l : List α), l.length ≤ n → a ∈ l.eraseDupsBy r → a ∈ l
  | _, [], _, h => h
  | 0, _ :: _, hlen, _ => nomatch hlen
  | n + 1, b :: rest, hlen, h => by
    rw [List.eraseDupsBy_cons] at h
    rcases List.mem_cons.mp h with rfl | h
    · exact List.mem_cons_self
    · have hle : (rest.filter fun c => r c b = false).length ≤ n :=
        Nat.le_trans (List.length_filter_le ..) (Nat.le_of_succ_le_succ hlen)
      exact List.mem_cons_of_mem _ (List.mem_filter.mp (mem_of_mem_eraseDupsBy n _ hle h)).1

namespace Registry

/-- A registry that the standard one turns into as units are named. -/
structure Standard (r : Registry) : Prop where
  definitions : r.definitions = standard.definitions
  prefixes : r.prefixes = standardPrefixes
  formed : ∀ u ∈ r.formed, u.Nameable

theorem standard_standard : standard.Standard := ⟨rfl, rfl, fun _ hu => nomatch hu⟩

theorem mem_spelled {entry : String × Unit} (h : entry ∈ spelled standardUnits) :
    ∃ x ∈ standardUnits, x.1 = entry.2 := by
  obtain ⟨x, hx, hentry⟩ := List.mem_flatMap.mp h
  obtain ⟨spelling, -, rfl⟩ := List.mem_map.mp hentry
  exact ⟨x, hx, rfl⟩

theorem name_spelled {x : Unit × List String} (hx : x ∈ standardUnits) :
    (x.1.name, x.1) ∈ spelled standardUnits :=
  List.mem_flatMap.mpr ⟨x, hx, List.mem_map.mpr ⟨x.1.name, List.mem_cons_self, rfl⟩⟩

theorem nameable_of_mem {entry : String × Unit} (h : entry ∈ standard.definitions) :
    entry.2.Nameable := by
  obtain ⟨x, hx, heq⟩ := mem_spelled h
  rw [← heq]
  exact .known hx

variable {r r' : Registry} {u : Unit} {text : String}

theorem find?_nameable (hr : r.Standard) (h : r.find? text = some u) : u.Nameable := by
  unfold find? at h
  split at h
  · rename_i v hlookup
    cases h
    obtain ⟨before, after, hsplit, -⟩ := List.lookup_eq_some_iff.mp hlookup
    rw [hr.definitions] at hsplit
    have hmem : (text, u) ∈ standard.definitions := by
      rw [hsplit]
      simp
    exact nameable_of_mem hmem
  · exact hr.formed u (List.mem_of_find?_eq_some h)

theorem candidates_mem (hr : r.Standard) {c : Prefix × Unit} (h : c ∈ r.candidates text) :
    c.1 ∈ standardPrefixes ∧ c.2.Nameable := by
  have hreadings : ∀ ending, c ∈ r.readings text ending → c.1 ∈ standardPrefixes ∧ c.2.Nameable := by
    intro ending hc
    obtain ⟨p, hp, hread⟩ := List.mem_filterMap.mp hc
    obtain ⟨stem, -, hstem⟩ := Option.bind_eq_some_iff.mp hread
    split at hstem
    · cases hstem
    · obtain ⟨v, hv, rfl⟩ := Option.map_eq_some_iff.mp hstem
      exact ⟨hr.prefixes ▸ hp, find?_nameable hr hv⟩
  have hall := mem_of_mem_eraseDupsBy _ _ (Nat.le_refl _) (List.mem_filter.mp h).1
  rcases List.mem_append.mp hall with hc | hc
  · exact hreadings _ hc
  · exact hreadings _ hc

theorem recognize?_nameable (hr : r.Standard) (h : r.recognize? text = some (.unit u)) :
    u.Nameable := by
  unfold recognize? at h
  split at h
  · cases h
  · split at h
    · rename_i hfind
      cases h
      exact find?_nameable hr hfind
    · split at h
      · cases h
      · rename_i p v rest hcandidates
        obtain ⟨hp, hv⟩ := candidates_mem (c := (p, v)) hr (by rw [hcandidates]; simp)
        split at h
        · cases h
          exact hv
        · rename_i hname
          split at h
          · cases h
            exact .prefixed hp hname hv
          · cases h

theorem Standard.remember (hr : r.Standard) (hu : u.Nameable) : (r.remember u).Standard := by
  unfold Registry.remember
  split
  · exact hr
  · refine ⟨hr.definitions, hr.prefixes, fun v hv => ?_⟩
    rcases List.mem_append.mp hv with hv | hv
    · exact hr.formed v hv
    · rw [List.mem_singleton.mp hv]
      exact hu

theorem asFactor_nameable (hr : r.Standard) (alone : Bool) (hu : u.Nameable) :
    (r.asFactor alone u).Nameable := by
  unfold asFactor
  split
  · exact hu
  · rcases hfind : r.find? (Unit.differenceMark ++ u.name) with _ | v
    -- a difference that is not found has the name of no known unit
    · refine .difference fun x hx hname => ?_
      unfold find? at hfind
      split at hfind
      · cases hfind
      · rename_i hlookup
        rw [List.lookup_eq_none_iff, hr.definitions] at hlookup
        have hne := hlookup _ (name_spelled hx)
        rw [hname] at hne
        simp at hne
    · exact find?_nameable hr hfind

theorem multiplyBy?_genuine {units units' : Units} {e : Scalar} (hunits : units.Genuine)
    (hu : u.Nameable) (h : multiplyBy? units u e = some units') : units'.Genuine := by
  unfold multiplyBy? at h
  split at h
  · split at h
    · cases h
      exact ⟨hunits.distinct.adjust u e, Powers.adjust_forall e hu hunits.nameable⟩
    · cases h
  · cases h
    exact ⟨hunits.distinct.raise u e, Powers.raise_forall e hu hunits.nameable⟩

/-- Looking up the names of a product finds genuine units and leaves a standard registry. -/
theorem lookUp_genuine {alone : Bool} {powers : Powers String} : ∀ {r r' : Registry} {units : Units}
    {o : Option Units}, r.Standard → units.Genuine → lookUp alone r powers units = (o, r') →
    r'.Standard ∧ ∀ units', o = some units' → units'.Genuine := by
  induction powers with
  | nil =>
    intro r r' units o hr hunits h
    cases h
    exact ⟨hr, fun _ => hunits.of_some⟩
  | cons x rest ih =>
    obtain ⟨text, e⟩ := x
    intro r r' units o hr hunits h
    rw [lookUp] at h
    split at h
    · cases h
      exact ⟨hr, fun _ => Units.genuine_of_none⟩
    · exact ih hr hunits h
    · rename_i u hrecognize
      have hu := recognize?_nameable hr hrecognize
      have hr' := hr.remember hu
      simp only at h
      split at h
      · cases h
        exact ⟨hr', fun _ => Units.genuine_of_none⟩
      · rename_i hmultiply
        exact ih hr' (multiplyBy?_genuine hunits (asFactor_nameable hr' _ hu) hmultiply) h

theorem parse_genuine {o : Except UnitFault Units} (hr : r.Standard)
    (h : r.parse text = (o, r')) : r'.Standard ∧ ∀ units, o = .ok units → units.Genuine := by
  unfold parse at h
  split at h
  · cases h
    exact ⟨hr, fun _ => Units.genuine_of_error⟩
  · split at h
    · split at h
      · rename_i hlookUp
        obtain ⟨hr', hunits⟩ := lookUp_genuine hr Units.genuine_nil hlookUp
        cases h
        exact ⟨hr', fun _ => (hunits _ rfl).of_ok⟩
      · rename_i hlookUp
        cases h
        have hr' := (lookUp_genuine hr Units.genuine_nil hlookUp).1
        exact ⟨hr', fun _ => Units.genuine_of_error⟩
    · cases h
      exact ⟨hr, fun _ => Units.genuine_of_error⟩

theorem parseName_genuine {o : Option Units} (hr : r.Standard) (h : r.parseName text = (o, r')) :
    r'.Standard ∧ ∀ units, o = some units → units.Genuine := by
  unfold parseName at h
  split at h
  · cases h
    exact ⟨hr, fun _ => Units.genuine_of_none⟩
  · cases h
    exact ⟨hr, fun _ => Units.genuine_nil.of_some⟩
  · rename_i u hrecognize
    have hu := recognize?_nameable hr hrecognize
    cases h
    exact ⟨hr.remember hu, fun _ => (Units.genuine_single hu 1).of_some⟩

end Registry

/-- What a registry lists it knows. -/
theorem Registry.exists_find?_of_mem_entries {r : Registry} {name : String} (h : name ∈ r.entries) :
    ∃ u, r.find? name = some u := by
  unfold find?
  cases hlookup : r.definitions.lookup name with
  | some u => exact ⟨u, rfl⟩
  | none =>
    rcases List.mem_append.mp (List.mem_filter.mp h).1 with hmem | hmem
    · obtain ⟨entry, hentry, rfl⟩ := List.mem_map.mp hmem
      have hne := List.lookup_eq_none_iff.mp hlookup entry hentry
      simp at hne
    · obtain ⟨u, hu, rfl⟩ := List.mem_map.mp hmem
      exact Option.isSome_iff_exists.mp (List.find?_isSome.mpr ⟨u, hu, by simp⟩)

/-- A listed name stands for the unit that is known by it. -/
theorem Registry.find?_of_named? {r : Registry} {name : String} {u : Unit} (h : name ∈ r.entries)
    (hu : r.named? name = some u) : r.find? name = some u := by
  obtain ⟨v, hv⟩ := exists_find?_of_mem_entries h
  unfold named? recognize? at hu
  rw [hv] at hu ⊢
  grind

/-- The units in the index are known by a name. -/
theorem Registry.index_known {r : Registry} {entry : String × Spelling} (h : entry ∈ r.index) :
    ∃ name, r.find? name = some entry.2.unit := by
  obtain ⟨spelling, hspelling, rfl⟩ := List.mem_map.mp (mem_of_mem_firstByKey h)
  obtain ⟨name, hname, hmem⟩ := List.mem_flatMap.mp hspelling
  refine ⟨name, ?_⟩
  cases hu : r.named? name with
  | none =>
    rw [hu] at hmem
    cases hmem
  | some u =>
    rw [hu] at hmem
    have hunit : spelling.unit = u := by
      simp only [List.mem_cons, List.not_mem_nil, or_false] at hmem
      rcases hmem with rfl | rfl | rfl <;> rfl
    rw [find?_of_named? (List.mem_mergeSort.mp hname) hu, hunit]

/-- As long as no unit has been formed, the units in the index are those that are defined. -/
theorem Registry.index_defined {r : Registry} (hformed : r.formed = []) {entry : String × Spelling}
    (h : entry ∈ r.index) : ∃ name, (name, entry.2.unit) ∈ r.definitions := by
  obtain ⟨name, hname⟩ := index_known h
  unfold find? at hname
  rw [hformed] at hname
  split at hname
  · rename_i u hlookup
    obtain ⟨before, after, hsplit, -⟩ := List.lookup_eq_some_iff.mp hlookup
    cases hname
    exact ⟨name, by rw [hsplit]; simp⟩
  · cases hname

theorem Registry.index_nameable {r : Registry} (hr : r.Standard) {entry : String × Spelling}
    (h : entry ∈ r.index) : entry.2.unit.Nameable := by
  obtain ⟨name, hname⟩ := index_known h
  exact find?_nameable hr hname

namespace Catalog

/-- A catalog that the catalog of the standard registry turns into as units are looked up. -/
structure Standard (c : Catalog) : Prop where
  registry : c.registry.Standard
  gathered : ∀ g, c.gathered = some g → ∀ entry ∈ g.index, entry.2.unit.Nameable

theorem withAliases_standard (aliases : Aliases) : (withAliases aliases).Standard :=
  ⟨Registry.standard_standard, fun _ h => nomatch h⟩

variable {c c' : Catalog} {text : String}

theorem Standard.index (hc : c.Standard) : ∀ entry ∈ c.index, entry.2.unit.Nameable := by
  unfold Catalog.index glossary
  cases hgathered : c.gathered with
  | none => exact fun entry hentry => Registry.index_nameable hc.registry hentry
  | some g => exact hc.gathered g hgathered

theorem Standard.gather (hc : c.Standard) : c.gather.Standard :=
  ⟨hc.registry, fun _ hg => Option.some.inj hg ▸ hc.index⟩

theorem Standard.withRegistry (hc : c.Standard) {r : Registry} (hr : r.Standard) :
    (c.withRegistry r).Standard := ⟨hr, hc.gathered⟩

theorem Standard.withMemory (hc : c.Standard) (m : Memory) : (c.withMemory m).Standard :=
  ⟨hc.registry, hc.gathered⟩

theorem byName_genuine {o : Option Units} (hc : c.Standard) (h : c.byName text = (o, c')) :
    c'.Standard ∧ ∀ units, o = some units → units.Genuine := by
  unfold byName at h
  split at h
  · cases h
    exact ⟨hc, fun _ => Units.genuine_of_none⟩
  · rcases hparse : c.registry.parseName text with ⟨units, r⟩
    rw [hparse] at h
    cases h
    obtain ⟨hr, hunits⟩ := Registry.parseName_genuine hc.registry hparse
    exact ⟨hc.withRegistry hr, hunits⟩

theorem byIndex_genuine {o : Option Units} (hc : c.Standard) (h : c.byIndex text = (o, c')) :
    c'.Standard ∧ ∀ units, o = some units → units.Genuine := by
  unfold byIndex at h
  simp only at h
  split at h
  · rename_i spelling hlookup
    obtain ⟨before, after, hsplit, -⟩ := List.lookup_eq_some_iff.mp hlookup
    cases h
    have hmem : (Text.fold text, spelling) ∈ c.index := by
      rw [← index_gather, hsplit]
      simp
    exact ⟨hc.gather, fun _ => (Units.genuine_single (hc.index _ hmem) 1).of_some⟩
  · split at h
    · cases h
      exact ⟨hc.gather, fun _ => Units.genuine_of_none⟩
    · exact byName_genuine hc.gather h

theorem byExpression_genuine {o : Except UnitFault Units} (hc : c.Standard)
    (h : c.byExpression text = (o, c')) : c'.Standard ∧ ∀ units, o = .ok units → units.Genuine := by
  unfold byExpression at h
  split at h
  · cases h
    exact ⟨hc, fun _ => Units.genuine_of_error⟩
  · rcases hparse : c.registry.parse text with ⟨units, r⟩
    rw [hparse] at h
    cases h
    obtain ⟨hr, hunits⟩ := Registry.parse_genuine hc.registry hparse
    exact ⟨hc.withRegistry hr, hunits⟩

theorem search_genuine {o : Except UnitFault Units} (hc : c.Standard)
    (h : c.search text = (o, c')) : c'.Standard ∧ ∀ units, o = .ok units → units.Genuine := by
  unfold search at h
  split at h
  · rename_i hname
    obtain ⟨hc', hunits⟩ := byName_genuine hc hname
    cases h
    exact ⟨hc', fun _ => (hunits _ rfl).of_ok⟩
  · rename_i c₁ hname
    have hc₁ := (byName_genuine hc hname).1
    split at h
    · rename_i hindex
      obtain ⟨hc', hunits⟩ := byIndex_genuine hc₁ hindex
      cases h
      exact ⟨hc', fun _ => (hunits _ rfl).of_ok⟩
    · rename_i hindex
      exact byExpression_genuine (byIndex_genuine hc₁ hindex).1 h

/-- **The units that a text means are genuine**, and the catalog stays standard. -/
theorem resolve_genuine {o : Except Failure Units} (hc : c.Standard)
    (h : c.resolve text = (o, c')) : c'.Standard ∧ ∀ units, o = .ok units → units.Genuine := by
  unfold resolve at h
  simp only at h
  split at h
  · split at h <;> rename_i hsearch <;> obtain ⟨hc', hunits⟩ := search_genuine hc hsearch <;> cases h
    · exact ⟨hc', fun _ => (hunits _ rfl).of_ok⟩
    · exact ⟨hc', fun _ => Units.genuine_of_error⟩
    · exact ⟨hc', fun _ => Units.genuine_of_error⟩
  · split at h <;> rename_i hparse <;>
      obtain ⟨hr, hunits⟩ := Registry.parse_genuine hc.registry hparse
    · cases h
      exact ⟨hc.withRegistry hr, fun _ => (hunits _ rfl).of_ok⟩
    · cases h
      exact ⟨hc.withRegistry hr, fun _ => Units.genuine_of_error⟩
    · have hc₁ := hc.withRegistry hr
      split at h <;> rename_i hsearch <;>
        obtain ⟨hc', hunits⟩ := search_genuine hc₁ hsearch <;> cases h
      · exact ⟨hc', fun _ => (hunits _ rfl).of_ok⟩
      · exact ⟨hc', fun _ => Units.genuine_of_error⟩
      · exact ⟨hc', fun _ => Units.genuine_of_error⟩

end Catalog

end Reckon
