import Reckon.Catalog

/-!
# What looking up a unit touches

Resolving a text may make the registry know new units, and it may gather the spellings. Whatever
these two steps guarantee, resolving guarantees (`Catalog.Growth.resolve`): nothing else in the
catalog changes, and the registry only grows (`Catalog.resolve_extends`).

* What has been worked out about units plays no part in it (`Catalog.resolve_withMemory`).
* If no unit becomes known, it makes no difference whether the spellings have been gathered before
  (`Catalog.Settles.resolve_gather`).
-/

namespace Reckon

namespace Registry

/-- A relation that holds between a registry and what remembering units makes of it. -/
structure Growth (R : Registry → Registry → Prop) : Prop where
  refl : ∀ r, R r r
  trans : ∀ {a b c}, R a b → R b c → R a c
  remember : ∀ r u, R r (r.remember u)

section Growth

variable {R : Registry → Registry → Prop} (hR : Growth R)
include hR

theorem Growth.lookUp (alone : Bool) (powers : Powers String) :
    ∀ (r : Registry) (units : Units), R r (lookUp alone r powers units).2 := by
  induction powers with
  | nil => exact fun r _ => hR.refl r
  | cons power rest ih =>
    intro r units
    unfold Registry.lookUp
    split
    · exact hR.refl r
    · exact ih r units
    · rename_i u _
      simp only
      split
      · exact hR.remember r u
      · exact hR.trans (hR.remember r u) (ih _ _)

theorem Growth.parse (r : Registry) (text : String) : R r (r.parse text).2 := by
  unfold Registry.parse
  split
  · exact hR.refl r
  · rename_i powers _
    have hlookUp := hR.lookUp (powers.length == 1) powers r []
    split
    · split <;> rename_i h <;> rw [h] at hlookUp <;> exact hlookUp
    · exact hR.refl r

theorem Growth.parseName (r : Registry) (text : String) : R r (r.parseName text).2 := by
  unfold Registry.parseName
  split
  · exact hR.refl r
  · exact hR.refl r
  · exact hR.remember r _

end Growth

/-- The second registry knows the units of the first one, and may have formed more of them. -/
structure Extends (r r' : Registry) : Prop where
  renewed : r'.renewed = r.renewed
  formed : r.formed <+: r'.formed

theorem Extends.eq_of_extends {r r' : Registry} (h : r.Extends r') (h' : r'.Extends r) : r = r' := by
  obtain ⟨definitions, prefixes, formed⟩ := r
  obtain ⟨definitions', prefixes', formed'⟩ := r'
  have hrenewed := h.renewed
  simp only [Registry.renewed, mk.injEq] at hrenewed
  obtain ⟨rfl, rfl, -⟩ := hrenewed
  have hformed : formed = formed' := h.formed.eq_of_length_le h'.formed.length_le
  rw [hformed]

theorem extends_growth : Growth Extends where
  refl _ := ⟨rfl, List.prefix_rfl⟩
  trans h h' := ⟨h'.renewed.trans h.renewed, h.formed.trans h'.formed⟩
  remember r u := by
    unfold remember
    split
    · exact ⟨rfl, List.prefix_rfl⟩
    · exact ⟨rfl, List.prefix_append _ _⟩

end Registry

namespace Catalog

/-- Replaces what has been worked out about units. -/
def withMemory (c : Catalog) (m : Memory) : Catalog := { c with memory := m }

@[simp] theorem registry_gather (c : Catalog) : c.gather.registry = c.registry := rfl

@[simp] theorem aliases_gather (c : Catalog) : c.gather.aliases = c.aliases := rfl

@[simp] theorem glossary_gather (c : Catalog) : c.gather.glossary = c.glossary := rfl

@[simp] theorem index_gather (c : Catalog) : c.gather.index = c.index := rfl

theorem unrecognized_gather (c : Catalog) (text : String) :
    c.gather.unrecognized text = c.unrecognized text := by
  unfold unrecognized suggest known
  rw [glossary_gather]

theorem gather_eq_of_isSome {c : Catalog} (h : c.gathered.isSome = true) : c.gather = c := by
  obtain ⟨registry, aliases, gathered, memory⟩ := c
  obtain ⟨glossary, rfl⟩ := Option.isSome_iff_exists.mp h
  rfl

/-- A relation that holds between a catalog and what remembering units and gathering spellings make of
it. -/
structure Growth (R : Catalog → Catalog → Prop) : Prop where
  refl : ∀ c, R c c
  trans : ∀ {a b c}, R a b → R b c → R a c
  remember : ∀ c u, R c (c.withRegistry (c.registry.remember u))
  gather : ∀ c, R c c.gather

section Growth

variable {R : Catalog → Catalog → Prop} (hR : Growth R) (c : Catalog) (text : String)
include hR

/-- With the rest of the catalog fixed, the relation is one between registries. -/
theorem Growth.registry : Registry.Growth fun r r' => R (c.withRegistry r) (c.withRegistry r') where
  refl _ := hR.refl _
  trans := hR.trans
  remember r u := hR.remember (c.withRegistry r) u

theorem Growth.byName : R c (c.byName text).2 := by
  unfold Catalog.byName
  split
  · exact hR.refl c
  · exact (hR.registry c).parseName c.registry text

theorem Growth.byIndex : R c (c.byIndex text).2 := by
  unfold Catalog.byIndex
  simp only
  split
  · exact hR.gather c
  · split
    · exact hR.gather c
    · exact hR.trans (hR.gather c) (hR.byName _ _)

theorem Growth.byExpression : R c (c.byExpression text).2 := by
  unfold Catalog.byExpression
  split
  · exact hR.refl c
  · exact (hR.registry c).parse c.registry text

theorem Growth.search : R c (c.search text).2 := by
  have hname := hR.byName c text
  unfold Catalog.search
  split
  · rename_i h
    rw [h] at hname
    exact hname
  · rename_i c₁ h
    rw [h] at hname
    have hindex := hR.byIndex c₁ text
    split
    · rename_i h'
      rw [h'] at hindex
      exact hR.trans hname hindex
    · rename_i c₂ h'
      rw [h'] at hindex
      exact hR.trans (hR.trans hname hindex) (hR.byExpression c₂ text)

/-- **What remembering and gathering guarantee, resolving a text guarantees.** -/
theorem Growth.resolve : R c (c.resolve text).2 := by
  unfold Catalog.resolve
  simp only
  split
  · have hsearch := hR.search c (Text.trim text)
    split <;> rename_i h <;> rw [h] at hsearch <;> exact hsearch
  · rename_i expression _
    have hparse := (hR.registry c).parse c.registry expression
    split
    · rename_i h
      rw [h] at hparse
      exact hparse
    · rename_i h
      rw [h] at hparse
      exact hparse
    · rename_i r h
      rw [h] at hparse
      have hsearch := hR.search (c.withRegistry r) (Text.trim text)
      split <;> rename_i h' <;> rw [h'] at hsearch <;> exact hR.trans hparse hsearch

end Growth

theorem extends_growth : Growth fun c c' => c.registry.Extends c'.registry where
  refl _ := Registry.extends_growth.refl _
  trans := Registry.extends_growth.trans
  remember _ _ := Registry.extends_growth.remember _ _
  gather _ := Registry.extends_growth.refl _

/-- **The registry only grows.** -/
theorem resolve_extends (c : Catalog) (text : String) :
    c.registry.Extends (c.resolve text).2.registry :=
  extends_growth.resolve c text

/-- Looking units up leaves the aliases and what has been worked out as they are. -/
theorem rest_growth : Growth fun c c' => c'.aliases = c.aliases ∧ c'.memory = c.memory where
  refl _ := ⟨rfl, rfl⟩
  trans h h' := ⟨h'.1.trans h.1, h'.2.trans h.2⟩
  remember _ _ := ⟨rfl, rfl⟩
  gather _ := ⟨rfl, rfl⟩

theorem resolve_aliases (c : Catalog) (text : String) : (c.resolve text).2.aliases = c.aliases :=
  (rest_growth.resolve c text).1

theorem resolve_memory (c : Catalog) (text : String) : (c.resolve text).2.memory = c.memory :=
  (rest_growth.resolve c text).2

section Memory

variable (c : Catalog) (m : Memory) (text : String)

theorem gather_withMemory : (c.withMemory m).gather = c.gather.withMemory m := rfl

theorem byName_withMemory :
    (c.withMemory m).byName text = ((c.byName text).1, (c.byName text).2.withMemory m) := by
  unfold byName
  split <;> rfl

theorem byIndex_withMemory :
    (c.withMemory m).byIndex text = ((c.byIndex text).1, (c.byIndex text).2.withMemory m) := by
  have hindex : (c.gather.withMemory m).index = c.gather.index := rfl
  unfold byIndex
  simp only [gather_withMemory, hindex]
  split
  · rfl
  · split
    · rfl
    · exact byName_withMemory ..

theorem byExpression_withMemory :
    (c.withMemory m).byExpression text =
      ((c.byExpression text).1, (c.byExpression text).2.withMemory m) := by
  unfold byExpression
  split <;> rfl

theorem search_withMemory :
    (c.withMemory m).search text = ((c.search text).1, (c.search text).2.withMemory m) := by
  unfold search
  rw [byName_withMemory]
  rcases c.byName text with ⟨_ | units, c₁⟩
  · simp only
    rw [byIndex_withMemory]
    rcases c₁.byIndex text with ⟨_ | units, c₂⟩
    · exact byExpression_withMemory ..
    · rfl
  · rfl

/-- **What has been worked out about units plays no part in resolving a text.** -/
theorem resolve_withMemory :
    (c.withMemory m).resolve text = ((c.resolve text).1, (c.resolve text).2.withMemory m) := by
  have haliases : (c.withMemory m).aliases = c.aliases := rfl
  have hregistry : (c.withMemory m).registry = c.registry := rfl
  unfold resolve
  simp only [haliases, hregistry]
  split
  · rw [search_withMemory]
    rcases c.search (Text.trim text) with ⟨(_ | a) | units, c₁⟩ <;> rfl
  · rcases c.registry.parse _ with ⟨(_ | a) | units, r⟩
    · simp only
      have hwith : (c.withMemory m).withRegistry r = (c.withRegistry r).withMemory m := rfl
      rw [hwith, search_withMemory]
      rcases (c.withRegistry r).search (Text.trim text) with ⟨(_ | a) | units, c₁⟩ <;> rfl
    · rfl
    · rfl

end Memory

/-! ### Texts that make no unit known -/

/-- Resolving the text leaves the registry as it is. -/
def Settles (c : Catalog) (text : String) : Prop :=
  (c.resolve text).2.registry = c.registry

/-- A catalog whose spellings have been gathered changes in nothing but the registry. -/
theorem gathered_growth :
    Growth fun c c' => c.gathered.isSome = true → c' = c.withRegistry c'.registry where
  refl _ _ := rfl
  trans := by
    intro a b c h h' ha
    rw [h ha] at h'
    exact h' ha
  remember _ _ _ := rfl
  gather _ hc := gather_eq_of_isSome hc

theorem byName_gather (c : Catalog) (text : String) : c.gather.byName text =
    ((c.byName text).1, c.gather.withRegistry (c.byName text).2.registry) := by
  unfold byName
  split <;> rfl

theorem byName_snd (c : Catalog) (text : String) :
    (c.byName text).2 = c.withRegistry (c.byName text).2.registry := by
  unfold byName
  split <;> rfl

/-- Where the name is looked up in vain, the search goes on with the registry that this leaves. -/
theorem extends_search_of_none {c c₁ : Catalog} {text : String} (h : c.byName text = (none, c₁)) :
    c₁.registry.Extends (c.search text).2.registry := by
  have hindex := extends_growth.byIndex c₁ text
  unfold search
  rw [h]
  simp only
  split
  · rename_i hfound
    rw [hfound] at hindex
    exact hindex
  · rename_i c₂ hfound
    rw [hfound] at hindex
    exact Registry.extends_growth.trans hindex (extends_growth.byExpression c₂ text)

/-- If no unit becomes known, it makes no difference to a search whether the spellings have been
gathered before. -/
theorem search_gather {c : Catalog} {text : String}
    (h : (c.search text).2.registry = c.registry) :
    (c.search text).2.gather = c.gather ∧ c.gather.search text = ((c.search text).1, c.gather) := by
  have hname := extends_growth.byName c text
  have hsnd := c.byName_snd text
  have hgather := c.byName_gather text
  rcases hbyName : c.byName text with ⟨_ | units, c₁⟩ <;> rw [hbyName] at hname hsnd hgather
  · have hregistry := hname.eq_of_extends (h ▸ extends_search_of_none hbyName)
    rw [← hregistry] at hsnd hgather
    cases hsnd
    -- from here on the spellings are gathered in either case
    have hsame : c.gather.search text = c.search text := by
      unfold search
      rw [hgather, hbyName]
      rfl
    have hgrown := gathered_growth.search c.gather text rfl
    rw [hsame, h] at hgrown
    rw [hsame, Prod.ext_iff, hgrown]
    exact ⟨rfl, rfl, rfl⟩
  · have hfound : c.search text = (.ok units, c₁) := by
      unfold search
      rw [hbyName]
    rw [hfound] at h ⊢
    rw [h] at hsnd
    rw [h] at hgather
    cases hsnd
    refine ⟨rfl, ?_⟩
    unfold search
    rw [hgather]
    rfl

/-- **If no unit becomes known, it makes no difference whether the spellings have been gathered
before**, and whether they have been is all that can change. -/
theorem Settles.resolve_gather {c : Catalog} {text : String} (h : c.Settles text) :
    (c.resolve text).2.gather = c.gather ∧
      c.gather.resolve text = ((c.resolve text).1, c.gather) := by
  unfold Settles at h
  unfold resolve at h ⊢
  simp only [aliases_gather, registry_gather] at h ⊢
  generalize Table.get? c.aliases (Text.fold (Text.trim text)) = alias? at h ⊢
  cases alias? with
  | none =>
    have hsearch := @search_gather c (Text.trim text)
    generalize c.search (Text.trim text) = found, c.gather.search (Text.trim text) = found'
      at h hsearch ⊢
    rcases found with ⟨(_ | a) | units, c₁⟩ <;> simp only at h hsearch ⊢ <;>
      obtain ⟨hgather, rfl⟩ := hsearch h
    · -- the suggestions depend on the spellings alone
      simp only
      rw [← c₁.unrecognized_gather, hgather]
      exact ⟨rfl, rfl⟩
    · exact ⟨hgather, rfl⟩
    · exact ⟨hgather, rfl⟩
  | some expression =>
    have hparse := Registry.extends_growth.parse c.registry expression
    simp only at h ⊢
    generalize c.registry.parse expression = parsed at h hparse ⊢
    rcases parsed with ⟨(_ | a) | units, r⟩ <;> simp only at h hparse ⊢
    · have hextends := extends_growth.search (c.withRegistry r) (Text.trim text)
      have hsearch := @search_gather (c.withRegistry r) (Text.trim text)
      have hreturn : c.gather.withRegistry c.registry = (c.withRegistry c.registry).gather := rfl
      generalize (c.withRegistry r).search (Text.trim text) = found at h hextends hsearch ⊢
      rcases found with ⟨(_ | a) | units, c₁⟩ <;> simp only at h hextends hsearch ⊢
      all_goals
        obtain rfl : c.registry = r := hparse.eq_of_extends (h ▸ hextends)
        obtain ⟨hgather, hsame⟩ := hsearch h
        rw [hreturn, hsame]
        exact ⟨hgather, rfl⟩
    all_goals
      obtain rfl : r = c.registry := h
      exact ⟨rfl, rfl⟩

/-- The spellings of a catalog stay gathered. -/
theorem isSome_growth : Growth fun c c' => c.gathered.isSome = true → c'.gathered.isSome = true where
  refl _ := id
  trans h h' := h' ∘ h
  remember _ _ := id
  gather _ _ := rfl

/-- All that has been added to the first catalog is what has been worked out about units, and perhaps
its spellings have been gathered. -/
def Becomes (c d : Catalog) : Prop := d = c.withMemory d.memory ∨ d = c.gather.withMemory d.memory

section Becomes

variable {c d e : Catalog} {text : String}

theorem Becomes.refl (c : Catalog) : c.Becomes c := .inl rfl

theorem Becomes.withMemory (h : c.Becomes d) (m : Memory) : c.Becomes (d.withMemory m) := by
  rcases h with h | h <;> rw [h]
  · exact .inl rfl
  · exact .inr rfl

theorem Becomes.trans (h : c.Becomes d) (h' : d.Becomes e) : c.Becomes e := by
  rcases h with h | h <;> rcases h' with h' | h' <;> rw [h] at h'
  · exact .inl h'
  all_goals exact .inr h'

theorem Becomes.gather (h : c.Becomes d) : d.gather = c.gather.withMemory d.memory := by
  rcases h with h | h <;> exact congrArg Catalog.gather h

theorem Settles.resolve_becomes (h : c.Settles text) : c.Becomes (c.resolve text).2 := by
  have hgather := h.resolve_gather.1
  have hmemory := c.resolve_memory text
  have hgathered := isSome_growth.resolve c text
  obtain ⟨registry, aliases, gathered, memory⟩ := c
  generalize (resolve _ text).2 = d at hgather hmemory hgathered
  obtain ⟨registry', aliases', gathered', memory'⟩ := d
  obtain ⟨rfl, rfl, hglossary, rfl⟩ := mk.inj hgather
  cases gathered' with
  | some glossary => exact .inr (by rw [← hgather]; rfl)
  | none =>
    cases gathered with
    | some glossary => exact nomatch hgathered rfl
    | none => exact .inl rfl

/-- **What adds nothing to a catalog adds nothing to what has become of it**, and means the same in
both. -/
theorem Becomes.resolve (h : c.Becomes d) (htext : c.Settles text) :
    d.Settles text ∧ (d.resolve text).1 = (c.resolve text).1 := by
  have hgather := htext.resolve_gather.2
  unfold Settles at htext ⊢
  rcases h with h | h
  · rw [h, resolve_withMemory]
    exact ⟨htext, rfl⟩
  · rw [h, resolve_withMemory, hgather]
    exact ⟨rfl, rfl⟩

end Becomes

end Catalog

end Reckon
