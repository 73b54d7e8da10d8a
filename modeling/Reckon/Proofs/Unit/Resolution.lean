import Reckon.Proofs.Catalog
import Reckon.Proofs.Scalar

/-!
# Looking units up

How a text is resolved, step by step, and what that leaves alone. Apart from the prefixed units that
are formed on the way and the spellings that are gathered, a catalog stays as it was set up:
`Catalog.renewed` is the same before and after (`Catalog.renewed_resolve`).
-/

namespace Reckon

deriving instance DecidableEq for UnitAtom, UnitToken

/-- A text that is a single name. -/
theorem UnitTerm.read_name (name : String) {text : String} (hblank : Text.isBlankText text = false)
    (hscan : UnitToken.scan? (Wording.spellOut text.toList) = some [.atom (.name name)]) :
    read text = .ok (1, [(name, 1)]) := by
  have hparse : UnitExpr.parse text = .ok (.atom (.name name)) := by
    unfold UnitExpr.parse
    rw [hscan]
    simp [UnitExpr.climb, UnitExpr.depthLimit, UnitToken.balance]
  unfold read
  rw [hblank, hparse]
  rfl

/-- A text that is a product of two names. -/
theorem UnitTerm.read_product (first second : String) {text : String}
    (hblank : Text.isBlankText text = false)
    (hscan : UnitToken.scan? (Wording.spellOut text.toList) =
      some [.atom (.name first), .operator .multiply, .atom (.name second)]) :
    read text = .ok (1, merge [(first, 1)] [(second, 1)]) := by
  have hparse : UnitExpr.parse text =
      .ok (.binary (.atom (.name first)) .multiply (.atom (.name second))) := by
    unfold UnitExpr.parse
    rw [hscan]
    simp [UnitExpr.climb, UnitExpr.depthLimit, UnitOperator.level, UnitExpr.Tree.join,
      UnitToken.balance]
  unfold read
  rw [hblank, hparse]
  rfl

namespace Registry

/-- The ways to take a prefix and an ending off a text; a plural of a single letter does not
count. -/
def stems (prefixes : List Prefix) (text ending : String) : List (Prefix × String) :=
  prefixes.filterMap fun p =>
    (stem? text p.spelling ending).bind fun stem =>
      if ending = "s" && stem.length == 1 then none else some (p, stem)

theorem readings_eq (r : Registry) (text ending : String) :
    r.readings text ending =
      (stems r.prefixes text ending).filterMap fun x => (r.find? x.2).map fun u => (x.1, u) := by
  unfold readings stems
  rw [List.filterMap_filterMap]
  congr 1
  funext p
  cases stem? text p.spelling ending with
  | none => rfl
  | some stem =>
    simp only [Option.bind_some]
    split <;> rfl

theorem parse_of_name {r : Registry} {text name : String} {u : Unit}
    (hread : UnitTerm.read text = .ok (1, [(name, 1)]))
    (h : r.recognize? name = some (.unit u)) : r.parse text = (.ok [(u, 1)], r.remember u) := by
  unfold parse
  rw [hread]
  simp only [lookUp, h]
  rfl

end Registry

namespace Catalog

/-! ### What stays as it was set up -/

theorem renewed_growth : Growth fun c c' => c'.renewed = c.renewed where
  refl _ := rfl
  trans h h' := h'.trans h
  remember c u := by
    unfold renewed withRegistry
    rw [(Registry.extends_growth.remember c.registry u).renewed]
  gather _ := rfl

/-- **Looking units up leaves the setup as it is.** -/
theorem renewed_resolve (c : Catalog) (text : String) : (c.resolve text).2.renewed = c.renewed :=
  renewed_growth.resolve c text

/-- A catalog is its setup together with the units that have been formed, the spellings that have been
gathered and what has been worked out. -/
theorem eq_of_renewed {c c' : Catalog} (h : c.renewed = c'.renewed)
    (hformed : c.registry.formed = c'.registry.formed) (hgathered : c.gathered = c'.gathered)
    (hmemory : c.memory = c'.memory) : c = c' := by
  obtain ⟨⟨definitions, prefixes, formed⟩, aliases, gathered, memory⟩ := c
  obtain ⟨⟨definitions', prefixes', formed'⟩, aliases', gathered', memory'⟩ := c'
  simp only [renewed, Registry.renewed, mk.injEq, Registry.mk.injEq] at h
  obtain ⟨⟨rfl, rfl, -⟩, rfl, -, -⟩ := h
  cases hformed
  cases hgathered
  cases hmemory
  rfl

/-! ### The ways to find a unit -/

theorem resolve_of_alias {c : Catalog} {text expression : String} {units : Units} {r : Registry}
    (halias : Table.get? c.aliases (Text.fold (Text.trim text)) = some expression)
    (hparse : c.registry.parse expression = (.ok units, r)) :
    c.resolve text = (.ok units, c.withRegistry r) := by
  unfold resolve
  simp only [halias, hparse]

theorem resolve_of_recognized {c : Catalog} {text : String} {u : Unit}
    (htrim : Text.trim text = text) (halias : Table.get? c.aliases (Text.fold text) = none)
    (hne : text ≠ "") (h : c.registry.recognize? text = some (.unit u)) :
    c.resolve text = (.ok [(u, 1)], c.withRegistry (c.registry.remember u)) := by
  unfold resolve search byName Registry.parseName
  simp only [htrim, halias, if_neg hne, h]

/-- A text that the registry does not recognize may still be in the index. -/
theorem mem_index_of_resolve {c : Catalog} {text : String} {units : Units}
    (htrim : Text.trim text = text) (hfold : Text.fold text = text)
    (halias : Table.get? c.aliases text = none) (hread : UnitTerm.read text = .ok (1, [(text, 1)]))
    (h : c.registry.recognize? text = none) (hresolve : (c.resolve text).1 = .ok units) :
    ∃ entry ∈ c.index, units = [(entry.2.unit, 1)] := by
  have hname : c.byName text = (none, c) := by
    unfold byName Registry.parseName
    rw [h]
    split <;> rfl
  -- as a single name it fails in the same way when it is read as a product of units
  have hexpression : (c.gather.byExpression text).1 = .error .unrecognized := by
    unfold byExpression Registry.parse
    rw [hread]
    simp only [registry_gather, Registry.lookUp, h]
    split <;> rfl
  unfold resolve search byIndex at hresolve
  simp only [htrim, hfold, halias, hname, if_true, index_gather] at hresolve
  cases hindex : c.index.lookup text with
  | some spelling =>
    obtain ⟨before, after, hsplit, -⟩ := List.lookup_eq_some_iff.mp hindex
    rw [hindex] at hresolve
    cases hresolve
    refine ⟨(text, spelling), ?_, rfl⟩
    rw [hsplit]
    simp
  | none =>
    simp only [hindex] at hresolve
    rcases hfound : c.gather.byExpression text with ⟨o, c'⟩
    rw [hfound] at hexpression hresolve
    cases hexpression
    cases hresolve

end Catalog

end Reckon
