import Reckon.Proofs.Text.Fold
import Reckon.Proofs.Unit.Resolution

/-!
# Names of units in other case

A catalog tries its ways to recognize a text one after the other, and the first one that succeeds
decides (`Catalog.way?`, which agrees with `resolve` by `isSome_way?_iff`). The way of expressions
depends on case, since it comes last and nothing catches what it lacks. The others do not: **if the
folded form of a text is recognized as an alias, by the registry or by the index, then so is the
text** (`resolve_of_fold`), whatever the three contain and whatever the registry has learned.

It need not mean the same units. The registry may know the text as it is written, and otherwise the
index is asked before the registry is asked for the folded form, so a unit whose spelling has that
form comes before a prefixed unit (`resolve_fold_of_index`).

What carries this is the end of `byIndex`: where the index lacks a text, the registry is asked for
its folded form, unless it has been asked for just that.
-/

namespace Reckon.Catalog

/-- The ways to recognize a text, in the order in which they are tried. -/
inductive Way where
  | alias
  | name
  | index
  | expression
deriving DecidableEq

/-- How a text is recognized by everything but the table of aliases, if it is. -/
def searchWay? (c : Catalog) (text : String) : Option Way :=
  match c.byName text with
  | (some _, _) => some .name
  | (none, c) =>
    match c.byIndex text with
    | (some _, _) => some .index
    | (none, c) =>
      match c.byExpression text with
      | (.ok _, _) => some .expression
      | (.error _, _) => none

/-- How a text is recognized, if it is. -/
def way? (c : Catalog) (text : String) : Option Way :=
  match Table.get? c.aliases (Text.fold (Text.trim text)) with
  | none => c.searchWay? (Text.trim text)
  | some expression =>
    match c.registry.parse expression with
    | (.ok _, _) => some .alias
    | (.error (.abort _), _) => none
    | (.error .unrecognized, r) => (c.withRegistry r).searchWay? (Text.trim text)

variable {c : Catalog} {text : String}

theorem isSome_searchWay?_iff :
    (c.searchWay? text).isSome ↔ ∃ units, (c.search text).1 = .ok units := by
  unfold searchWay? search
  rcases c.byName text with ⟨_ | units, c₁⟩
  · rcases hindex : c₁.byIndex text with ⟨_ | units, c₂⟩
    · rcases hexpression : c₂.byExpression text with ⟨fault | units, c₃⟩
      · simp [hindex, hexpression]
      · simp [hindex, hexpression]
    · simp [hindex]
  · simp

/-- A text is recognized in some way if and only if it is resolved. -/
theorem isSome_way?_iff : (c.way? text).isSome ↔ ∃ units, (c.resolve text).1 = .ok units := by
  cases halias : Table.get? c.aliases (Text.fold (Text.trim text)) with
  | none =>
    simp only [way?, halias, isSome_searchWay?_iff]
    rcases hsearch : c.search (Text.trim text) with ⟨⟨_ | a⟩ | units, d⟩ <;>
      simp [resolve, halias, hsearch]
  | some expression =>
    rcases hparse : c.registry.parse expression with ⟨⟨_ | a⟩ | units, r⟩
    · simp only [way?, halias, hparse, isSome_searchWay?_iff]
      rcases hsearch : (c.withRegistry r).search (Text.trim text) with ⟨⟨_ | a⟩ | units, d⟩ <;>
        simp [resolve, halias, hparse, hsearch]
    · simp [way?, resolve, halias, hparse]
    · simp [way?, resolve, halias, hparse]

/-- The registry stays as it is when it does not know a name. -/
theorem byName_none {c' : Catalog} (h : c.byName text = (none, c')) : c' = c := by
  unfold byName at h
  split at h
  · cases h
    rfl
  · unfold Registry.parseName at h
    cases hrecognize : c.registry.recognize? text with
    | none =>
      rw [hrecognize] at h
      cases h
      rfl
    | some named => cases named <;> simp [hrecognize] at h

/-- The units of the unit that the index has for a text. -/
def indexed? (c : Catalog) (text : String) : Option Units :=
  (c.index.lookup (Text.fold text)).map fun s => [(s.unit, 1)]

/-- The index has a folded text, or nothing is found in it. -/
theorem byIndex_fold (c : Catalog) (text : String) :
    c.byIndex (Text.fold text) = (c.indexed? text, c.gather) := by
  unfold byIndex indexed?
  simp only [Text.fold_fold, if_true, index_gather]
  cases c.index.lookup (Text.fold text) <;> rfl

/-- The index has the folded form of a text, or else the registry is asked for it. -/
theorem byIndex_of_ne {text : String} (h : text ≠ Text.fold text) :
    (c.byIndex text).1 = (c.indexed? text).or (c.byName (Text.fold text)).1 := by
  unfold byIndex indexed?
  simp only [if_neg h, index_gather]
  cases c.index.lookup (Text.fold text) with
  | some spelling => rfl
  | none => rw [byName_gather]; rfl

theorem trim_folded (s : String) :
    Text.trim (Text.fold (Text.trim s)) = Text.fold (Text.trim s) := by
  rw [Text.trim_fold, Text.trim_trim]

/-- The catalog that is searched for a text: what the alias stands for has been looked up in vain. -/
def searched (c : Catalog) (text : String) : Catalog :=
  match Table.get? c.aliases (Text.fold (Text.trim text)) with
  | none => c
  | some expression => c.withRegistry (c.registry.parse expression).2

/-- How the units `units` of a text come about, if its folded form has the units `units'`: they are the
same, or the registry knows the text as it is written, or it knows only the folded form and the index
has another unit for that. -/
inductive Recased (c : Catalog) (text : String) (units units' : Units) : Prop where
  | same : units = units' → Recased c text units units'
  | written : (c.byName text).1 = some units → Recased c text units units'
  | indexed : (c.byName text).1 = none → (c.byName (Text.fold text)).1 = some units' →
      c.indexed? text = some units → Recased c text units units'

theorem search_of_name {units : Units} (h : (c.byName text).1 = some units) :
    (c.search text).1 = .ok units := by
  rcases hname : c.byName text with ⟨o, c'⟩
  rw [hname] at h
  cases h
  rw [search, hname]

theorem search_of_index {units : Units} (hname : c.byName text = (none, c))
    (h : (c.byIndex text).1 = some units) : (c.search text).1 = .ok units := by
  rcases hindex : c.byIndex text with ⟨o, c'⟩
  rw [hindex] at h
  cases h
  rw [search, hname]
  simp only [hindex]

/-- What the registry or the index makes of the folded form of a text, one of them makes of the
text. -/
theorem search_of_fold {way : Way} (h : c.searchWay? (Text.fold text) = some way)
    (hway : way ≠ .expression) :
    ∃ units units', (c.search text).1 = .ok units ∧ (c.search (Text.fold text)).1 = .ok units' ∧
      c.Recased text units units' := by
  obtain ⟨units', hfold⟩ := isSome_searchWay?_iff.mp (Option.isSome_of_mem h)
  by_cases hfolded : text = Text.fold text
  · rw [← hfolded] at hfold ⊢
    exact ⟨units', units', hfold, hfold, .same rfl⟩
  rcases hname : c.byName text with ⟨_ | units, c'⟩
  case some =>
    have hwritten : (c.byName text).1 = some units := by rw [hname]
    exact ⟨units, units', search_of_name hwritten, hfold, .written hwritten⟩
  cases byName_none hname
  have hindex := c.byIndex_of_ne hfolded
  have hunwritten : (c.byName text).1 = none := by rw [hname]
  rcases hnameFold : c.byName (Text.fold text) with ⟨_ | named, c'⟩ <;> rw [hnameFold] at hindex
  · -- the registry does not know the folded form, so the index has it
    cases byName_none hnameFold
    rw [searchWay?, hnameFold] at h
    simp only [byIndex_fold] at h
    cases hindexed : c.indexed? text with
    | none =>
      simp only [hindexed] at h
      split at h
      · cases h
        exact absurd rfl hway
      · cases h
    | some units =>
      rw [hindexed] at hindex
      have hsame := search_of_index hnameFold (by rw [byIndex_fold]; exact hindexed)
      rw [hsame] at hfold
      obtain rfl : units = units' := Except.ok.inj hfold
      exact ⟨units, units, search_of_index hname hindex, hsame, .same rfl⟩
  · have hnamed : (c.byName (Text.fold text)).1 = some named := by rw [hnameFold]
    rw [search_of_name hnamed] at hfold
    obtain rfl : named = units' := Except.ok.inj hfold
    cases hindexed : c.indexed? text with
    | none =>
      rw [hindexed] at hindex
      exact ⟨named, named, search_of_index hname hindex, search_of_name hnamed, .same rfl⟩
    | some units =>
      rw [hindexed] at hindex
      exact ⟨units, named, search_of_index hname hindex, search_of_name hnamed,
        .indexed hunwritten hnamed hindexed⟩

/-- Where no alias decides, a text has the units that the search finds. -/
theorem resolve_of_search {units : Units}
    (halias : ∀ expression, Table.get? c.aliases (Text.fold (Text.trim text)) = some expression →
      (c.registry.parse expression).1 = .error .unrecognized)
    (h : ((c.searched text).search (Text.trim text)).1 = .ok units) :
    (c.resolve text).1 = .ok units := by
  unfold searched at h
  cases hfound : Table.get? c.aliases (Text.fold (Text.trim text)) with
  | none =>
    simp only [hfound] at h
    rcases hsearch : c.search (Text.trim text) with ⟨o, c'⟩
    rw [hsearch] at h
    cases h
    simp only [resolve, hfound, hsearch]
  | some expression =>
    have hparse := halias expression hfound
    simp only [hfound] at h
    rcases hparsed : c.registry.parse expression with ⟨o, r⟩
    rw [hparsed] at h hparse
    cases hparse
    rcases hsearch : (c.withRegistry r).search (Text.trim text) with ⟨o, c'⟩
    rw [hsearch] at h
    cases h
    simp only [resolve, hfound, hparsed, hsearch]

theorem searchWay?_ne_alias : c.searchWay? text ≠ some .alias := by
  unfold searchWay?
  rcases c.byName text with ⟨_ | units, c₁⟩
  · rcases hindex : c₁.byIndex text with ⟨_ | units, c₂⟩
    · rcases hexpression : c₂.byExpression text with ⟨fault | units, c₃⟩ <;>
        simp [hindex, hexpression]
    · simp [hindex]
  · simp

/-- Where no alias decides, the search does. -/
theorem resolve_of_searchWay {s : String} {way : Way}
    (halias : ∀ expression, Table.get? c.aliases (Text.fold (Text.trim s)) = some expression →
      (c.registry.parse expression).1 = .error .unrecognized)
    (hsearch : (c.searched s).searchWay? (Text.fold (Text.trim s)) = some way)
    (hway : way ≠ .expression) :
    ∃ units units', (c.resolve s).1 = .ok units ∧
      (c.resolve (Text.fold (Text.trim s))).1 = .ok units' ∧
      (way = .alias → units = units') ∧ (c.searched s).Recased (Text.trim s) units units' := by
  have htrim := trim_folded s
  have hsearched : c.searched (Text.fold (Text.trim s)) = c.searched s := by
    unfold searched
    rw [htrim, Text.fold_fold]
  obtain ⟨units, units', hs, ht, hrecased⟩ := search_of_fold hsearch hway
  refine ⟨units, units', resolve_of_search halias hs, resolve_of_search ?_ ?_, ?_, hrecased⟩
  · rw [htrim, Text.fold_fold]
    exact halias
  · rw [hsearched, htrim]
    exact ht
  · rintro rfl
    exact absurd hsearch searchWay?_ne_alias

/-- **A text is recognized if its folded form is recognized as an alias, by the registry or by the
index.** It means the same units, unless no alias decides and the registry knows the text as it is
written, or knows only the folded form while the index has another unit for that. -/
theorem resolve_of_fold {s t : String} {way : Way} (hfold : Text.fold (Text.trim s) = t)
    (hrecognized : c.way? t = some way) (hway : way ≠ .expression) :
    ∃ units units', (c.resolve s).1 = .ok units ∧ (c.resolve t).1 = .ok units' ∧
      (way = .alias → units = units') ∧ (c.searched s).Recased (Text.trim s) units units' := by
  subst hfold
  have htrim := trim_folded s
  unfold way? at hrecognized
  rw [htrim, Text.fold_fold] at hrecognized
  cases halias : Table.get? c.aliases (Text.fold (Text.trim s)) with
  | none =>
    simp only [halias] at hrecognized
    refine resolve_of_searchWay (by rw [halias]; nofun) ?_ hway
    unfold searched
    rw [halias]
    exact hrecognized
  | some expression =>
    simp only [halias] at hrecognized
    rcases hparse : c.registry.parse expression with ⟨⟨_ | a⟩ | units, r⟩ <;>
      simp only [hparse] at hrecognized
    · refine resolve_of_searchWay (by rw [halias]; rintro _ ⟨⟩; rw [hparse]) ?_ hway
      unfold searched
      simp only [halias, hparse]
      exact hrecognized
    · cases hrecognized
    · -- the same alias decides in both cases
      have hs := resolve_of_alias halias hparse
      have halias' : Table.get? c.aliases (Text.fold (Text.trim (Text.fold (Text.trim s)))) =
          some expression := by
        rw [htrim, Text.fold_fold]
        exact halias
      have ht := resolve_of_alias halias' hparse
      exact ⟨units, units, by rw [hs], by rw [ht], fun _ => rfl, .same rfl⟩

theorem resolve_of_fold_kilometer :
    (withAliases []).way? "km" = some .name ∧
      ∃ units units', ((withAliases []).resolve "\tKM ").1 = .ok units ∧
        ((withAliases []).resolve "km").1 = .ok units' ∧
        (Way.name = .alias → units = units') ∧
        ((withAliases []).searched "\tKM ").Recased (Text.trim "\tKM ") units units' := by
  have hway : (withAliases []).way? "km" = some .name := by decide +kernel
  exact ⟨hway, resolve_of_fold (by decide +kernel) hway (by decide)⟩

open Unit.Known in
/-- A registry of two units, in which `nm` is a length and `Nm` a number of meters. -/
def lengths : Registry :=
  { Registry.standard with
    definitions := [("m", meter), ("meter", meter), ("number_meter", number_meter),
      ("Nm", number_meter)] }

theorem indexed_lengths :
    ((ofRegistry lengths []).indexed? "NM").map (·.map (·.1.name)) = some ["number_meter"] := by
  have hsorted : lengths.entries.mergeSort lowercaseFirst = lengths.entries :=
    List.mergeSort_of_pairwise (by decide +kernel)
  unfold indexed? index glossary Glossary.ofIndex
  show ((lengths.index.lookup _).map _).map _ = _
  unfold Registry.index Registry.spellings
  rw [hsorted]
  decide +kernel

/-- **A text can mean other units than its folded form though the registry does not know it as it is
written**: the index has `number_meter` for `NM`, while `nm` is a nanometer. -/
theorem resolve_fold_of_index :
    ¬∀ (c : Catalog) (s t : String) (way : Way), Text.fold (Text.trim s) = t →
      c.way? t = some way → way ≠ .expression →
      ∃ units units', (c.resolve s).1 = .ok units ∧ (c.resolve t).1 = .ok units' ∧
        (units ≠ units' → ((c.searched s).byName (Text.trim s)).1.isSome = true) := by
  intro hclaim
  obtain ⟨units, units', hs, ht, hknown⟩ := hclaim (ofRegistry lengths []) "NM" "nm" .name
    (by decide +kernel) (by decide +kernel) (by decide)
  have hunknown : ((ofRegistry lengths []).byName "NM").1 = none := by
    have hnone : ((ofRegistry lengths []).byName "NM").1.isNone = true := by decide +kernel
    exact Option.isNone_iff_eq_none.mp hnone
  have hnone : (ofRegistry lengths []).byName "NM" = (none, ofRegistry lengths []) := by
    rcases h : (ofRegistry lengths []).byName "NM" with ⟨o, c'⟩
    rw [h] at hunknown
    cases hunknown
    cases byName_none h
    rfl
  have hnames : ((ofRegistry lengths []).byName "nm").1.map (·.map (·.1.name)) =
      some ["nanometer"] := by decide +kernel
  -- the text has the unit of the index, and its folded form the prefixed unit
  obtain ⟨written, hwritten, hnumber⟩ := Option.map_eq_some_iff.mp indexed_lengths
  obtain ⟨folded, hfolded, hnano⟩ := Option.map_eq_some_iff.mp hnames
  have hindex := (ofRegistry lengths []).byIndex_of_ne (by decide +kernel : "NM" ≠ Text.fold "NM")
  rw [hwritten, Option.some_or] at hindex
  have hresolve {text : String} {units : Units} (htrim : Text.trim text = text)
      (h : ((ofRegistry lengths []).search text).1 = .ok units) :
      ((ofRegistry lengths []).resolve text).1 = .ok units :=
    resolve_of_search (by rintro _ ⟨⟩) (by rw [htrim]; exact h)
  have hs' := hresolve (by decide +kernel) (search_of_index hnone hindex)
  have ht' := hresolve (by decide +kernel) (search_of_name hfolded)
  rw [hs'] at hs
  rw [ht'] at ht
  cases hs
  cases ht
  have hne : units ≠ units' := by
    rintro rfl
    exact absurd (hnumber.symm.trans hnano) (by decide)
  have hsome := hknown hne
  rw [show ((ofRegistry lengths []).searched "NM").byName (Text.trim "NM") = _ from hnone] at hsome
  cases hsome

end Reckon.Catalog
