import Reckon.Proofs.Document.Agreement
import Reckon.Proofs.Unit.Lookup
import Reckon.Proofs.Unit.Resolution

/-!
# What the outcome of a document depends on

A document is evaluated in a cleared session. No variable, function or call of earlier steps is left
then, but units are: prefixed units that have been formed can be named from then on, the spellings
that have been gathered are kept, with what had been formed by then, and what has been worked out
about products of units is not worked out again. Sessions with the same setup that agree in these
three give a document the same outcome (`evaluate_eq_of_same_units`). Sessions that do not may differ:
a prefix can be put before a unit that an earlier step has formed
(`evaluate_depends_on_formed_units`).
-/

namespace Reckon

namespace Session

theorem renewed_evolution : Evolution fun c c' => c'.renewed = c.renewed where
  refl := fun _ => rfl
  trans := fun hab hbc => hbc.trans hab
  resolve := Catalog.renewed_resolve
  operate := fun _ _ _ _ => rfl

theorem renewed_preserved (limits : Limits) (c : Catalog) :
    Preserved limits (fun _ => True) fun s => s.catalog.renewed = c where
  statement := fun _ _ => trivial
  evaluate := by
    intro s n _ hs
    obtain ⟨o, h, -⟩ := exists_evaluates (rfl : s.evaluate limits n = _)
    exact (h.evolves renewed_evolution).trans hs
  clear := id

/-- **No step changes the setup of the catalog.** -/
theorem renewed_history (limits : Limits) (catalog : Catalog) (steps : List Step) :
    (history limits catalog steps).catalog.renewed = catalog.renewed :=
  (renewed_preserved limits catalog.renewed).history
    (fun text hs => (Catalog.renewed_resolve _ text).trans hs) rfl steps

end Session

namespace Document

open Session

/-- **The outcome of a document depends on nothing but its text, the setup of the catalog, the units
that have been formed, the spellings that have been gathered and what has been worked out about
units**, whatever the session has gone through, and so do the variables and functions that it
leaves. -/
theorem evaluate_eq_of_same_units (limits : Limits) (catalog catalog' : Catalog)
    (hsetup : catalog.renewed = catalog'.renewed) (steps steps' : List Step)
    (hformed : (history limits catalog steps).catalog.registry.formed =
      (history limits catalog' steps').catalog.registry.formed)
    (hgathered : (history limits catalog steps).catalog.gathered =
      (history limits catalog' steps').catalog.gathered)
    (hmemory : (history limits catalog steps).catalog.memory =
      (history limits catalog' steps').catalog.memory) (text : String) :
    evaluate (history limits catalog steps) limits text =
      evaluate (history limits catalog' steps') limits text := by
  have hcatalog : (history limits catalog steps).catalog =
      (history limits catalog' steps').catalog := by
    refine Catalog.eq_of_renewed ?_ hformed hgathered hmemory
    rw [renewed_history, renewed_history, hsetup]
  have hclear : (history limits catalog steps).clear = (history limits catalog' steps').clear := by
    rw [clear_history, clear_history, hcatalog]
  unfold evaluate
  rw [hclear]

/-- A session that has bound a variable gives the same outcome as one that has done nothing. -/
theorem evaluate_eq_of_same_units_after_binding :
    evaluate (history .standard .standard
        [.request (.node (.assignment "x" (.number 1 none .nowhere) .nowhere))]) .standard "x" =
      evaluate (history .standard .standard []) .standard "x" := by
  have heval : Evaluates ((fresh .standard).callsLeft .standard) Limits.standard.nesting
      (fresh .standard) (.assignment "x" (.number 1 none .nowhere) .nowhere) (.ok (.number 1))
      ((fresh .standard).bind "x" (.number 1)) := .assignment rfl (.number rfl rfl)
  have hcatalog : (history .standard .standard
      [.request (.node (.assignment "x" (.number 1 none .nowhere) .nowhere))]).catalog =
      .standard := by
    show ((fresh .standard).evaluate .standard _).2.catalog = _
    unfold Session.evaluate
    rw [heval.eval_eq]
    rfl
  refine evaluate_eq_of_same_units _ _ _ rfl _ _ ?_ ?_ ?_ _
  · rw [hcatalog]
    rfl
  · rw [hcatalog]
    rfl
  · rw [hcatalog]
    rfl

end Document

/-! ### A prefix before a unit that has been formed -/

namespace Document

open Session Unit.Known

/-- The prefix for a thousandth. -/
def milli : Prefix := ⟨"milli", "milli", "m", 0.001⟩

/-- A thousandth of a meter. -/
def millimeter : Unit := milli.apply meter

/-- The standard registry after a millimeter has been named. -/
def withMillimeter : Registry := { Registry.standard with formed := [millimeter] }

/-- A text that starts with the prefix, after which something is known, means a thousandth of
that. -/
theorem recognize?_of_stems {r : Registry} (hr : r.prefixes = Registry.standardPrefixes)
    (text first second : String) (hname : text ≠ "dimensionless")
    (hstems : Registry.stems Registry.standardPrefixes text "" =
      [(⟨"", "", "", 1⟩, text), (milli, first), (⟨"m", "milli", "m", 0.001⟩, second)])
    (hplural : Registry.stems Registry.standardPrefixes text "s" = [])
    (htext : r.find? text = none) (hsecond : r.find? second = none)
    (hfirst : ∀ u, r.find? first = some u → u.isMultiplicative = true) :
    r.recognize? text = (r.find? first).map fun u => .unit (milli.apply u) := by
  -- of the three stems, only the one after the whole prefix can be known
  have hreadings : r.readings text "" = (r.find? first).toList.map fun u => (milli, u) := by
    rw [Registry.readings_eq, hr, hstems]
    simp only [List.filterMap_cons, List.filterMap_nil, htext, hsecond]
    cases r.find? first <;> rfl
  have hplurals : r.readings text "s" = [] := by
    rw [Registry.readings_eq, hr, hplural]
    rfl
  have hcandidates : r.candidates text = (r.find? first).toList.map fun u => (milli, u) := by
    unfold Registry.candidates
    rw [hreadings, hplurals]
    cases r.find? first <;> rfl
  unfold Registry.recognize?
  rw [if_neg hname, htext, hcandidates]
  cases hfind : r.find? first with
  | none => rfl
  | some u =>
    have hmilli : milli.name ≠ "" := by decide
    simp only [Option.toList_some, List.map_cons, if_neg hmilli, if_pos (hfirst u hfind)]
    rfl

/-- Names that are not defined. -/
def undefined : List String := ["millimeter", "illimeter", "millimillimeter", "illimillimeter"]

theorem lookup_undefined {text : String} (h : text ∈ undefined) :
    Registry.standard.definitions.lookup text = none := by
  have hall : undefined.all
      (fun text => (Registry.standard.definitions.lookup text).isNone) = true := by
    decide +kernel
  exact Option.isNone_iff_eq_none.mp (List.all_eq_true.mp hall text h)

theorem find?_undefined (r : Registry) (hr : r.definitions = Registry.standard.definitions)
    {text : String} (h : text ∈ undefined) : r.find? text = r.formed.find? (·.name == text) := by
  unfold Registry.find?
  rw [hr, lookup_undefined h]

theorem find?_standard {text : String} (h : text ∈ undefined) :
    Registry.standard.find? text = none := by
  rw [find?_undefined .standard rfl h]
  rfl

theorem find?_withMillimeter {text : String} (h : text ∈ undefined) :
    withMillimeter.find? text = [millimeter].find? (·.name == text) :=
  find?_undefined withMillimeter rfl h

theorem recognize?_millimeter :
    Registry.standard.recognize? "millimeter" = some (.unit millimeter) := by
  have hmeter : Registry.standard.find? "meter" = some meter := rfl
  rw [recognize?_of_stems rfl "millimeter" "meter" "illimeter" (by decide) rfl rfl
    (find?_standard (by simp [undefined])) (find?_standard (by simp [undefined])), hmeter]
  · rfl
  · rw [hmeter]
    rintro u ⟨⟩
    rfl

theorem recognize?_millimillimeter : Registry.standard.recognize? "millimillimeter" = none := by
  have hnone : Registry.standard.find? "millimeter" = none := find?_standard (by simp [undefined])
  rw [recognize?_of_stems rfl "millimillimeter" "millimeter" "illimillimeter" (by decide) rfl rfl
    (find?_standard (by simp [undefined])) (find?_standard (by simp [undefined])), hnone]
  · rfl
  · rw [hnone]
    rintro u ⟨⟩

theorem recognize?_withMillimeter :
    withMillimeter.recognize? "millimillimeter" = some (.unit (milli.apply millimeter)) := by
  have hfind : withMillimeter.find? "millimeter" = some millimeter :=
    (find?_withMillimeter (by simp [undefined])).trans rfl
  rw [recognize?_of_stems rfl "millimillimeter" "millimeter" "illimillimeter" (by decide) rfl rfl
    ((find?_withMillimeter (by simp [undefined])).trans rfl)
    ((find?_withMillimeter (by simp [undefined])).trans rfl), hfind]
  · rfl
  · rw [hfind]
    rintro u ⟨⟩
    rfl

theorem resolve_mm : Catalog.standard.resolve "mm" =
    (.ok [(millimeter, 1)], Catalog.standard.withRegistry withMillimeter) := by
  have hname : millimeter.name = "millimeter" := by decide
  have hremember : Registry.standard.remember millimeter = withMillimeter := by
    unfold Registry.remember
    rw [hname, find?_standard (by simp [undefined])]
    rfl
  have hread : UnitTerm.read "millimeter" = .ok (1, [("millimeter", 1)]) :=
    UnitTerm.read_name "millimeter" (by decide) (by decide +kernel)
  have hparse := Registry.parse_of_name hread recognize?_millimeter
  rw [hremember] at hparse
  exact Catalog.resolve_of_alias (by decide +kernel : _ = some "millimeter") hparse

theorem resolve_millimillimeter :
    ((Catalog.standard.withRegistry withMillimeter).resolve "millimillimeter").1 =
      .ok [(milli.apply millimeter, 1)] := by
  have hresolve := Catalog.resolve_of_recognized (c := Catalog.standard.withRegistry withMillimeter)
    (by decide +kernel) (by decide +kernel) (by decide) recognize?_withMillimeter
  rw [hresolve]

/-- No unit that is defined has the name of a thousandth of a millimeter. -/
theorem resolve_millimillimeter_standard :
    (Catalog.standard.resolve "millimillimeter").1 ≠ .ok [(milli.apply millimeter, 1)] := by
  intro h
  have hread : UnitTerm.read "millimillimeter" = .ok (1, [("millimillimeter", 1)]) :=
    UnitTerm.read_name _ (by decide) (by decide +kernel)
  -- the name is not recognized, so the units would have to come from the index
  obtain ⟨entry, hentry, hunits⟩ := Catalog.mem_index_of_resolve (c := .standard) (by decide +kernel)
    (by decide +kernel) (by decide +kernel) hread recognize?_millimillimeter h
  obtain ⟨text, hdefined⟩ := Registry.index_defined (r := .standard) rfl hentry
  obtain ⟨x, hx, hunit⟩ : ∃ x ∈ Registry.standardUnits, x.1 = entry.2.unit :=
    Registry.mem_spelled hdefined
  have hname : x.1.name = "millimillimeter" := by
    have hsame : milli.apply millimeter = entry.2.unit := by simpa using hunits
    rw [hunit, ← hsame]
    decide
  have hspelled := Registry.name_spelled hx
  rw [hname] at hspelled
  have hnone := lookup_undefined (by simp [undefined] : "millimillimeter" ∈ undefined)
  have hne := List.lookup_eq_none_iff.mp hnone _ hspelled
  simp at hne

/-- A line that is a number with a unit. -/
theorem exists_number {line : Int} {raw word : String} {x : Float}
    (h : Spells line raw [.number x (some word)]) :
    ∃ span, parseLine raw line = .ok (.number x (some word) span) := by
  have hsentence : Sentence [.number x (some word)] (.number x (some word) .nowhere) :=
    .expression (.loosen (by decide) (by decide) (.number x (some word)))
  obtain ⟨n, hparse, hbare⟩ := h.parseLine_eq (by decide : 1 < nestingRoom) hsentence
  cases n <;> simp [Node.bare] at hbare
  obtain ⟨rfl, rfl⟩ := hbare
  exact ⟨_, hparse⟩

theorem evaluate_number {s : Session} {limits : Limits} {inner : Room} {x : Float}
    {word : String} {units : Units} (hroom : limits.nesting.deeper = some inner)
    (hblank : ¬Text.isBlankText word = true) (h : (s.catalog.resolve word).1 = .ok units)
    (span : Span) :
    s.evaluate limits (.number x (some word) span) =
      (.ok (.value (.quantity ⟨x, units⟩)), { s with catalog := (s.catalog.resolve word).2 }) := by
  have hliteral : s.literal x (some word) =
      (.ok (.quantity ⟨x, units⟩), { s with catalog := (s.catalog.resolve word).2 }) := by
    rw [literal_eq_of_text s x hblank, h]
    rfl
  unfold Session.evaluate
  rw [(Evaluates.number hroom hliteral).eval_eq]

theorem resolve_of_evaluate {s s' : Session} {limits : Limits} {x : Float} {word : String}
    {span : Span} {q : Quantity} (hblank : ¬Text.isBlankText word = true)
    (h : s.evaluate limits (.number x (some word) span) = (.ok (.value (.quantity q)), s')) :
    (s.catalog.resolve word).1 = .ok q.units := by
  obtain ⟨o, heval, ⟨v, rfl, hv⟩ | ⟨-, hne⟩⟩ := exists_evaluates h
  · cases hv
    generalize s.callsLeft limits = calls at heval
    cases heval with
    | number hroom hliteral =>
      rw [literal_eq_of_text s x hblank] at hliteral
      rcases hresolve : s.catalog.resolve word with ⟨e | units, c⟩ <;> rw [hresolve] at hliteral
      · cases hliteral
      · cases hliteral
        rfl
  · exact absurd rfl (hne _)

theorem history_mm : (history .standard .standard [.request (.text "1 mm")]).catalog =
    Catalog.standard.withRegistry withMillimeter := by
  obtain ⟨span, hparse⟩ := exists_number
    (⟨by decide, by decide, by decide +kernel, by decide +kernel⟩ :
      Spells 1 "1 mm" [.number 1 (some "mm")])
  rw [parseLine_of_not_comment (by decide)] at hparse
  have hresolve : ((fresh .standard).catalog.resolve "mm").1 = .ok [(millimeter, 1)] :=
    congrArg (·.1) resolve_mm
  show ((fresh .standard).evaluateText .standard "1 mm").2.catalog = _
  unfold evaluateText parseSingle
  rw [hparse]
  simp only
  rw [evaluate_number rfl (by decide) hresolve]
  exact congrArg (·.2) resolve_mm

/-- **Without the condition on units, an earlier step shows in a document**: once a millimeter has
been named, a thousandth of one can be. -/
theorem evaluate_depends_on_formed_units :
    ¬∀ (limits : Limits) (catalog : Catalog) (steps steps' : List Step) (text : String),
      (evaluate (history limits catalog steps) limits text).1 =
        (evaluate (history limits catalog steps') limits text).1 := by
  intro hclaim
  have hblank : Text.isBlankText "1 millimillimeter" = false := by decide
  have hlines : numberedLines "1 millimillimeter" = [(1, "1 millimillimeter")] := by decide +kernel
  obtain ⟨span, hparse⟩ := exists_number
    (⟨by decide, by decide, by decide +kernel, by decide +kernel⟩ :
      Spells 1 "1 millimillimeter" [.number 1 (some "millimillimeter")])
  -- after the millimeter, the line has a value
  have hresolve : ((history .standard .standard [.request (.text "1 mm")]).clear.catalog.resolve
      "millimillimeter").1 = .ok [(milli.apply millimeter, 1)] := by
    rw [clear_history]
    show ((history .standard .standard [.request (.text "1 mm")]).catalog.resolve _).1 = _
    rw [history_mm]
    exact resolve_millimillimeter
  obtain ⟨display, hdisplay⟩ : ∃ display, (Result.value (.quantity
      ⟨1, [(milli.apply millimeter, 1)]⟩)).display = .ok display := by
    have hshowable : Units.unshowable? [(milli.apply millimeter, 1)] = none := by decide +kernel
    simp only [Result.display, Value.display, hshowable]
    split <;> exact ⟨_, rfl⟩
  have hline : Gives .standard 1 "1 millimillimeter" _ _ _ :=
    .evaluated hblank hparse (by simp) (evaluate_number rfl (by decide) hresolve span) hdisplay
  have hrun := hline.evaluateLines_single
  rw [← hlines] at hrun
  have hdocument := evaluate_of_run "1 millimillimeter" (by decide +kernel) hblank hrun
  -- in a fresh session it would have the same value
  have hsame := hclaim .standard .standard [] [.request (.text "1 mm")] "1 millimillimeter"
  rcases hfresh : evaluate (history .standard .standard []) .standard "1 millimillimeter" with
    ⟨r, t⟩
  rw [hdocument, hfresh] at hsame
  obtain rfl : r = .ok _ := hsame
  rcases evaluate_cases hfresh with ⟨hblank', -⟩ | ⟨-, -, hrun'⟩
  · cases hblank.symm.trans hblank'
  · rw [hlines] at hrun'
    obtain ⟨o, os, s₁, hgives, -, hos⟩ := evaluateLines_cons hrun'
    obtain ⟨ho, -⟩ := List.cons.inj hos
    have hresult := congrArg (·.result) ho
    cases hgives with
    | blank | comment => cases hresult
    | malformed =>
      rw [malformed_result] at hresult
      cases hresult
    | evaluated _ hparse' _ heval _ =>
      cases hparse.symm.trans hparse'
      cases hresult
      have hclear : (history .standard .standard []).clear.catalog = .standard := rfl
      have hresolve' := resolve_of_evaluate (by decide) heval
      rw [hclear] at hresolve'
      exact resolve_millimillimeter_standard hresolve'

end Document

end Reckon
