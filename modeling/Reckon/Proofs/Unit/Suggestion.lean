import Reckon.Proofs.FirstBy
import Reckon.Proofs.Text.Fold

/-!
# Suggestions are the best matches

What a catalog suggests for a text, told without its index and its early stop.

* `Catalog.knownTexts` are the spellings that the accepted names of a registry give and the tokens
  of the aliases, the first one for each folded form, in the order of `Precedes`. The catalog knows
  just these (`known_ofRegistry`).
* Its loop over the known texts takes those that resemble the text, the first one for each compared
  form (`pick_eq`).
* `suggest_ofRegistry`: **the suggestions are the first of the known texts that resemble the text**;
  they are different, in order of length, and no better match is missed.
-/

namespace Reckon

/-! ### The known texts -/

/-- The names that a registry lists and accepts, each with the name of its unit. Names in lower case
come first, then the alphabet counts. -/
def Registry.acceptedNames (r : Registry) : List (String × String) :=
  (r.entries.mergeSort lowercaseFirst).filterMap fun entry =>
    (r.named? entry).map fun u => (entry, u.name)

/-- The accepted names, each followed by the name of its unit and the plural of that. -/
def Registry.spellingTexts (r : Registry) : List String :=
  r.acceptedNames.flatMap fun (entry, name) => [entry, name, name ++ "s"]

theorem Registry.map_text_spellings (r : Registry) :
    r.spellings.map (·.text) = r.spellingTexts := by
  unfold spellings spellingTexts acceptedNames
  rw [List.map_flatMap, List.filterMap_eq_flatMap_toList, List.flatMap_assoc]
  refine List.flatMap_congr fun entry _ => ?_
  cases r.named? entry <;> rfl

namespace Catalog

/-- Shorter texts come first; of texts with the same length, those earlier in the alphabet when case
is ignored. -/
def Precedes (a b : String) : Prop :=
  a.length < b.length ∨ a.length = b.length ∧ Text.fold a ≤ Text.fold b

instance (a b : String) : Decidable (Precedes a b) := inferInstanceAs (Decidable (_ ∨ _))

section Order

variable {a b c : String}

theorem Precedes.refl (a : String) : Precedes a a := .inr ⟨rfl, String.le_refl _⟩

theorem Precedes.length_le (h : Precedes a b) : a.length ≤ b.length := by
  rcases h with h | h
  · exact Nat.le_of_lt h
  · exact Nat.le_of_eq h.1

theorem Precedes.trans (hab : Precedes a b) (hbc : Precedes b c) : Precedes a c := by
  rcases hab with hab | ⟨hab, hle⟩
  · exact .inl (Nat.lt_of_lt_of_le hab hbc.length_le)
  · rcases hbc with hbc | ⟨hbc, hle'⟩
    · exact .inl (hab ▸ hbc)
    · exact .inr ⟨hab.trans hbc, String.le_trans hle hle'⟩

theorem Precedes.total (a b : String) : Precedes a b ∨ Precedes b a := by
  rcases Nat.lt_trichotomy a.length b.length with h | h | h
  · exact .inl (.inl h)
  · rcases String.le_total (Text.fold a) (Text.fold b) with hle | hle
    · exact .inl (.inr ⟨h, hle⟩)
    · exact .inr (.inr ⟨h.symm, hle⟩)
  · exact .inr (.inl h)

theorem shorterFirst_eq (a b : String) :
    shorterFirst (Text.fold a, a) (Text.fold b, b) = decide (Precedes a b) := by
  unfold shorterFirst Precedes
  split
  · rename_i h
    simp [h]
  · rename_i h
    simp [h]

end Order

/-- The texts that a registry and a table of aliases give for suggestions: the spellings, then the
tokens, of those with the same folded form the first one, in order. -/
def knownTexts (r : Registry) (aliases : Aliases) : List String :=
  (firstBy Text.fold (r.spellingTexts ++ aliases.map (·.1))).mergeSort fun a b => Precedes a b

variable (r : Registry) (aliases : Aliases)

theorem pairwise_knownTexts : (knownTexts r aliases).Pairwise Precedes := by
  have hsorted := @List.pairwise_mergeSort _ (fun a b => decide (Precedes a b))
    (fun _ _ _ hab hbc => decide_eq_true ((of_decide_eq_true hab).trans (of_decide_eq_true hbc)))
    (fun a b => by simpa using Precedes.total a b)
    (firstBy Text.fold (r.spellingTexts ++ aliases.map (·.1)))
  exact hsorted.imp of_decide_eq_true

/-- **A catalog knows the texts that its registry and its aliases give.** The index it is made from
keeps the first spelling for each folded form, and so does the list that the tokens are added to. -/
theorem known_ofRegistry : (ofRegistry r aliases).known = knownTexts r aliases := by
  have hindex : r.index.map (fun x => (x.1, x.2.text)) =
      (firstBy Text.fold r.spellingTexts).map fun s => (Text.fold s, s) := by
    rw [Registry.index, firstByKey_map, ← r.map_text_spellings, firstBy_map, List.map_map,
      List.map_map]
    rfl
  have htokens : aliases.map (fun x => (Text.fold x.1, x.1)) =
      (aliases.map (·.1)).map fun s => (Text.fold s, s) := by
    rw [List.map_map]
    rfl
  calc (ofRegistry r aliases).known
      = ((firstByKey (r.index.map (fun x => (x.1, x.2.text)) ++
          aliases.map fun x => (Text.fold x.1, x.1))).mergeSort shorterFirst).map (·.2) := rfl
    _ = (((firstBy Text.fold (r.spellingTexts ++ aliases.map (·.1))).map fun s =>
          (Text.fold s, s)).mergeSort shorterFirst).map (·.2) := by
        rw [hindex, htokens, ← List.map_append, firstByKey_map, firstBy_append]
    _ = ((knownTexts r aliases).map fun s => (Text.fold s, s)).map (·.2) := by
        rw [knownTexts, List.map_mergeSort fun a _ b _ => (shorterFirst_eq a b).symm]
    _ = knownTexts r aliases := by
        rw [List.map_map]
        exact List.map_id _

/-! ### The texts that are suggested -/

/-- Ignoring case and blanks, one of two texts starts with the other, and neither is empty. -/
def Resembles (text spelling : String) : Prop :=
  normalize text ≠ "" ∧ normalize spelling ≠ "" ∧
    ((normalize text).toList <+: (normalize spelling).toList ∨
      (normalize spelling).toList <+: (normalize text).toList)

instance (text spelling : String) : Decidable (Resembles text spelling) :=
  inferInstanceAs (Decidable (_ ∧ _))

variable {text : String}

theorem normalize_eq_empty_iff : normalize text = "" ↔ Text.isBlankText text = true := by
  unfold normalize Text.unspaced Text.isBlankText
  rw [← String.toList_inj, Text.toList_fold, String.toList_ofList, List.all_eq_true]
  change List.flatMap _ _ = [] ↔ _
  rw [List.flatMap_eq_nil_iff]
  refine ⟨fun h c hc => ?_, fun h c hc => ?_⟩
  · rw [← Bool.not_eq_false]
    exact fun hblank => Text.foldChar_ne_nil c (h c (List.mem_filter.mpr ⟨hc, by simp [hblank]⟩))
  · have hc := List.mem_filter.mp hc
    simp [h c hc.1] at hc

theorem isSuggestion_eq (h : normalize text ≠ "") (spelling : String) :
    isSuggestion text spelling = decide (Resembles text spelling) := by
  unfold isSuggestion similar Resembles
  rw [Bool.eq_iff_iff]
  simp [h]

/-- The loop over the known texts takes the first of those that are wanted and not yet seen. -/
theorem pick_eq {spellings : List String} : ∀ {limit : Int} {seen : List String},
    pick text limit seen spellings =
      ((firstBy normalize (spellings.filter (isSuggestion text))).filter
        fun s => !seen.contains (normalize s)).take (max limit 1).toNat := by
  induction spellings with
  | nil => intros; simp [pick, firstBy]
  | cons s rest ih =>
    intro limit seen
    -- a text is passed over if it is not wanted or seen, and else one place less is left
    rw [pick]
    cases hwanted : isSuggestion text s with
    | false =>
      rw [List.filter_cons_of_neg (by simp [hwanted])]
      exact ih
    | true =>
      rw [List.filter_cons_of_pos hwanted, firstBy, Bool.true_and]
      cases hseen : seen.contains (normalize s) with
      | true =>
        rw [List.filter_cons_of_neg (by simpa using hseen), filter_unseen_of_seen hseen]
        exact ih
      | false =>
        rw [List.filter_cons_of_pos (by simpa using hseen), filter_unseen_cons]
        by_cases hlast : limit ≤ 1
        · rw [if_pos (by rfl), if_pos hlast, Int.max_eq_right hlast]
          rfl
        · have hcount : (max limit 1).toNat = (max (limit - 1) 1).toNat + 1 := by omega
          rw [if_pos (by rfl), if_neg hlast, ih, hcount, List.take_succ_cons]

/-- The known texts that resemble a text, of those that differ only in case and blanks the first
one. -/
def bestMatches (text : String) : List String :=
  firstBy normalize ((knownTexts r aliases).filter fun s => Resembles text s)

theorem pairwise_bestMatches : (bestMatches r aliases text).Pairwise Precedes :=
  (pairwise_knownTexts r aliases).sublist (firstBy_sublist.trans (List.filter_sublist ..))

theorem bestMatches_of_isBlankText (h : Text.isBlankText text = true) :
    bestMatches r aliases text = [] := by
  unfold bestMatches
  rw [List.filter_eq_nil_iff.mpr fun s _ => by simp [Resembles, normalize_eq_empty_iff.mpr h]]
  rfl

theorem suggest_eq_take (limit : Int) : (ofRegistry r aliases).suggest text limit =
    (bestMatches r aliases text).take (max limit 1).toNat := by
  unfold suggest
  split
  · rename_i hblank
    rw [bestMatches_of_isBlankText r aliases (normalize_eq_empty_iff.mp hblank), List.take_nil]
  · rename_i hne
    have hunseen : ∀ l : List String,
        l.filter (fun s => !([] : List String).contains (normalize s)) = l :=
      fun _ => List.filter_eq_self.mpr fun _ _ => rfl
    rw [known_ofRegistry, pick_eq, List.filter_congr fun s _ => isSuggestion_eq hne s, hunseen]
    rfl

/-- **Suggestions are exactly the best matches.** A blank text has none. For another one they are
the first of the known texts that resemble it, as many as wanted but at least one. They differ in
more than case and blanks, their lengths ascend, and every known text that resembles the given one
is represented by one that does not come later, unless all places are taken by such texts. -/
theorem suggest_ofRegistry (text : String) (limit : Int) :
    let found := (ofRegistry r aliases).suggest text limit
    let wanted := (max limit 1).toNat
    found = (if Text.isBlankText text then [] else (bestMatches r aliases text).take wanted) ∧
      (found.map normalize).Nodup ∧
      found.Pairwise (fun a b => a.length ≤ b.length) ∧
      ∀ s ∈ knownTexts r aliases, Resembles text s →
        (∃ m ∈ found, normalize m = normalize s ∧ Precedes m s) ∨
          found.length = wanted ∧ ∀ m ∈ found, Precedes m s := by
  intro found wanted
  have hfound : found = (bestMatches r aliases text).take wanted := suggest_eq_take r aliases limit
  have hsublist : found.Sublist (bestMatches r aliases text) := by
    rw [hfound]
    exact List.take_sublist ..
  refine ⟨?_, nodup_firstBy.sublist (hsublist.map normalize),
    ((pairwise_bestMatches r aliases).sublist hsublist).imp Precedes.length_le, ?_⟩
  · split
    · rename_i hblank
      rw [hfound, bestMatches_of_isBlankText r aliases hblank, List.take_nil]
    · exact hfound
  · intro s hs hresembles
    have hmem : s ∈ (knownTexts r aliases).filter fun s => Resembles text s :=
      List.mem_filter.mpr ⟨hs, decide_eq_true hresembles⟩
    obtain ⟨m, hm, hnormal, hbefore⟩ : ∃ m ∈ bestMatches r aliases text,
        normalize m = normalize s ∧ Precedes m s :=
      exists_mem_firstBy Precedes.refl
        ((pairwise_knownTexts r aliases).sublist (List.filter_sublist ..)) hmem
    rw [hfound]
    rcases mem_take_or_full (pairwise_bestMatches r aliases) wanted hm with hm | ⟨hfull, hall⟩
    · exact .inl ⟨m, hm, hnormal, hbefore⟩
    · exact .inr ⟨hfull, fun a ha => (hall a ha).trans hbefore⟩

end Catalog

end Reckon
