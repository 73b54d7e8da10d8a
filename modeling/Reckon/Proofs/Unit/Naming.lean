import Mathlib.Data.List.Nodup
import Reckon.Proofs.Unit.Degree
import Reckon.Unit.Lookup

/-!
# What the names of units say

Units are told apart by their names. The units that the standard registry can come to name
(`Unit.Nameable`) are the known units, those with prefixes in front, and units of differences
without a definition.

* Units of one name have the same degree in every base dimension (`Nameable.degree_eq`).
* A unit with the name of one in which kinds are given is that unit (`Nameable.eq_landmark`).

Both rest on a few facts about the names that are checked one by one: no two known units share a
name, no prefix starts with another one, and where the name of a known unit starts with a prefix,
the rest names no unit or one of the same degrees.
-/

namespace Reckon

namespace Text

/-- The bytes of a text. -/
def bytes (s : String) : List UInt8 := s.toByteArray.data.toList

theorem bytes_append (s t : String) : bytes (s ++ t) = bytes s ++ bytes t := by
  unfold bytes
  rw [String.toByteArray_append, ByteArray.toList_data_append]

theorem bytes_injective {s t : String} (h : bytes s = bytes t) : s = t :=
  String.toByteArray_inj.mp (ByteArray.ext (Array.toList_inj.mp h))

end Text

open Text (bytes)

namespace Registry

/-! ### No two known units share a name -/

/-- A number that differs for the names of all known units. -/
def fingerprint (s : String) : Nat :=
  (bytes s).foldl (fun n b => (n * 256 + b.toNat) % 13913) 0

/-- Whether no number of a list is marked or occurs twice. -/
def unmarked (marks : Nat) : List Nat → Bool
  | [] => true
  | n :: rest => !marks.testBit n && unmarked (marks ||| 1 <<< n) rest

theorem nodup_of_unmarked {l : List Nat} : ∀ {marks : Nat}, unmarked marks l = true →
    l.Nodup ∧ ∀ n ∈ l, marks.testBit n = false := by
  induction l with
  | nil => exact fun _ => ⟨List.nodup_nil, fun n hn => nomatch hn⟩
  | cons n rest ih =>
    intro marks h
    rw [unmarked, Bool.and_eq_true, Bool.not_eq_true'] at h
    obtain ⟨hn, hrest⟩ := h
    obtain ⟨hnodup, hmarks⟩ := ih hrest
    refine ⟨List.nodup_cons.mpr ⟨?_, hnodup⟩, List.forall_mem_cons.mpr ⟨hn, ?_⟩⟩
    · intro hmem
      have hmarked := hmarks n hmem
      rw [Nat.testBit_or, Nat.testBit_shiftLeft, Nat.sub_self] at hmarked
      simp at hmarked
    · intro k hk
      have hmarked := hmarks k hk
      rw [Nat.testBit_or, Bool.or_eq_false_iff] at hmarked
      exact hmarked.1

theorem unmarked_names :
    unmarked 0 (standardUnits.map fun x => fingerprint x.1.name) = true := by
  decide +kernel

theorem eq_of_name_eq {x y : Unit × List String} (hx : x ∈ standardUnits) (hy : y ∈ standardUnits)
    (h : x.1.name = y.1.name) : x = y :=
  List.inj_on_of_nodup_map (nodup_of_unmarked unmarked_names).1 hx hy (congrArg fingerprint h)

/-! ### Names that start with a prefix -/

/-- The names of the prefixes. -/
def prefixNames : List String := ((standardPrefixes.map (·.name)).filter (· != "")).eraseDups

theorem mem_prefixNames {p : Prefix} (hp : p ∈ standardPrefixes) (hname : p.name ≠ "") :
    p.name ∈ prefixNames := by
  unfold prefixNames
  rw [List.mem_eraseDups, List.mem_filter]
  exact ⟨List.mem_map_of_mem hp, by simpa using hname⟩

/-- What the names of units can start with that are not known ones. -/
def marks : List String := Unit.differenceMark :: prefixNames

theorem marks_apart : ∀ p ∈ marks, ∀ q ∈ marks, (bytes p).isPrefixOf (bytes q) = true → p = q := by
  decide +kernel

theorem eq_of_marks {p q s t : String} (hp : p ∈ marks) (hq : q ∈ marks) (h : p ++ s = q ++ t) :
    p = q ∧ s = t := by
  have hbytes : bytes p ++ bytes s = bytes q ++ bytes t := by
    rw [← Text.bytes_append, h, Text.bytes_append]
  have hpq : p = q := by
    have hprefix := List.prefix_or_prefix_of_prefix
      (hbytes ▸ List.prefix_append (bytes p) (bytes s)) (List.prefix_append (bytes q) (bytes t))
    -- one mark is the start of the other
    rcases hprefix with hle | hle
    · exact marks_apart p hp q hq (List.isPrefixOf_iff_prefix.mpr hle)
    · exact (marks_apart q hq p hp (List.isPrefixOf_iff_prefix.mpr hle)).symm
  subst hpq
  exact ⟨rfl, Text.bytes_injective (List.append_cancel_left hbytes)⟩

/-- Where the name of a known unit starts with a prefix, the rest names a known unit of the same
degrees, or no unit at all. -/
def isHarmless (u : Unit) (p : String) : Bool :=
  match (bytes u.name).dropPrefix? (bytes p) with
  | none => true
  | some rest =>
    match standardUnits.find? fun y => bytes y.1.name == rest with
    | some y => BaseDimension.all.all fun b => y.1.degree b == u.degree b
    | none => marks.all fun q => !(bytes q).isPrefixOf rest

theorem isHarmless_prefix :
    (standardUnits.all fun x => prefixNames.all fun p => isHarmless x.1 p) = true := by
  decide +kernel

theorem rest_of_name {x : Unit × List String} (hx : x ∈ standardUnits) {p s : String}
    (hp : p ∈ prefixNames) (h : x.1.name = p ++ s) :
    (∃ y ∈ standardUnits, y.1.name = s ∧ ∀ b, y.1.degree b = x.1.degree b) ∨
      (∀ y ∈ standardUnits, y.1.name ≠ s) ∧ ∀ q ∈ marks, ∀ t, s ≠ q ++ t := by
  have hharmless := List.all_eq_true.mp (List.all_eq_true.mp isHarmless_prefix x hx) p hp
  have hdrop : (bytes x.1.name).dropPrefix? (bytes p) = some (bytes s) :=
    List.dropPrefix?_eq_some_iff.mpr
      ⟨bytes p, by rw [h, Text.bytes_append], BEq.rfl⟩
  unfold isHarmless at hharmless
  rw [hdrop] at hharmless
  simp only at hharmless
  split at hharmless
  · rename_i y hy
    have hname : bytes y.1.name = bytes s := by simpa using List.find?_some hy
    refine .inl ⟨y, List.mem_of_find?_eq_some hy, Text.bytes_injective hname, fun b => ?_⟩
    exact beq_iff_eq.mp (List.all_eq_true.mp hharmless b b.mem_all)
  · rename_i hnone
    refine .inr ⟨fun y hy hname => ?_, fun q hq t hs => ?_⟩
    · have hne := List.find?_eq_none.mp hnone y hy
      rw [hname] at hne
      exact hne BEq.rfl
    · have hstarts := List.all_eq_true.mp hharmless q hq
      rw [hs, Text.bytes_append,
        List.isPrefixOf_iff_prefix.mpr (List.prefix_append ..)] at hstarts
      cases hstarts

end Registry

open Registry

/-- The units that the standard registry can come to name. -/
inductive Unit.Nameable : Unit → Prop where
  | known {x : Unit × List String} (hx : x ∈ standardUnits) : Nameable x.1
  | prefixed {p : Prefix} {u : Unit} (hp : p ∈ standardPrefixes) (hname : p.name ≠ "") :
      Nameable u → Nameable (p.apply u)
  | difference {name : String}
      (h : ∀ x ∈ standardUnits, x.1.name ≠ Unit.differenceMark ++ name) :
      Nameable (.missing (Unit.differenceMark ++ name))

namespace Unit.Nameable

theorem degree_prefixed (b : BaseDimension) (p : Prefix) (u : Unit) :
    (p.apply u).degree b = u.degree b := by
  unfold Prefix.apply Unit.multiple
  rw [degree, degreeAll, degreeAll, Int.add_zero]
  exact Int.one_mul _

theorem mark_mem : Unit.differenceMark ∈ marks := List.mem_cons_self

theorem prefix_mem {p : Prefix} (hp : p ∈ standardPrefixes) (hname : p.name ≠ "") :
    p.name ∈ marks := List.mem_cons_of_mem _ (mem_prefixNames hp hname)

/-- A prefix is no mark of differences. -/
theorem mark_ne {p : Prefix} (hp : p ∈ standardPrefixes) (hname : p.name ≠ "") (s t : String) :
    p.name ++ s ≠ Unit.differenceMark ++ t := by
  intro h
  have heq := (eq_of_marks (prefix_mem hp hname) mark_mem h).1
  have hmem := mem_prefixNames hp hname
  rw [heq] at hmem
  revert hmem
  decide +kernel

/-- A unit with the name of a known one has its degrees. -/
theorem degree_eq_known {v : Unit} (hv : v.Nameable) (b : BaseDimension) :
    ∀ x ∈ standardUnits, x.1.name = v.name → x.1.degree b = v.degree b := by
  induction hv with
  | known hy =>
    intro x hx h
    rw [eq_of_name_eq hx hy h]
  | @prefixed p w hp hname hw ih =>
    intro x hx h
    rw [degree_prefixed]
    rcases rest_of_name hx (mem_prefixNames hp hname) h with ⟨y, hy, hyw, hdegree⟩ | ⟨hno, hnone⟩
    · rw [← hdegree b]
      exact ih y hy hyw
    · -- the rest of the name would have to be a name again
      exfalso
      cases hw with
      | known hy => exact hno _ hy rfl
      | prefixed hq hqname _ => exact hnone _ (prefix_mem hq hqname) _ rfl
      | difference _ => exact hnone _ mark_mem _ rfl
  | difference hno =>
    intro x hx h
    exact absurd h (hno x hx)

/-- **Units of one name have the same degrees.** -/
theorem degree_eq {u v : Unit} (hu : u.Nameable) (hv : v.Nameable) (h : u.name = v.name)
    (b : BaseDimension) : u.degree b = v.degree b := by
  induction hu generalizing v with
  | known hx => exact degree_eq_known hv b _ hx h
  | @prefixed p w hp hname hw ih =>
    rw [degree_prefixed]
    cases hv with
    | known hy =>
      rw [degree_eq_known (.prefixed hp hname hw) b _ hy h.symm, degree_prefixed]
    | prefixed hq hqname hw' =>
      rw [degree_prefixed]
      exact ih hw' (eq_of_marks (prefix_mem hp hname) (prefix_mem hq hqname) h).2
    | difference _ => exact absurd h (mark_ne hp hname _ _)
  | difference hno =>
    cases hv with
    | known hy => exact absurd h.symm (hno _ hy)
    | prefixed hq hqname _ => exact absurd h.symm (mark_ne hq hqname _ _)
    | difference _ => rfl

end Unit.Nameable

namespace Registry

open Unit.Known

/-- The units in which kinds are given, and the one behind the kilogram. -/
def landmarks : List Unit :=
  [meter, second, gram, kelvin, kilogram, hertz, newton, joule, watt, pascal]

theorem landmark_mem {k : Unit} (hk : k ∈ landmarks) : ∃ others, (k, others) ∈ standardUnits := by
  simp only [landmarks, List.mem_cons, List.not_mem_nil, or_false] at hk
  rcases hk with rfl | rfl | rfl | rfl | rfl | rfl | rfl | rfl | rfl | rfl
  · exact ⟨_, List.mem_of_getElem? (i := 0) rfl⟩
  · exact ⟨_, List.mem_of_getElem? (i := 1) rfl⟩
  · exact ⟨_, List.mem_of_getElem? (i := 4) rfl⟩
  · exact ⟨_, List.mem_of_getElem? (i := 6) rfl⟩
  · exact ⟨_, List.mem_of_getElem? (i := 420) rfl⟩
  · exact ⟨_, List.mem_of_getElem? (i := 134) rfl⟩
  · exact ⟨_, List.mem_of_getElem? (i := 148) rfl⟩
  · exact ⟨_, List.mem_of_getElem? (i := 154) rfl⟩
  · exact ⟨_, List.mem_of_getElem? (i := 172) rfl⟩
  · exact ⟨_, List.mem_of_getElem? (i := 182) rfl⟩

/-- Of all landmarks only the kilogram has a name that starts with a prefix. -/
theorem prefix_of_landmark : ∀ k ∈ landmarks, ∀ p ∈ marks,
    (bytes p).isPrefixOf (bytes k.name) = true → p = "kilo" ∧ k.name = "kilo" ++ gram.name := by
  decide +kernel

theorem starts_of_landmark {k : Unit} (hk : k ∈ landmarks) {p s : String} (hp : p ∈ marks)
    (h : p ++ s = k.name) : p = "kilo" ∧ k.name = "kilo" ++ gram.name := by
  refine prefix_of_landmark k hk p hp (List.isPrefixOf_iff_prefix.mpr ?_)
  rw [← h, Text.bytes_append]
  exact List.prefix_append ..

theorem kilo_apply {p : Prefix} (hp : p ∈ standardPrefixes) (hname : p.name = "kilo") :
    p.apply gram = kilogram := by
  have hkilo : ∀ p ∈ standardPrefixes, p.name = "kilo" → p.symbol = "k" ∧ p.scale = 1000.0 := by
    decide +kernel
  obtain ⟨hsymbol, hscale⟩ := hkilo p hp hname
  unfold Prefix.apply
  rw [hname, hsymbol, hscale]
  rfl

end Registry

/-- **A unit with the name of a landmark is that unit.** -/
theorem Unit.Nameable.eq_landmark {u k : Unit} (hu : u.Nameable) (hk : k ∈ landmarks)
    (h : u.name = k.name) : u = k := by
  induction hu generalizing k with
  | known hx =>
    obtain ⟨others, hmem⟩ := landmark_mem hk
    rw [eq_of_name_eq hx hmem h]
  | @prefixed p w hp hname hw ih =>
    obtain ⟨hkilo, hkname⟩ := starts_of_landmark hk (prefix_mem hp hname) h
    -- only the kilogram can be formed with a prefix, from the gram
    have hsplit : p.name ++ w.name = "kilo" ++ Unit.Known.gram.name := h.trans hkname
    have hgram : w = Unit.Known.gram := by
      have hmark : "kilo" ∈ marks := hkilo ▸ prefix_mem hp hname
      refine ih (k := Unit.Known.gram) (by simp [landmarks]) ?_
      exact (eq_of_marks (prefix_mem hp hname) hmark hsplit).2
    obtain ⟨others, hmem⟩ := landmark_mem hk
    obtain ⟨others', hmem'⟩ := landmark_mem (k := Unit.Known.kilogram) (by simp [landmarks])
    rw [hgram, kilo_apply hp hkilo]
    exact congrArg Prod.fst (eq_of_name_eq hmem' hmem hkname.symm)
  | difference _ =>
    have hmark : Unit.differenceMark = "kilo" := (starts_of_landmark hk mark_mem h).1
    exact absurd hmark (by decide)

end Reckon
