import Reckon.Alias.File
import Reckon.Proofs.Table
import Reckon.Proofs.Text.Fold
import Reckon.Proofs.Unit.Resolution

/-!
# Which alias files are accepted, and what they bring about

* `Valid` says what the content of an alias file has to be, `Fault` what is the first thing wrong
  with it. Content is either valid or has a fault (`valid_or_fault`), and loading tells which
  (`load_of_valid`, `load_of_fault`).
* A loaded table has folded tokens, so making a catalog of it changes nothing (`ofList_load`). Of
  entries whose tokens fold alike it has the last one (`get?_load`).
* `load_accepts_and_finds` joins both: **a file is accepted exactly if it is valid, and every
  accepted alias is found**, whatever the registry makes of its token.
-/

namespace Reckon

namespace AliasFile

/-- The version of a file is a text that starts with `1.`. -/
def IsSupported (version : Data) : Prop := ∃ rest : String, version = .text ("1." ++ rest)

/-- The root of a file has no version or a supported one. -/
def HasVersion (root : List (String × Data)) : Prop :=
  ∀ version, Data.get? "schema_version" root = some version → IsSupported version

/-- A value is a text that is not blank. -/
def NamesUnit (value : Data) : Prop := ∃ s, value = .text s ∧ Text.isBlankText s = false

/-- The content is a mapping, with a supported version if it has any, and with a mapping of aliases
to units. -/
def Valid (content : Data) : Prop :=
  ∃ root, content = .mapping root ∧ HasVersion root ∧
    ∃ entries, Data.get? "aliases" root = some (.mapping entries) ∧ ∀ e ∈ entries, NamesUnit e.2

/-- The first thing that is wrong with the content of a file. -/
inductive Fault : Data → AliasError → Prop where
  /-- The content is no mapping. -/
  | notMapping {content : Data} (hroot : ∀ root, content ≠ .mapping root) :
    Fault content .notMapping
  /-- The content is a mapping with a version that is not supported. -/
  | unsupportedVersion {root : List (String × Data)} {version : Data}
    (hversion : Data.get? "schema_version" root = some version)
    (hunsupported : ¬ IsSupported version) : Fault (.mapping root) (.unsupportedVersion version)
  /-- The version is good, but there is no mapping of aliases. -/
  | noAliases {root : List (String × Data)} (hversion : HasVersion root)
    (haliases : ∀ entries, Data.get? "aliases" root ≠ some (.mapping entries)) :
    Fault (.mapping root) .noAliases
  /-- Among the aliases this one is the first that does not stand for a unit. -/
  | badEntry {root before after : List (String × Data)} {token : String} {value : Data}
    (hversion : HasVersion root)
    (haliases : Data.get? "aliases" root = some (.mapping (before ++ (token, value) :: after)))
    (hbefore : ∀ e ∈ before, NamesUnit e.2) (hvalue : ¬ NamesUnit value) :
    Fault (.mapping root) (.badEntry token)

/-- All elements of a list have a property, or there is a first one that lacks it. -/
theorem forall_or_first {α : Type} (p : α → Prop) (l : List α) :
    (∀ a ∈ l, p a) ∨ ∃ before a after, l = before ++ a :: after ∧ (∀ b ∈ before, p b) ∧ ¬ p a := by
  induction l with
  | nil => exact .inl (List.forall_mem_nil _)
  | cons x l ih =>
    by_cases hx : p x
    · rcases ih with hall | ⟨before, a, after, rfl, hbefore, ha⟩
      · exact .inl (List.forall_mem_cons.mpr ⟨hx, hall⟩)
      · exact .inr ⟨x :: before, a, after, rfl, List.forall_mem_cons.mpr ⟨hx, hbefore⟩, ha⟩
    · exact .inr ⟨[], x, l, rfl, List.forall_mem_nil _, hx⟩

theorem valid_or_fault (content : Data) : Valid content ∨ ∃ e, Fault content e := by
  by_cases hroot : ∃ root, content = .mapping root
  case neg => exact .inr ⟨_, .notMapping fun root h => hroot ⟨root, h⟩⟩
  obtain ⟨root, rfl⟩ := hroot
  by_cases hversion : HasVersion root
  case neg =>
    obtain ⟨version, hfound, hunsupported⟩ : ∃ version,
        Data.get? "schema_version" root = some version ∧ ¬ IsSupported version := by
      simpa [HasVersion] using hversion
    exact .inr ⟨_, .unsupportedVersion hfound hunsupported⟩
  by_cases haliases : ∃ entries, Data.get? "aliases" root = some (.mapping entries)
  case neg => exact .inr ⟨_, .noAliases hversion fun entries h => haliases ⟨entries, h⟩⟩
  obtain ⟨entries, haliases⟩ := haliases
  rcases forall_or_first (fun e : String × Data => NamesUnit e.2) entries with
    hall | ⟨before, ⟨token, value⟩, after, rfl, hbefore, hvalue⟩
  · exact .inl ⟨root, rfl, hversion, entries, haliases, hall⟩
  · exact .inr ⟨_, .badEntry hversion haliases hbefore hvalue⟩

/-! ### The checks -/

theorem isPrefixOf_iff_isSupported {s : String} :
    "1.".toList.isPrefixOf s.toList = true ↔ IsSupported (.text s) := by
  rw [List.isPrefixOf_iff_prefix]
  refine ⟨fun ⟨rest, h⟩ => ⟨String.ofList rest, congrArg _ (String.toList_inj.mp ?_)⟩,
    fun ⟨rest, h⟩ => ⟨rest.toList, ?_⟩⟩
  · rw [← h, String.toList_append, String.toList_ofList, String.toList_ofList]
  · rw [Data.text.inj h, String.toList_append]

theorem checkVersion_of_hasVersion {root : List (String × Data)} (h : HasVersion root) :
    checkVersion (Data.get? "schema_version" root) = .ok ⟨⟩ := by
  unfold HasVersion at h
  cases hversion : Data.get? "schema_version" root with
  | none => rfl
  | some version =>
    obtain ⟨rest, rfl⟩ := h version hversion
    exact if_pos (isPrefixOf_iff_isSupported.mpr ⟨rest, rfl⟩)

theorem checkVersion_of_not_isSupported {version : Data} (h : ¬ IsSupported version) :
    checkVersion (some version) = .error (.unsupportedVersion version) := by
  cases version with
  | text s => exact if_neg (mt isPrefixOf_iff_isSupported.mp h)
  | _ => rfl

theorem unitText?_of_not_namesUnit {value : Data} (h : ¬ NamesUnit value) :
    unitText? value = none := by
  cases value with
  | text s =>
    have hblank : Text.isBlankText s = true := by
      rw [← Bool.not_eq_false]
      exact fun hblank => h ⟨s, rfl, hblank⟩
    exact if_pos hblank
  | _ => rfl

/-! ### Entries -/

section Entries

variable {table table' : Aliases} {entries before : List (String × Data)} {token : String}

theorem addEntries_text (table : Aliases) (token : String) {s : String}
    (h : Text.isBlankText s = false) (entries : List (String × Data)) :
    addEntries table ((token, .text s) :: entries) =
      addEntries (Table.insert table (Text.fold (Text.trim token)) (Text.trim s)) entries := by
  rw [addEntries, unitText?, if_neg (by simp [h])]

theorem addEntries_bad {value : Data} (table : Aliases) (token : String) (h : ¬ NamesUnit value)
    (entries : List (String × Data)) :
    addEntries table ((token, value) :: entries) = .error (.badEntry token) := by
  rw [addEntries, unitText?_of_not_namesUnit h]

/-- Entries that stand for units are passed, and make some table of the one before. -/
theorem addEntries_pass (h : ∀ e ∈ before, NamesUnit e.2) (table : Aliases) :
    ∃ middle, ∀ after, addEntries table (before ++ after) = addEntries middle after := by
  induction before generalizing table with
  | nil => exact ⟨table, fun _ => rfl⟩
  | cons e before ih =>
    obtain ⟨token, value⟩ := e
    obtain ⟨⟨s, hs, hblank⟩, hbefore⟩ := List.forall_mem_cons.mp h
    obtain ⟨middle, hmiddle⟩ := ih hbefore _
    refine ⟨middle, fun after => ?_⟩
    cases hs
    rw [List.cons_append, addEntries_text table token hblank, hmiddle]

/-- What adding an entry preserves, adding many preserves. -/
theorem addEntries_preserves {p : Aliases → Prop}
    (hstep : ∀ e ∈ entries, ∀ (t : Aliases) (unit : String), p t →
      p (Table.insert t (Text.fold (Text.trim e.1)) unit))
    (h : addEntries table entries = .ok table') (htable : p table) : p table' := by
  induction entries generalizing table with
  | nil =>
    cases h
    exact htable
  | cons e entries ih =>
    obtain ⟨hfirst, hrest⟩ := List.forall_mem_cons.mp hstep
    rw [addEntries] at h
    split at h
    · cases h
    · exact ih hrest h (hfirst _ _ htable)

end Entries

/-! ### Loading -/

section Load

variable {content : Data} {table : Aliases} {root entries : List (String × Data)}

theorem load_mapping (hversion : HasVersion root)
    (haliases : Data.get? "aliases" root = some (.mapping entries)) :
    load (.mapping root) = addEntries [] entries := by
  rw [load, checkVersion_of_hasVersion hversion, haliases]
  rfl

theorem load_of_valid (h : Valid content) : ∃ table, load content = .ok table := by
  obtain ⟨root, rfl, hversion, entries, haliases, hentries⟩ := h
  obtain ⟨table, htable⟩ := addEntries_pass hentries []
  refine ⟨table, ?_⟩
  rw [load_mapping hversion haliases, ← List.append_nil entries, htable]
  rfl

theorem load_of_fault {e : AliasError} (h : Fault content e) : load content = .error e := by
  cases h with
  | notMapping hroot =>
    cases content with
    | mapping root => exact absurd rfl (hroot root)
    | _ => rfl
  | unsupportedVersion hversion hunsupported =>
    rw [load, hversion, checkVersion_of_not_isSupported hunsupported]
    rfl
  | @noAliases root hversion haliases =>
    rw [load, checkVersion_of_hasVersion hversion]
    cases hfound : Data.get? "aliases" root with
    | none => rfl
    | some value =>
      cases value with
      | mapping entries => exact absurd hfound (haliases entries)
      | _ => rfl
  | badEntry hversion haliases hbefore hvalue =>
    obtain ⟨middle, hmiddle⟩ := addEntries_pass hbefore []
    rw [load_mapping hversion haliases, hmiddle, addEntries_bad middle _ hvalue]

theorem valid_of_load (h : load content = .ok table) : Valid content := by
  refine (valid_or_fault content).resolve_right fun ⟨e, he⟩ => ?_
  rw [load_of_fault he] at h
  cases h

theorem fault_of_load {e : AliasError} (h : load content = .error e) : Fault content e := by
  rcases valid_or_fault content with hvalid | ⟨e', he'⟩
  · obtain ⟨table, htable⟩ := load_of_valid hvalid
    rw [htable] at h
    cases h
  · have heq := (load_of_fault he').symm.trans h
    cases heq
    exact he'

/-- The entries of the mapping of aliases, if the content has one. -/
def aliases (content : Data) : List (String × Data) :=
  match content with
  | .mapping root =>
    match Data.get? "aliases" root with
    | some (.mapping entries) => entries
    | _ => []
  | _ => []

theorem addEntries_of_load (h : load content = .ok table) :
    (∀ e ∈ aliases content, NamesUnit e.2) ∧ addEntries [] (aliases content) = .ok table := by
  obtain ⟨root, rfl, hversion, entries, haliases, hentries⟩ := valid_of_load h
  have heq : aliases (.mapping root) = entries := by
    rw [aliases, haliases]
  rw [heq]
  exact ⟨hentries, (load_mapping hversion haliases).symm.trans h⟩

/-- The tokens of a table are distinct and folded. -/
structure Folded (table : Aliases) : Prop where
  distinct : (Table.keys table).Nodup
  folded : ∀ token ∈ Table.keys table, Text.fold token = token

theorem Folded.insert (h : Folded table) (token unit : String) :
    Folded (Table.insert table (Text.fold token) unit) where
  distinct := Table.nodup_keys_insert h.distinct _ _
  folded := by
    intro other hother
    rw [Table.keys_insert] at hother
    split at hother
    · exact h.folded other hother
    · rcases List.mem_append.mp hother with hother | hother
      · exact h.folded other hother
      · rw [List.mem_singleton.mp hother]
        exact Text.fold_fold token

/-- A table whose tokens are folded is not changed by folding them. -/
theorem Folded.ofList_eq (h : Folded table) : Aliases.ofList table = table := by
  have hmap : table.map (fun e => (Text.fold e.1, e.2)) = table := by
    conv_rhs => rw [← List.map_id table]
    refine List.map_congr_left fun e he => ?_
    rw [h.folded e.1 (List.mem_map.mpr ⟨e, he, rfl⟩)]
    rfl
  calc Aliases.ofList table
      = Table.ofList (table.map fun e => (Text.fold e.1, e.2)) := by
        unfold Aliases.ofList Table.ofList
        rw [List.foldl_map]
    _ = Table.ofList table := by rw [hmap]
    _ = table := Table.ofList_of_nodup h.distinct

/-- A catalog has a loaded table as it is. -/
theorem ofList_load (h : load content = .ok table) : Aliases.ofList table = table := by
  have hfolded : Folded table := addEntries_preserves
    (fun e _ t unit ht => ht.insert (Text.trim e.1) unit) (addEntries_of_load h).2
    ⟨List.nodup_nil, fun _ hmem => nomatch hmem⟩
  exact hfolded.ofList_eq

/-- **Of the entries whose tokens fold alike, a loaded table has the last one.** -/
theorem get?_load (h : load content = .ok table) {before after : List (String × Data)}
    {token unit : String} (hentries : aliases content = before ++ (token, .text unit) :: after)
    (hlast : ∀ e ∈ after, Text.fold (Text.trim e.1) ≠ Text.fold (Text.trim token)) :
    Table.get? table (Text.fold (Text.trim token)) = some (Text.trim unit) := by
  obtain ⟨hnames, hadd⟩ := addEntries_of_load h
  rw [hentries] at hnames hadd
  obtain ⟨hbefore, hafter⟩ := List.forall_mem_append.mp hnames
  obtain ⟨s, hs, hblank⟩ := (List.forall_mem_cons.mp hafter).1
  cases hs
  obtain ⟨middle, hmiddle⟩ := addEntries_pass hbefore []
  rw [hmiddle, addEntries_text middle token hblank] at hadd
  refine addEntries_preserves (p := fun t =>
    Table.get? t (Text.fold (Text.trim token)) = some (Text.trim unit)) ?_ hadd ?_
  · intro e he t unit' ht
    rw [Table.get?_insert, if_neg (Ne.symm (hlast e he))]
    exact ht
  · rw [Table.get?_insert, if_pos rfl]

end Load

/-- **An alias file is accepted exactly if it is valid, and every accepted alias is found.** Loading
fails with the first thing that is wrong, and with nothing else. In a catalog that has the loaded
table, a text that some token equals up to case and blanks at its ends means the unit that the last
such token stands for, provided that the registry accepts it. -/
theorem load_accepts_and_finds (content : Data) :
    ((∃ table, load content = .ok table) ↔ Valid content) ∧
      (∀ e, load content = .error e ↔ Fault content e) ∧
      ∀ table, load content = .ok table →
        ∀ c : Catalog, c.aliases = Aliases.ofList table →
        ∀ (text : String) (before after : List (String × Data)) (token unit : String)
          (units : Units), aliases content = before ++ (token, .text unit) :: after →
        Text.fold (Text.trim token) = Text.fold (Text.trim text) →
        (∀ e ∈ after, Text.fold (Text.trim e.1) ≠ Text.fold (Text.trim text)) →
        (c.registry.parse (Text.trim unit)).1 = .ok units →
        (c.resolve text).1 = .ok units := by
  refine ⟨⟨fun ⟨_, h⟩ => valid_of_load h, load_of_valid⟩,
    fun _ => ⟨fault_of_load, load_of_fault⟩, ?_⟩
  intro table hload c hc text before after token unit units hentries hsame hlast hparse
  rw [ofList_load hload] at hc
  have halias : Table.get? c.aliases (Text.fold (Text.trim text)) = some (Text.trim unit) := by
    rw [hc, ← hsame]
    rw [← hsame] at hlast
    exact get?_load hload hentries hlast
  rcases hparsed : c.registry.parse (Text.trim unit) with ⟨outcome, r⟩
  rw [hparsed] at hparse
  cases hparse
  rw [Catalog.resolve_of_alias halias hparsed]

/-- A file with two tokens that fold alike. -/
def colliding : Data :=
  .mapping [("schema_version", .text "1.2"),
    ("aliases", .mapping [(" C", .text "coulomb"), ("h", .text "henry"), ("c ", .text " meter")])]

/-- A file with an alias that stands for nothing, and another one after it. -/
def lacking : Data :=
  .mapping [("aliases", .mapping [("a", .text "meter"), ("b", .text " "), ("c", .null)])]

theorem load_accepts_and_finds_colliding :
    load lacking = .error (.badEntry "b") ∧ (∃ table, load colliding = .ok table) ∧
      ∀ table, load colliding = .ok table →
        ((Catalog.withAliases (Aliases.ofList table)).resolve "C").1 =
          .ok [(Unit.Known.meter, 1)] := by
  have hnames : ∀ s, Text.isBlankText s = false → NamesUnit (.text s) := fun s h => ⟨s, rfl, h⟩
  have hfault : Fault lacking (.badEntry "b") := by
    have haliases : Data.get? "aliases"
        [("aliases", .mapping [("a", .text "meter"), ("b", .text " "), ("c", .null)])] =
          some (.mapping ([("a", .text "meter")] ++ ("b", .text " ") :: [("c", .null)])) := rfl
    have hblank : ¬ NamesUnit (.text " ") := fun ⟨s, hs, hs'⟩ => by
      cases hs
      exact absurd hs' (by decide)
    exact .badEntry (fun _ h => nomatch h) haliases
      (List.forall_mem_singleton.mpr (hnames "meter" (by decide))) hblank
  have hvalid : Valid colliding := by
    refine ⟨_, rfl, ?_, _, rfl, ?_⟩
    · rintro version ⟨⟩
      exact ⟨"2", rfl⟩
    · intro e he
      simp only [List.mem_cons, List.not_mem_nil, or_false] at he
      rcases he with rfl | rfl | rfl <;> exact hnames _ (by decide)
  have htrim : Text.trim " meter" = "meter" := by decide
  have hread : UnitTerm.read "meter" = .ok (1, [("meter", 1)]) :=
    UnitTerm.read_name "meter" (by decide) (by decide +kernel)
  have hparse : (Registry.standard.parse (Text.trim " meter")).1 =
      .ok [(Unit.Known.meter, 1)] := by
    have hmeter : Registry.standard.recognize? "meter" = some (.unit Unit.Known.meter) := rfl
    rw [htrim]
    exact congrArg Prod.fst (Registry.parse_of_name hread hmeter)
  exact ⟨((load_accepts_and_finds lacking).2.1 _).mpr hfault,
    (load_accepts_and_finds colliding).1.mpr hvalid, fun table hload =>
      (load_accepts_and_finds colliding).2.2 table hload _ rfl "C"
        [(" C", .text "coulomb"), ("h", .text "henry")] [] "c " " meter" _ rfl (by decide)
        (List.forall_mem_nil _) hparse⟩

end AliasFile

end Reckon
