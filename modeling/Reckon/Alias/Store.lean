import Reckon.Alias.File
import Reckon.Alias.Path

/-!
# The shared catalog and its tables

A table that has been loaded is kept until the store is cleared, whatever happens to its file in
the meantime, unless eight others have been asked for since; failures are not kept. The shared
catalog is made of the configured table when it is first asked for, and kept as well.
-/

namespace Reckon

/-- What a file holds. -/
inductive FileContent where
  /-- Structured data. -/
  | data (content : Data)
  /-- Something that cannot be read as structured data, and what its reader says about it. -/
  | unreadable (message : String)

/-- Why a table cannot be had. -/
inductive LoadError where
  /-- The configured path begins in a home directory that does not exist. -/
  | homeless
  /-- The reader of the file fails. -/
  | unreadable (message : String)
  /-- The file at the path is missing, or what it holds is not a table. -/
  | refused (path : String) (reason : AliasError)

/-- The message about a table. -/
def LoadError.message : LoadError → String
  | homeless => "Could not determine home directory."
  | unreadable message => message
  | refused path reason => reason.message path

/-- The alias files, the tables that have been loaded from them, and the shared catalog. -/
structure AliasStore where
  /-- What paths mean. -/
  machine : Machine
  /-- The files by their places. -/
  files : List (String × FileContent)
  /-- The configured path, if one is set. -/
  setting : Option String
  /-- The tables that are kept, by the paths of their files, the one asked for last in front. -/
  tables : List (String × Aliases)
  /-- The shared catalog, if it has been made. -/
  shared : Option Catalog
  /-- The units known so far, which outlive every catalog. -/
  registry : Registry

namespace AliasStore

/-- The store at the start: the shared catalog exists, with the table that is part of the
program. -/
def start (machine : Machine) : AliasStore :=
  ⟨machine, [(machine.locate machine.bundled, .data AliasFile.bundled)], none, [], some .standard,
    .standard⟩

/-- Puts a file at a path. -/
def write (s : AliasStore) (path : String) (content : FileContent) : AliasStore :=
  let place := s.machine.locate path
  { s with files := (place, content) :: s.files.filter (·.1 != place) }

/-- Removes the file at a path. -/
def delete (s : AliasStore) (path : String) : AliasStore :=
  { s with files := s.files.filter (·.1 != s.machine.locate path) }

/-- Sets or unsets the configured path. -/
def configure (s : AliasStore) (setting : Option String) : AliasStore :=
  { s with setting := setting }

/-- Forgets all tables and the shared catalog. -/
def clear (s : AliasStore) : AliasStore := { s with tables := [], shared := none }

/-- The path of the configured table; a blank path counts as none. -/
def configured (s : AliasStore) : Except LoadError String :=
  match s.setting with
  | none => .ok s.machine.bundled
  | some path =>
    if Text.isBlankText path then .ok s.machine.bundled
    else
      match s.machine.resolve (Text.trim path) with
      | some place => .ok place
      | none => .error .homeless

/-- Reads the table at a path as it is now. -/
def read (s : AliasStore) (path : String) : Except LoadError Aliases :=
  match s.files.lookup (s.machine.locate path) with
  | none => .error (.refused path .missing)
  | some (.unreadable message) => .error (.unreadable message)
  | some (.data content) => (AliasFile.load content).mapError (.refused path)

/-- How many tables are kept. -/
def tableLimit : Nat := 8

/-- Keeps a table as the one asked for last. If there are too many, the one that nobody has asked
for the longest goes. -/
def keep (s : AliasStore) (path : String) (table : Aliases) : AliasStore :=
  { s with tables := ((path, table) :: s.tables.filter (·.1 != path)).take tableLimit }

/-- The table at a path, from memory or from its file. -/
def load (s : AliasStore) (path : String) : Except LoadError Aliases × AliasStore :=
  match s.tables.lookup path with
  | some table => (.ok table, s.keep path table)
  | none =>
    match s.read path with
    | .ok table => (.ok table, s.keep path table)
    | .error e => (.error e, s)

/-- The configured table, from memory or from its file. -/
def loadConfigured (s : AliasStore) : Except LoadError Aliases × AliasStore :=
  match s.configured with
  | .ok path => s.load path
  | .error e => (.error e, s)

/-- The shared catalog; it is made of the configured table if there is none. -/
def catalog (s : AliasStore) : Except LoadError Catalog × AliasStore :=
  match s.shared with
  | some c => (.ok c, s)
  | none =>
    match s.loadConfigured with
    | (.error e, s) => (.error e, s)
    | (.ok table, s) =>
      let c := Catalog.ofRegistry s.registry (Aliases.ofList table)
      (.ok c, { s with shared := some c })

/-- Looks a unit up in the shared catalog. -/
def resolve (s : AliasStore) (text : String) :
    Except LoadError (Except Failure Units) × AliasStore :=
  match s.catalog with
  | (.error e, s) => (.error e, s)
  | (.ok c, s) =>
    let (units, c) := c.resolve text
    (.ok units, { s with shared := some c, registry := c.registry })

end AliasStore

end Reckon
