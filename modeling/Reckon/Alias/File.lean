import Reckon.Alias.Data
import Reckon.Catalog

/-!
# Alias files

A file with a table of aliases is a mapping with the entry `aliases` and, if it has the entry
`schema_version`, a version `1.x`. Every alias maps to the text of a unit.
-/

namespace Reckon

/-- Why a table of aliases cannot be loaded. -/
inductive AliasError where
  /-- There is no file. -/
  | missing
  /-- The file holds something else than a mapping. -/
  | notMapping
  /-- The version is not supported. -/
  | unsupportedVersion (version : Data)
  /-- There is no mapping of aliases. -/
  | noAliases
  /-- An alias does not map to the text of a unit. -/
  | badEntry (token : String)

/-- The message about a file with the given path. -/
def AliasError.message (path : String) : AliasError → String
  | missing => s!"Unit alias file not found: {path}"
  | notMapping => s!"Invalid alias file format in {path}: expected dict at root"
  | unsupportedVersion version =>
    s!"Unsupported schema version '{version.shown}' in {path}. Expected version 1.x"
  | noAliases => s!"Alias file {path} missing required 'aliases' mapping"
  | badEntry token => s!"Alias '{token}' in {path} must map to a unit name"

namespace AliasFile

/-- Whether a version is supported; a file without one counts as version 1.0. -/
def checkVersion (version : Option Data) : Except AliasError PUnit :=
  match version with
  | none => .ok ⟨⟩
  | some (.text s) =>
    if "1.".toList.isPrefixOf s.toList then .ok ⟨⟩ else .error (.unsupportedVersion (.text s))
  | some other => .error (.unsupportedVersion other)

/-- The unit text of an entry. -/
def unitText? : Data → Option String
  | .text s => if Text.isBlankText s then none else some (Text.trim s)
  | _ => none

/-- Adds entries to a table, up to the first bad one. -/
def addEntries : Aliases → List (String × Data) → Except AliasError Aliases
  | table, [] => .ok table
  | table, (token, value) :: rest =>
    match unitText? value with
    | none => .error (.badEntry token)
    | some unit => addEntries (Table.insert table (Text.fold (Text.trim token)) unit) rest

/-- The table of aliases in the content of a file. -/
def load (content : Data) : Except AliasError Aliases :=
  match content with
  | .mapping root => do
    checkVersion (Data.get? "schema_version" root)
    match Data.get? "aliases" root with
    | some (.mapping entries) => addEntries [] entries
    | _ => .error .noAliases
  | _ => .error .notMapping

/-- The file with the table that is part of the program. -/
def bundled : Data :=
  .mapping [("schema_version", .text "1.0"),
    ("aliases", .mapping (Catalog.bundledAliases.map fun (token, unit) => (token, .text unit)))]

end AliasFile

end Reckon
