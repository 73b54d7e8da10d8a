import Reckon.Error
import Reckon.Kind
import Reckon.Table
import Reckon.Text.Fold
import Reckon.Unit.Lookup
import Reckon.Unit.Memory

/-!
# The unit catalog

A catalog finds the units that a text means. It asks, in this order, the table of aliases, the
registry, an index of all spellings that ignores case, and the reader of unit expressions. If all
of them fail it suggests spellings that are similar.

The index and the spellings to suggest are gathered when they are first needed, from what the
registry lists by then, and kept.
-/

namespace Reckon

/-- Tokens and the unit expressions they stand for. The tokens are folded. -/
abbrev Aliases := Table String

/-- A table with folded tokens; of tokens that differ only in case, the last one counts. -/
def Aliases.ofList (entries : List (String × String)) : Aliases :=
  entries.foldl (fun table (token, unit) => Table.insert table (Text.fold token) unit) []

/-- The elements whose key is not among `seen`; of those with the same key, the first one. -/
def newByKey {α : Type} (seen : List String) : List (String × α) → List (String × α)
  | [] => []
  | x :: xs => if seen.contains x.1 then newByKey seen xs else x :: newByKey (x.1 :: seen) xs

/-- Of the elements with the same key, the first one. -/
def firstByKey {α : Type} (xs : List (String × α)) : List (String × α) := newByKey [] xs

/-- A spelling of a unit. -/
structure Spelling where
  /-- The spelling itself. -/
  text : String
  /-- The unit. -/
  unit : Unit

/-- The order in which names are indexed: those in lower case first, then the alphabet. -/
def lowercaseFirst (a b : String) : Bool :=
  match Text.isLowercase a, Text.isLowercase b with
  | true, false => true
  | false, true => false
  | _, _ => decide (a ≤ b)

/-- The names that a registry lists: its spellings and the prefixed units that have been formed. What
starts with an underscore is not listed. -/
def Registry.entries (r : Registry) : List String :=
  (r.definitions.map (·.1) ++ r.formed.map (·.name)).filter fun entry =>
    entry.toList.head? != some '_'

/-- The unit that a name stands for, if that unit has a name. -/
def Registry.named? (r : Registry) (name : String) : Option Unit :=
  match r.recognize? name with
  | some (.unit u) => if u.name = "" then none else some u
  | _ => none

/-- The spellings of the units that a registry lists, each followed by the unit's name and its
plural. -/
def Registry.spellings (r : Registry) : List Spelling :=
  (r.entries.mergeSort lowercaseFirst).flatMap fun entry =>
    match r.named? entry with
    | none => []
    | some u => [⟨entry, u⟩, ⟨u.name, u⟩, ⟨u.name ++ "s", u⟩]

/-- Spellings by their folded form; of those with the same folded form, the first one counts. -/
abbrev SpellingIndex := List (String × Spelling)

/-- The index of the spellings of a registry. -/
def Registry.index (r : Registry) : SpellingIndex :=
  firstByKey (r.spellings.map fun s => (Text.fold s.text, s))

/-- Texts with their folded forms, in order of length, then of the folded form. -/
def shorterFirst (a b : String × String) : Bool :=
  if a.2.length = b.2.length then decide (a.1 ≤ b.1) else decide (a.2.length < b.2.length)

/-- All spellings and tokens, of those with the same folded form the first one, in order. -/
def knownSpellings (index : SpellingIndex) (aliases : Aliases) : List String :=
  let tokens := aliases.map fun (token, _) => (Text.fold token, token)
  let all := firstByKey (index.map (fun (key, s) => (key, s.text)) ++ tokens)
  (all.mergeSort shorterFirst).map (·.2)

/-- The spellings that a catalog knows. -/
structure Glossary where
  /-- The spellings of the units, by their folded form. -/
  index : SpellingIndex
  /-- All spellings that can be suggested, the shortest first. -/
  known : List String

/-- The spellings of an index and the tokens of a table of aliases. -/
def Glossary.ofIndex (index : SpellingIndex) (aliases : Aliases) : Glossary :=
  ⟨index, knownSpellings index aliases⟩

/-- Finds units by their spellings. -/
structure Catalog where
  /-- The units. -/
  registry : Registry
  /-- The tokens that come before everything else. -/
  aliases : Aliases
  /-- The spellings, once they have been gathered. -/
  gathered : Option Glossary
  /-- What has been worked out about units. -/
  memory : Memory

namespace Catalog

/-- The catalog of a registry with a table of aliases. -/
def ofRegistry (registry : Registry) (aliases : Aliases) : Catalog :=
  ⟨registry, aliases, none, .empty⟩

/-- The spellings: those that have been gathered, or else those that the registry lists now. -/
def glossary (c : Catalog) : Glossary :=
  c.gathered.getD (.ofIndex c.registry.index c.aliases)

/-- Gathers the spellings, if that has not been done. -/
def gather (c : Catalog) : Catalog := { c with gathered := some c.glossary }

/-- The spellings of the units, by their folded form. -/
def index (c : Catalog) : SpellingIndex := c.glossary.index

/-- All spellings that can be suggested, the shortest first. -/
def known (c : Catalog) : List String := c.glossary.known

/-- The form in which texts are compared for suggestions. -/
def normalize (text : String) : String := Text.fold (Text.unspaced text)

/-- Whether one of two texts starts with the other. -/
def similar (a b : String) : Bool := a.toList.isPrefixOf b.toList || b.toList.isPrefixOf a.toList

/-- Whether a spelling is worth suggesting for a text. -/
def isSuggestion (text spelling : String) : Bool :=
  normalize spelling != "" && similar (normalize text) (normalize spelling)

/-- Goes through spellings and takes those that are worth suggesting for a text, until there are as
many as wanted. Of spellings that differ only in case and blanks the first one is taken; `seen` has
the compared forms of those that have been. -/
def pick (text : String) (limit : Int) (seen : List String) : List String → List String
  | [] => []
  | spelling :: rest =>
    if isSuggestion text spelling && !seen.contains (normalize spelling) then
      if limit ≤ 1 then [spelling]
      else spelling :: pick text (limit - 1) (normalize spelling :: seen) rest
    else pick text limit seen rest

/-- The best suggestions: known spellings that start with the text or that it starts with, ignoring
case and blanks. There are at most `limit` of them, but at least one if there is any. -/
def suggest (c : Catalog) (text : String) (limit : Int) : List String :=
  if normalize text = "" then [] else pick text limit [] c.known

/-- How many suggestions a message has. -/
def suggestionLimit : Int := 5

/-- The error about a text that nothing recognizes. -/
def unrecognized (c : Catalog) (text : String) : EvalError :=
  .unrecognizedUnit text (c.suggest text suggestionLimit)

/-- Replaces the registry. -/
def withRegistry (c : Catalog) (r : Registry) : Catalog := { c with registry := r }

/-- Forgets what looking up and converting units has added to the catalog. -/
def renewed (c : Catalog) : Catalog :=
  { c with registry := c.registry.renewed, gathered := none, memory := .empty }

/-- Asks the registry for a name. -/
def byName (c : Catalog) (text : String) : Option Units × Catalog :=
  if text = "" then (none, c)
  else
    let (units, r) := c.registry.parseName text
    (units, c.withRegistry r)

/-- Asks the index; a text that it lacks may still be a prefixed unit in other case. -/
def byIndex (c : Catalog) (text : String) : Option Units × Catalog :=
  let folded := Text.fold text
  let c := c.gather
  match c.index.lookup folded with
  | some s => (some [(s.unit, 1)], c)
  | none => if text = folded then (none, c) else c.byName folded

/-- Whether a text ends with a character that joins units, and so lacks something. -/
def isIncomplete (text : String) : Bool :=
  match text.toList.getLast? with
  | none => true
  | some c => c == '_' || c == '-' || c == '/' || c == '^'

/-- Reads a text as a unit expression. -/
def byExpression (c : Catalog) (text : String) : Except UnitFault Units × Catalog :=
  if isIncomplete text then (.error .unrecognized, c)
  else
    let (units, r) := c.registry.parse text
    (units, c.withRegistry r)

/-- Asks everything but the table of aliases. -/
def search (c : Catalog) (text : String) : Except UnitFault Units × Catalog :=
  match c.byName text with
  | (some units, c) => (.ok units, c)
  | (none, c) =>
    match c.byIndex text with
    | (some units, c) => (.ok units, c)
    | (none, c) => c.byExpression text

/-- The units that a text means, and the catalog after looking for them. -/
def resolve (c : Catalog) (text : String) : Except Failure Units × Catalog :=
  let trimmed := Text.trim text
  match Table.get? c.aliases (Text.fold trimmed) with
  | none =>
    match c.search trimmed with
    | (.ok units, c) => (.ok units, c)
    | (.error (.abort a), c) => (.error (.abort a), c)
    | (.error .unrecognized, c) => (.error (.error (c.unrecognized text)), c)
  | some expression =>
    match c.registry.parse expression with
    | (.ok units, r) => (.ok units, c.withRegistry r)
    | (.error (.abort a), r) => (.error (.abort a), c.withRegistry r)
    | (.error .unrecognized, r) =>
      match (c.withRegistry r).search trimmed with
      | (.ok units, c) => (.ok units, c)
      | (.error (.abort a), c) => (.error (.abort a), c)
      | (.error .unrecognized, c) => (.error (.error (.unresolvedAlias text)), c)

/-- The tokens that are known without any file. They matter more than what the registry would make
of the same text: `c` is a degree Celsius, not the speed of light. -/
def bundledAliases : Aliases :=
  [("m", "meter"), ("cm", "centimeter"), ("mm", "millimeter"), ("km", "kilometer"), ("in", "inch"),
    ("ft", "foot"), ("c", "degree_Celsius"), ("f", "degree_Fahrenheit"), ("k", "kelvin"),
    ("degc", "degree_Celsius"), ("degf", "degree_Fahrenheit"), ("degk", "kelvin"),
    ("kg", "kilogram"), ("g", "gram"), ("lb", "pound"), ("s", "second"), ("sec", "second"),
    ("ms", "millisecond"), ("min", "minute"), ("mins", "minute"), ("h", "hour"), ("hr", "hour")]

/-- The catalog of the standard registry with a table of aliases. -/
def withAliases (aliases : Aliases) : Catalog := ofRegistry .standard aliases

/-- The catalog of the standard registry with the bundled aliases. -/
def standard : Catalog := withAliases bundledAliases

end Catalog

end Reckon
