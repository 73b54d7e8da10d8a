/-!
# Paths of alias files

What a path means depends on the machine: on the home directories, on the working directory and on
the links between its files.
-/

namespace Reckon

/-- What paths mean on a machine. -/
structure Machine where
  /-- The home directories of the users that have one; the empty name is that of whoever runs the
  program. -/
  home : String → Option String
  /-- The working directory. -/
  directory : String
  /-- The path without links, `.` and `..` to the place that an absolute path leads to. -/
  real : String → String
  /-- The path of the table that is part of the program. -/
  bundled : String

/-- What stands before, between and after the slashes. -/
def splitPath : List Char → List (List Char)
  | [] => [[]]
  | c :: cs =>
    if c = '/' then [] :: splitPath cs
    else
      match splitPath cs with
      | [] => [[c]]
      | part :: rest => (c :: part) :: rest

/-- The parts of a path; `.` and nothing are none. -/
def pathParts (path : String) : List String :=
  ((splitPath path.toList).map String.ofList).filter fun part => part != "" && part != "."

/-- Whether a path does not begin in the working directory. -/
def isAbsolute (path : String) : Bool := path.toList.head? == some '/'

/-- Adds a part to the parts of a path, the last one first: `..` goes back. -/
def stepInto (parts : List String) (part : String) : List String :=
  if part = ".." then parts.drop 1 else part :: parts

/-- The shortest absolute path to the same place where there are no links. -/
def tidyPath (path : String) : String :=
  "/" ++ "/".intercalate ((pathParts path).foldl stepInto []).reverse

namespace Machine

/-- A machine without home directories and links. -/
def plain : Machine := ⟨fun _ => none, "/", tidyPath, "/unit_aliases.yaml"⟩

/-- The place that a path leads to from the working directory. -/
def locate (m : Machine) (path : String) : String :=
  m.real (if isAbsolute path then path else s!"{m.directory}/{path}")

/-- Replaces a tilde and the name of a user by the home directory of that user; `none` if there is no
such directory. -/
def expand (m : Machine) (path : String) : Option String :=
  match isAbsolute path, pathParts path with
  | false, first :: rest =>
    match first.toList with
    | '~' :: user =>
      (m.home (String.ofList user)).map fun home => "/".intercalate (home :: rest)
    | _ => some path
  | _, _ => some path

/-- The place that a path leads to once its tilde is replaced. -/
def resolve (m : Machine) (path : String) : Option String := (m.expand path).map m.locate

end Machine

end Reckon
