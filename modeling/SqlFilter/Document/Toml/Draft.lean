import SqlFilter.Document.Basic
import SqlFilter.Document.Toml.Word
import SqlFilter.Named

/-!
# Drafts of tables

The entries of a table may be spread over a text: a header names a table with all tables around it, and so does a key
with points.  A draft remembers for every table how it came about, since that decides whether it may be named again.
-/

namespace SqlFilter.Toml

/-- How a table came about. -/
inductive Origin
  /-- By a header of its own. -/
  | header
  /-- On the way of a header to a table within it. -/
  | passed
  /-- On the way of a key to a value within it. -/
  | dotted
deriving DecidableEq, Repr

/-- A part of a text read so far. -/
inductive Draft
  /-- A value, which nothing can be added to. -/
  | closed (d : Document)
  | table (origin : Origin) (entries : List (String × Draft))

namespace Draft

mutual

def toDocument : Draft → Document
  | closed d => d
  | table _ entries => .table (toEntries entries)

/-- The documents that are drafted under names. -/
def toEntries : List (String × Draft) → List (String × Document)
  | [] => []
  | (name, d) :: r => (name, d.toDocument) :: toEntries r

end

/-- Changes the table at the end of a way.  A table that is missing on the way is made with the origin `fresh`; one that
is there must have an origin that `mayPass` allows. -/
def within (fresh : Origin) (mayPass : Origin → Bool)
    (change : List (String × Draft) → Option (List (String × Draft))) :
    List String → List (String × Draft) → Option (List (String × Draft))
  | [], entries => change entries
  | name :: way, entries =>
    match entries.lookup name with
    | none => do
      return Named.put name (table fresh (← within fresh mayPass change way [])) entries
    | some (table origin inner) =>
      if mayPass origin then do
        return Named.put name (table origin (← within fresh mayPass change way inner)) entries
      else none
    | some (closed _) => none

/-- Opens the table of a header.  It must be missing, or headers have only passed it so far. -/
def openTable? (p : Path) : List (String × Draft) → Option (List (String × Draft)) :=
  within .passed (fun _ => true) (fun entries =>
    match entries.lookup p.last with
    | none => some (Named.put p.last (table .header []) entries)
    | some (table .passed inner) => some (Named.put p.last (table .header inner) entries)
    | some _ => none) p.tables

/-- Adds a value under a key that is missing.  On its way are only tables that keys have made. -/
def assign? (p : Path) (d : Document) : List (String × Draft) → Option (List (String × Draft)) :=
  within .dotted (· = .dotted) (fun entries =>
    if (entries.lookup p.last).isSome then none else some (Named.put p.last (closed d) entries)) p.tables

/-- Adds a value under a key of the table that was opened last. -/
def assignIn? (opened : List String) (p : Path) (d : Document) :
    List (String × Draft) → Option (List (String × Draft)) :=
  within .passed (fun _ => true) (assign? p d) opened

end Draft

end SqlFilter.Toml
