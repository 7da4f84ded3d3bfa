import SqlFilter.Column.Namer
import SqlFilter.Filter.Basic
import SqlFilter.Params
import SqlFilter.Settings

/-!
# Queries under construction

A `Query` holds what was asked so far of one table: the columns to select, the conditions with their parameters, the
columns to sort by, and the page.  An `Action` is a step on a query that may fail; `perform_bind` and its companions
say how steps follow each other.
-/

namespace SqlFilter

/-- A column to select, with the name that it gets. -/
structure SelectItem where
  expression : String
  outputName : Option String := none
deriving DecidableEq, Repr

/-- What is selected. -/
inductive Selection
  | all
  | count
  | columns (items : List SelectItem)
deriving DecidableEq, Repr

/-- A resolved column to sort by. -/
structure SortEntry where
  column : String
  key : SortKey
deriving DecidableEq, Repr

/-- The number of rows to return and the number of rows before them. -/
structure Paging where
  limit : Int64
  offset : Int64
deriving DecidableEq, Repr

/-- What was asked so far of one table. -/
structure Query where
  table : String
  dialect : Dialect
  settings : Settings
  selection : Option Selection := none
  conditions : List Condition := []
  /-- The parameters of the conditions. -/
  params : Params := {}
  sorts : List SortEntry := []
  namer : Namer := {}
  /-- The number of searches. -/
  searches : Nat := 0
  /-- The number of full text searches. -/
  fullTextSearches : Nat := 0
  paging : Option Paging := none

namespace Query

/-- A new query on a table with the name of an identifier. -/
def create (table : String) (dialect : Dialect) (settings : Settings) : Except QueryError Query := do
  checkIdentifier table
  return { table, dialect, settings }

/-- A new query with settings, which are checked before the table. -/
def withSettings (table : String) (settings : Settings) : Except QueryError Query := do
  settings.check
  create table settings.backend.dialect settings

/-- A new query on a database, all else as usual. -/
def new (table : String) (backend : Backend) : Except QueryError Query := withSettings table { backend }

/-- A new query in a dialect of its own. -/
def withDialect (table : String) (dialect : Dialect) : Except QueryError Query := create table dialect {}

/-- Sets the parameter of a condition, if it has one, and adds the condition. -/
def push (q : Query) (c : Condition) : Query :=
  { q with
    params := match c.param with
      | some (name, v) => q.params.set name v
      | none => q.params
    conditions := q.conditions ++ [c] }

/-- The query for the number of rows: the same conditions, neither sorted nor paged. -/
def countQuery (q : Query) : Query := { q with selection := some .count, sorts := [], paging := none }

end Query

/-- A step that changes a query or fails; a failing step may have changed the query. -/
abbrev Action := ExceptT QueryError (StateM Query)

namespace Action

def check {α : Type} (r : Except QueryError α) : Action α := ExceptT.mk (pure r)

/-- Performs a step on a query. -/
def perform {α : Type} (a : Action α) (q : Query) : Except QueryError α × Query := (ExceptT.run a).run q

variable {α β : Type}

@[simp]
theorem perform_check (r : Except QueryError α) (q : Query) : perform (check r) q = (r, q) := rfl

@[simp]
theorem perform_get (q : Query) : perform get q = (.ok q, q) := rfl

/-- A second step is performed on the query that the first leaves, unless the first fails. -/
theorem perform_bind (a : Action α) (f : α → Action β) (q : Query) :
    perform (a >>= f) q =
      match perform a q with
      | (.ok x, q) => perform (f x) q
      | (.error e, q) => (.error e, q) := by
  simp only [perform, ExceptT.run_bind, StateT.run_bind]
  rcases StateT.run (ExceptT.run a) q with ⟨_ | _, _⟩ <;> rfl

end Action

end SqlFilter
