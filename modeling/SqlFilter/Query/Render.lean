import SqlFilter.Query.Call
import SqlFilter.Statement.Basic

/-!
# Writing queries

The statement of a query: what is selected, the conditions joined by AND, the order unless rows are only counted, and
the page, whose two numbers are parameters like all other values.
-/

namespace SqlFilter

/-- An item of the list of columns. -/
def SelectItem.sql (table : String) (i : SelectItem) : String :=
  let column := table ++ "." ++ i.expression
  match i.outputName with
  | some name => column ++ " AS " ++ name
  | none => column

/-- What stands between SELECT and FROM. -/
def Selection.sql (table : String) : Selection → String
  | all => table ++ ".*"
  | count => "COUNT(*)"
  | columns items => ", ".intercalate (items.map (SelectItem.sql table))

namespace Query

/-- The columns to sort by in order of position; those at one position stay as they were added. -/
def orderedSorts (q : Query) : List SortEntry :=
  q.sorts.mergeSort fun a b => decide (a.key.position ≤ b.key.position)

def whereClause (q : Query) : String :=
  if q.conditions.isEmpty then "" else " WHERE " ++ " AND ".intercalate (q.conditions.map Condition.sql)

def orderClause (q : Query) : String :=
  if q.sorts.isEmpty then ""
  else " ORDER BY " ++ ", ".intercalate (q.orderedSorts.map fun e => Dialect.orderBy e.column e.key.descending)

def pagingClause (q : Query) : String :=
  if q.paging.isSome then " " ++ q.dialect.paging Action.limitParam Action.offsetParam else ""

/-- The parameters of the conditions and of the page. -/
def allParams (q : Query) : Params :=
  match q.paging with
  | some p => (q.params.set Action.limitParam (.int64 p.limit)).set Action.offsetParam (.int64 p.offset)
  | none => q.params

/-- The statement of a query; refused as long as nothing is selected. -/
def render (q : Query) : Except QueryError Statement :=
  match q.selection with
  | none => .error .missingSelect
  | some s =>
    .ok ⟨"SELECT " ++ s.sql q.table ++ " FROM " ++ q.table ++ q.whereClause ++
      (if s = .count then "" else q.orderClause) ++ q.pagingClause, q.allParams⟩

end Query

end SqlFilter
