import SqlFilter.Text.Identifier

/-!
# Columns

A column of a table, possibly with a path into the JSON document that it holds.
-/

namespace SqlFilter

/-- A column expression of a table. -/
structure Column where
  table : String
  expression : String
deriving DecidableEq, Repr

namespace Column

/-- The expression has a path into a JSON document. -/
def hasPath (c : Column) : Bool := Text.hasArrow c.expression.toList

def base (c : Column) : String := String.ofList (Text.beforeArrow c.expression.toList)

/-- The expression after the table and a point. -/
def qualified (c : Column) : String := c.table ++ "." ++ c.expression

/-- What the names of all parameters of the column start with. -/
def paramPrefix (c : Column) : String := Text.sanitize c.table ++ "_" ++ Text.sanitize c.expression

end Column

end SqlFilter
