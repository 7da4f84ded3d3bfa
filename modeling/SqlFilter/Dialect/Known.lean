import SqlFilter.Dialect.Basic

/-!
# Known dialects

PostgreSQL with all that it has; the same types and lists without its casts, patterns and full text search; and two
dialects of the bare standard that cast to two types only and differ in their placeholders.
-/

namespace SqlFilter

namespace ValueType

/-- The names of the types in PostgreSQL. -/
def postgresName : ValueType → String
  | .bool => "boolean"
  | .int16 => "smallint"
  | .int32 => "integer"
  | .int64 => "bigint"
  | .single => "real"
  | .double => "double precision"
  | .decimal => "numeric"
  | .text => "text"
  | .date => "date"
  | .timestamp => "timestamp"
  | .instant => "timestamptz"
  | .uuid => "uuid"

/-- The names of the types that the bare standard casts to. -/
def standardName : ValueType → Option String
  | .int32 => some "INTEGER"
  | .text => some "VARCHAR"
  | _ => none

end ValueType

namespace Dialect

/-- PostgreSQL. -/
def postgres : Dialect where
  name := "postgres"
  sigil := '@'
  castType t := some t.postgresName
  casts := .postfixed
  lists := .quantified
  patterns := .ilike
  fullText := true

/-- The types and lists of PostgreSQL, all else as in the standard. -/
def plain : Dialect where
  name := "plain"
  sigil := '@'
  castType t := some t.postgresName
  casts := .call
  lists := .quantified
  patterns := .lowered
  fullText := false

/-- The bare standard. -/
def ansi : Dialect where
  name := "ansi"
  sigil := '@'
  castType := ValueType.standardName
  casts := .call
  lists := .enclosed
  patterns := .lowered
  fullText := false

/-- The bare standard with a colon in front of parameters. -/
def colon : Dialect := { ansi with name := "colon", sigil := ':' }

def known : List Dialect := [postgres, plain, ansi, colon]

end Dialect

end SqlFilter
