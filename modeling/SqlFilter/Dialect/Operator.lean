import SqlFilter.Text.Like
import SqlFilter.Value.Basic

/-!
# Operators

The questions that a filter puts to a column.  The tag of an operator is a part of the names of its parameters.
-/

namespace SqlFilter

/-- Comparisons with one value. -/
inductive Comparison
  | eq
  | neq
  | gt
  | gte
  | lt
  | lte
deriving DecidableEq, Repr

/-- The sign between column and value. -/
def Comparison.sign : Comparison → String
  | .eq => "="
  | .neq => "<>"
  | .gt => ">"
  | .gte => ">="
  | .lt => "<"
  | .lte => "<="

def Comparison.tag : Comparison → String
  | .eq => "eq"
  | .neq => "neq"
  | .gt => "gt"
  | .gte => "gte"
  | .lt => "lt"
  | .lte => "lte"

/-- Tests against a list of values. -/
inductive Membership
  | isIn
  | notIn
deriving DecidableEq, Repr

/-- The tag of a test against a list. -/
def Membership.tag : Membership → String
  | .isIn => "in"
  | .notIn => "notin"

def Shape.tag : Shape → String
  | .contains => "contains"
  | .startsWith => "startswith"
  | .endsWith => "endswith"

/-- Tests of bits. -/
inductive FlagTest
  /-- At least one of the bits is set. -/
  | has
  /-- None of the bits is set. -/
  | hasNot
deriving DecidableEq, Repr

/-- The tag of a test of bits. -/
def FlagTest.tag : FlagTest → String
  | .has => "hasflag"
  | .hasNot => "nothasflag"

/-- How the term of a full text search is read. -/
inductive TermSyntax
  | plain
  | webSearch
deriving DecidableEq, Repr

/-- A condition of a WHERE clause with the parameter that it binds. -/
structure Condition where
  sql : String
  param : Option (String × Value)
deriving DecidableEq

end SqlFilter
