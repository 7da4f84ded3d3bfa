import SqlFilter.Dialect.Operator
import SqlFilter.Filter.Element

/-!
# Filters

What a caller asks of a column, of several columns, or of the result as a whole.  A field that is not set asks for
nothing.  Lists come from outside and may hold nulls, which checking refuses.
-/

namespace SqlFilter

/-- A place in the order of the result. -/
structure SortKey where
  position : Int32 := 0
  descending : Bool := false
deriving DecidableEq, Repr

/-- The ascending sort at a position. -/
def SortKey.asc (position : Int32) : SortKey := ⟨position, false⟩

/-- The descending sort at a position. -/
def SortKey.desc (position : Int32) : SortKey := ⟨position, true⟩

/-- A filter on truth values. -/
structure BooleanFilter where
  eq : Option Bool := none
  neq : Option Bool := none
  isNull : Option Bool := none
  sort : Option SortKey := none
deriving DecidableEq, Repr

/-- A filter on values with an order. -/
structure RangeFilter (α : Type) where
  eq : Option α := none
  neq : Option α := none
  gt : Option α := none
  gte : Option α := none
  lt : Option α := none
  lte : Option α := none
  isIn : Option (List (Option α)) := none
  notIn : Option (List (Option α)) := none
  isNull : Option Bool := none
  sort : Option SortKey := none

/-- A filter on values that are only told apart. -/
structure ChoiceFilter (α : Type) where
  eq : Option α := none
  neq : Option α := none
  isIn : Option (List (Option α)) := none
  notIn : Option (List (Option α)) := none
  isNull : Option Bool := none
  sort : Option SortKey := none

/-- A filter on the members of an enumeration. -/
structure EnumFilter (α : Type) extends ChoiceFilter α where
  mode : EnumMode := .byValue

/-- A filter on the bits of a column. -/
structure FlagsFilter (α : Type) where
  has : Option α := none
  hasNot : Option α := none
  isNull : Option Bool := none
  sort : Option SortKey := none

abbrev IdFilter := ChoiceFilter Uuid

/-- A filter on text. -/
structure TextFilter where
  eq : Option String := none
  neq : Option String := none
  contains : Option String := none
  startsWith : Option String := none
  endsWith : Option String := none
  isIn : Option (List (Option String)) := none
  notIn : Option (List (Option String)) := none
  isNull : Option Bool := none
  caseSensitive : Bool := false
  sort : Option SortKey := none

/-- A search for a term in several columns. -/
structure SearchFilter where
  term : String := ""
  caseSensitive : Bool := false
deriving DecidableEq, Repr

/-- A search for the words of a term in several columns. -/
structure FullTextFilter where
  term : String := ""
  /-- The name of the text search configuration. -/
  config : Option String := none
  form : TermSyntax := .plain
deriving DecidableEq, Repr

/-- One page of the result; pages are counted from 1. -/
structure PageFilter where
  limit : Int64
  page : Int64
deriving DecidableEq, Repr

/-- The integer as one of 64 bits, if it fits. -/
def int64? (n : Int) : Option Int64 :=
  if Int64.minValue.toInt ≤ n ∧ n ≤ Int64.maxValue.toInt then some (Int64.ofInt n) else none

namespace PageFilter

/-- The number of rows before the page, if it and the number of earlier pages fit into 64 bits. -/
def checkedOffset (f : PageFilter) : Option Int64 := do
  let before ← int64? (f.page.toInt - 1)
  int64? (f.limit.toInt * before.toInt)

/-- The number of rows before the page, the greatest number of 64 bits if it does not fit. -/
def offset (f : PageFilter) : Int64 := f.checkedOffset.getD Int64.maxValue

end PageFilter

/-- The values of a list that are present. -/
def present {α : Type} (xs : List (Option α)) : List α := xs.filterMap id

/-- A list of values that are all present, as a filter holds it. -/
def listed {α : Type} (xs : List α) : Option (List (Option α)) := some (xs.map some)

end SqlFilter
