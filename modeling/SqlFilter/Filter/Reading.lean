import SqlFilter.Document.Reading

/-!
# Reading filters

The forms of filters in documents.  Names of other fields are ignored.
-/

namespace SqlFilter

open Reader

/-- Reads a place in the order of the result. -/
def SortKey.read : Reader SortKey := fun d => do
  let d ← record ["position", "descending"] d
  return { position := ← defaulted "position" 0 int32 d, descending := ← defaulted "descending" false bool d }

/-- Reads a filter on truth values. -/
def BooleanFilter.read : Reader BooleanFilter := fun d => do
  let d ← record ["eq", "neq", "is_null", "sort"] d
  return {
    eq := ← optional "eq" bool d, neq := ← optional "neq" bool d, isNull := ← optional "is_null" bool d,
    sort := ← optional "sort" SortKey.read d }

/-- Reads a filter on values with an order. -/
def RangeFilter.read {α : Type} (element : Reader α) : Reader (RangeFilter α) := fun d => do
  let d ← record ["eq", "neq", "gt", "gte", "lt", "lte", "in", "not_in", "is_null", "sort"] d
  return {
    eq := ← optional "eq" element d, neq := ← optional "neq" element d, gt := ← optional "gt" element d,
    gte := ← optional "gte" element d, lt := ← optional "lt" element d, lte := ← optional "lte" element d,
    isIn := ← optional "in" (list (nullable element)) d,
    notIn := ← optional "not_in" (list (nullable element)) d,
    isNull := ← optional "is_null" bool d, sort := ← optional "sort" SortKey.read d }

/-- Reads the fields of a filter on values that are told apart. -/
def ChoiceFilter.readFields {α : Type} (element : Reader α) : Reader (ChoiceFilter α) := fun d => do
  return {
    eq := ← optional "eq" element d, neq := ← optional "neq" element d,
    isIn := ← optional "in" (list (nullable element)) d,
    notIn := ← optional "not_in" (list (nullable element)) d,
    isNull := ← optional "is_null" bool d, sort := ← optional "sort" SortKey.read d }

def IdFilter.read : Reader IdFilter := fun d => do
  let d ← record ["eq", "neq", "in", "not_in", "is_null", "sort"] d
  ChoiceFilter.readFields (ofType .uuid) d

def EnumMode.ofName? : String → Option EnumMode
  | "by_value" => some .byValue
  | "by_name" => some .byName
  | "by_value_as_string" => some .byValueAsText
  | _ => none

/-- Reads a filter on the members of an enumeration. -/
def EnumFilter.read {α : Type} (member : Reader α) : Reader (EnumFilter α) := fun d => do
  let d ← record ["mode", "eq", "neq", "in", "not_in", "is_null", "sort"] d
  return {
    ← ChoiceFilter.readFields member d with mode := ← defaulted "mode" .byValue (oneOf EnumMode.ofName?) d }

/-- Reads a filter on bits. -/
def FlagsFilter.read {α : Type} (flags : Reader α) : Reader (FlagsFilter α) := fun d => do
  let d ← record ["has_flag", "not_has_flag", "is_null", "sort"] d
  return {
    has := ← optional "has_flag" flags d, hasNot := ← optional "not_has_flag" flags d,
    isNull := ← optional "is_null" bool d, sort := ← optional "sort" SortKey.read d }

def TextFilter.read : Reader TextFilter := fun d => do
  let d ← record ["eq", "neq", "contains", "starts_with", "ends_with", "in", "not_in", "is_null", "case_sensitive",
    "sort"] d
  return {
    eq := ← optional "eq" text d, neq := ← optional "neq" text d, contains := ← optional "contains" text d,
    startsWith := ← optional "starts_with" text d, endsWith := ← optional "ends_with" text d,
    isIn := ← optional "in" (list (nullable text)) d, notIn := ← optional "not_in" (list (nullable text)) d,
    isNull := ← optional "is_null" bool d, caseSensitive := ← defaulted "case_sensitive" false bool d,
    sort := ← optional "sort" SortKey.read d }

def SearchFilter.read : Reader SearchFilter := fun d => do
  let d ← record ["term", "case_sensitive"] d
  return { term := ← defaulted "term" "" text d, caseSensitive := ← defaulted "case_sensitive" false bool d }

/-- The form of a search term by its name. -/
def TermSyntax.ofName? : String → Option TermSyntax
  | "plain" => some .plain
  | "web_search" => some .webSearch
  | _ => none

def FullTextFilter.read : Reader FullTextFilter := fun d => do
  let d ← record ["term", "config", "mode"] d
  return {
    term := ← defaulted "term" "" text d, config := ← optional "config" text d,
    form := ← defaulted "mode" .plain (oneOf TermSyntax.ofName?) d }

/-- Reads a page; both fields are required. -/
def PageFilter.read : Reader PageFilter := fun d => do
  let d ← record ["limit", "page"] d
  return { limit := ← required "limit" int64 d, page := ← required "page" int64 d }

end SqlFilter
