import SqlFilter.Error
import SqlFilter.Filter.Basic
import SqlFilter.Text.Blank

/-!
# Checking filters

`findings` lists every fault of a filter, in a fixed order: fields that exclude each other, bounds out of order, lists
that are empty, too long, hold nulls or repeat a value, and then the rules that the caller adds.  No fault hides
another, except that an empty or too long list is not looked into.
-/

namespace SqlFilter

/-- A rule that a caller adds, with the message for values that break it. -/
structure Rule (α : Type) where
  message : String
  accepts : α → Bool

/-- Rules for texts, and for the lists of texts in a filter. -/
structure TextRules where
  each : List (Rule String) := []
  list : List (Rule (List String)) := []

namespace Finding

/-- A value may not be asked for and excluded at once. -/
def exclusive {α : Type} (eq neq : Option α) : List Finding :=
  if eq.isSome && neq.isSome then [⟨"eq/neq", "eq and neq are mutually exclusive"⟩] else []

/-- Two bounds that are both set must stand in a relation. -/
def unordered {α : Type} (field message : String) (holds : α → α → Bool) : Option α → Option α → List Finding
  | some a, some b => if holds a b then [] else [⟨field, message⟩]
  | _, _ => []

/-- Every lower bound must agree with every upper bound. -/
def range {α : Type} [PartialCompare α] (gt gte lt lte : Option α) : List Finding :=
  unordered "gt/lt" "gt must be less than lt" PartialCompare.lt gt lt ++
    unordered "gt/lte" "gt must be less than or equal to lte" PartialCompare.le gt lte ++
    unordered "gte/lt" "gte must be less than lt" PartialCompare.lt gte lt ++
    unordered "gte/lte" "gte must be less than or equal to lte" PartialCompare.le gte lte

/-- The greatest length of a list. -/
def maxListLength : Nat := 1000

/-- Two places of the list hold values that are the same. -/
def hasDuplicate {α : Type} (same : α → α → Bool) : List α → Bool
  | [] => false
  | a :: r => r.any (same a) || hasDuplicate same r

/-- A list that is set holds 1 to 1000 values, no null, and no value twice. -/
def list {α : Type} (same : α → α → Bool) (field : String) : Option (List (Option α)) → List Finding
  | none => []
  | some xs =>
    if xs.isEmpty then [⟨field, "must not be empty"⟩]
    else if maxListLength < xs.length then
      [⟨field, "must not contain more than " ++ toString maxListLength ++ " values"⟩]
    else
      (if xs.any Option.isNone then [⟨field, "must not contain null values"⟩] else []) ++
        if hasDuplicate same (present xs) then [⟨field, "must not contain duplicate values"⟩] else []

/-- The rules that a value breaks. -/
def broken {α : Type} (field : String) (rules : List (Rule α)) (x : α) : List Finding :=
  (rules.filter fun r => !r.accepts x).map fun r => ⟨field, r.message⟩

/-- The rules that the value of a field breaks, if it is set. -/
def custom {α : Type} (field : String) (rules : List (Rule α)) (x : Option α) : List Finding :=
  x.toList.flatMap (broken field rules)

end Finding

open Finding

/-- The faults of a filter on truth values. -/
def BooleanFilter.findings (f : BooleanFilter) : List Finding := exclusive f.eq f.neq

/-- The faults of a filter on values with an order. -/
def RangeFilter.findings {α : Type} [PartialCompare α] (f : RangeFilter α) (rules : List (Rule α)) :
    List Finding :=
  exclusive f.eq f.neq ++ range f.gt f.gte f.lt f.lte ++
    list PartialCompare.same "in" f.isIn ++ list PartialCompare.same "not_in" f.notIn ++
    custom "eq" rules f.eq ++ custom "neq" rules f.neq ++ custom "gt" rules f.gt ++ custom "gte" rules f.gte ++
    custom "lt" rules f.lt ++ custom "lte" rules f.lte

/-- The faults of a filter on values that are told apart. -/
def ChoiceFilter.findings {α : Type} [BEq α] (f : ChoiceFilter α) (rules : List (Rule α)) : List Finding :=
  exclusive f.eq f.neq ++ list (· == ·) "in" f.isIn ++ list (· == ·) "not_in" f.notIn ++
    custom "eq" rules f.eq ++ custom "neq" rules f.neq

/-- Bits to test for must not be empty. -/
def Finding.noBits {α : Type} [FlagSet α] (field : String) : Option α → List Finding
  | some flags => if FlagSet.bits flags = 0 then [⟨field, "flag must have at least one bit set"⟩] else []
  | none => []

/-- A bit to be set must remain once the bits to be clear are taken away. -/
def Finding.allExcluded {α : Type} [FlagSet α] : Option α → Option α → List Finding
  | some has, some hasNot =>
    if FlagSet.bits has &&& ~~~FlagSet.bits hasNot = 0 then
      [⟨"has_flag/not_has_flag", "every has_flag bit is excluded by not_has_flag"⟩]
    else []
  | _, _ => []

/-- The faults of a filter on bits. -/
def FlagsFilter.findings {α : Type} [FlagSet α] (f : FlagsFilter α) (rules : List (Rule α)) : List Finding :=
  noBits "has_flag" f.has ++ custom "has_flag" rules f.has ++
    noBits "not_has_flag" f.hasNot ++ custom "not_has_flag" rules f.hasNot ++ allExcluded f.has f.hasNot

/-- The rules that a list of texts breaks: those for its texts one by one, then those for the list. -/
def Finding.customList (field : String) (rules : TextRules) : Option (List (Option String)) → List Finding
  | none => []
  | some xs => (present xs).flatMap (broken field rules.each) ++ broken field rules.list (present xs)

/-- The faults of a filter on text. -/
def TextFilter.findings (f : TextFilter) (rules : TextRules) : List Finding :=
  exclusive f.eq f.neq ++ list (· == ·) "in" f.isIn ++ list (· == ·) "not_in" f.notIn ++
    custom "eq" rules.each f.eq ++ custom "neq" rules.each f.neq ++ custom "contains" rules.each f.contains ++
    custom "starts_with" rules.each f.startsWith ++ custom "ends_with" rules.each f.endsWith ++
    customList "in" rules f.isIn ++ customList "not_in" rules f.notIn

def Finding.blankTerm (term : String) : List Finding :=
  if Text.isBlank term then [⟨"term", "must not be empty"⟩] else []

def SearchFilter.findings (f : SearchFilter) : List Finding := blankTerm f.term

/-- The faults of a full text search. -/
def FullTextFilter.findings (f : FullTextFilter) : List Finding :=
  blankTerm f.term ++
    match f.config with
    | some c =>
      if Text.isIdentifier c then [] else [⟨"config", "must be a valid text search configuration name"⟩]
    | none => []

/-- The faults of a page, whose length may have a limit. -/
def PageFilter.findings (f : PageFilter) (maxLimit : Option Int64) : List Finding :=
  (if f.limit ≤ 0 then [⟨"limit", "must be greater than 0"⟩] else []) ++
    (if f.page ≤ 0 then [⟨"page", "must be greater than 0"⟩]
     else if 0 < f.limit ∧ f.checkedOffset = none then [⟨"page", "offset does not fit in a 64-bit integer"⟩]
     else []) ++
    match maxLimit with
    | some m => if m < f.limit then [⟨"limit", "must not exceed " ++ Text.integer m.toInt⟩] else []
    | none => []

/-- Refuses a filter with faults; `label` names what it is about. -/
def checkFindings (kind : FilterKind) (table label : String) (findings : List Finding) : Except QueryError Unit :=
  if findings.isEmpty then .ok () else .error (.invalidFilter kind table label findings)

/-- Refuses a table, then a column, that is not of the form that names have, and then a filter with faults. -/
def checkFilter (kind : FilterKind) (table : String) (columns : List String) (findings : List Finding) :
    Except QueryError Unit := do
  checkIdentifier table
  columns.forM checkColumn
  checkFindings kind table (",".intercalate columns) findings

/-- An absent filter is skipped if that is allowed, and refused otherwise. -/
def checkPresent {α : Type} (kind : FilterKind) (table label : String) (allowAbsent : Bool) (f : Option α) :
    Except QueryError (Option α) :=
  match f with
  | some x => .ok (some x)
  | none => if allowAbsent then .ok none else .error (.missingFilter kind table label)

end SqlFilter
