import SqlFilter.Filter.Finding
import SqlFilter.Query.Test

/-!
# Calls

What a caller can do to a query: choose the columns to select, bind filters to columns, search, and choose a page.
Every call checks all that it is given before it changes the query.
-/

namespace SqlFilter

namespace Action

/-- Adds a condition with its parameter. -/
def push (c : Condition) : Action Unit := modify fun q => q.push c

/-- Chooses what is selected, which can be done once. -/
def select (s : Selection) : Action Unit := do
  if (← get).selection.isSome then throw .selectAlreadySet
  modify fun q => { q with selection := some s }

/-- Refuses an item with a malformed column or name. -/
def checkItem (i : SelectItem) : Except QueryError Unit := do
  checkColumn i.expression
  i.outputName.toList.forM checkIdentifier

/-- Chooses columns to select, at least one. -/
def selectColumns (items : List SelectItem) : Action Unit := do
  if (← get).selection.isSome then throw .selectAlreadySet
  if items.isEmpty then throw (.invalidName "" .emptySelection)
  check (items.forM checkItem)
  select (.columns items)

/-- Fails if the column is sorted by already. -/
def checkUnsorted (column : String) : Action Unit := do
  if (← get).sorts.any (fun e => e.column = column) then throw (.duplicateSort column)

/-- Sorts by a column that is not sorted by already. -/
def sortBy (column : String) (key : SortKey) : Action Unit := do
  checkUnsorted column
  modify fun q => { q with sorts := q.sorts ++ [⟨column, key⟩] }

/-- Adds the condition of a test on a column, which `sql` resolves. -/
def emit (c : Column) (sql : String) (t : Test) : Action Unit := do
  let q ← get
  match t.tag? with
  | none => push (t.condition q.dialect sql "")
  | some tag =>
    let (name, namer) := q.namer.next c tag
    set { q with namer }
    push (t.condition q.dialect sql name)

/-- What a checked filter asks of its column: values of a type, tests, whose values are bound once the column is
resolved, and a place in the order. -/
structure Demand where
  type : ValueType
  tests : Except QueryError (List Test)
  sort : Option SortKey

/-- Adds the conditions of tests on a column, which `sql` resolves, and its place in the order. -/
def apply (c : Column) (sql : String) (tests : List Test) (sort : Option SortKey) : Action Unit := do
  if sort.isSome then checkUnsorted sql
  tests.forM (emit c sql)
  if let some key := sort then sortBy sql key

/-- Binds a filter to a column: an absent filter is skipped or refused; then column, filter, type of the values,
cast, values and order are checked. -/
def bind {φ : Type} (kind : FilterKind) (expression : String) (filter : Option φ) (findings : φ → List Finding)
    (demand : φ → Except QueryError Demand) : Action Unit := do
  let q ← get
  match ← check (checkPresent kind q.table expression q.settings.allowAbsent filter) with
  | none => return
  | some f =>
    check (checkFilter kind q.table [expression] (findings f))
    let d ← check (demand f)
    let column : Column := ⟨q.table, expression⟩
    let sql ← check (q.dialect.resolve column d.type)
    let tests ← check d.tests
    apply column sql tests d.sort

/-- Binds a filter on truth values. -/
def bindBoolean (column : String) (f : Option BooleanFilter) : Action Unit :=
  bind .boolean column f BooleanFilter.findings fun f => .ok ⟨.bool, .ok f.tests, f.sort⟩

/-- Binds a filter on numbers; some types of numbers can be checked only. -/
def bindNumeric (t : NumericType) (column : String) (f : Option (RangeFilter t.Carrier))
    (rules : List (Rule t.Carrier)) : Action Unit :=
  bind .numeric column f (RangeFilter.findings · rules) fun f =>
    match t.storage? with
    | none => .error (.unsupportedType t.name column)
    | some s => .ok ⟨s.type, f.tests s column, f.sort⟩

def bindDate (t : DateType) (column : String) (f : Option (RangeFilter t.Carrier)) (rules : List (Rule t.Carrier)) :
    Action Unit :=
  bind .date column f (RangeFilter.findings · rules) fun f =>
    .ok ⟨t.storage.type, f.tests t.storage column, f.sort⟩

/-- Binds a filter on an enumeration. -/
def bindEnum {α : Type} [Enumeration α] (column : String) (f : Option (EnumFilter α)) (rules : List (Rule α)) :
    Action Unit :=
  bind .enum column f (fun f => f.toChoiceFilter.findings rules) fun f => .ok ⟨f.mode.type, f.tests column, f.sort⟩

def bindFlags {α : Type} [FlagSet α] (column : String) (f : Option (FlagsFilter α)) (rules : List (Rule α)) :
    Action Unit :=
  bind .flags column f (FlagsFilter.findings · rules) fun f => .ok ⟨.int64, .ok f.tests, f.sort⟩

def bindId (column : String) (f : Option IdFilter) (rules : List (Rule Uuid)) : Action Unit :=
  bind .id column f (ChoiceFilter.findings · rules) fun f =>
    .ok ⟨.uuid, .ok (IdFilter.tests f), f.sort⟩

def bindText (column : String) (f : Option TextFilter) (rules : TextRules) : Action Unit :=
  bind .text column f (TextFilter.findings · rules) fun f => .ok ⟨.text, .ok f.tests, f.sort⟩

/-- Checks a search over several columns: an absent filter is skipped or refused; then there must be a column, and
columns and filter must be well formed. -/
def prepareSearch {φ : Type} (kind : FilterKind) (columns : List String) (filter : Option φ)
    (findings : φ → List Finding) : Action (Option φ) := do
  let q ← get
  let label := ",".intercalate columns
  match ← check (checkPresent kind q.table label q.settings.allowAbsent filter) with
  | none => return none
  | some f =>
    if columns.isEmpty then
      throw (.invalidFilter kind q.table label [⟨"columns", "must name at least one column"⟩])
    check (checkFilter kind q.table columns (findings f))
    return some f

/-- The columns of a search as text. -/
def resolveTexts (columns : List String) : Action (List String) := do
  let q ← get
  check (columns.mapM fun c => q.dialect.resolve ⟨q.table, c⟩ .text)

def search (columns : List String) (f : Option SearchFilter) : Action Unit := do
  match ← prepareSearch .search columns f SearchFilter.findings with
  | none => return
  | some f =>
    let resolved ← resolveTexts columns
    let q ← get
    set { q with searches := q.searches + 1 }
    push (q.dialect.freeText resolved ("_Search_" ++ toString q.searches) f.term f.caseSensitive)

/-- Searches columns for the words of a term. -/
def searchFullText (columns : List String) (f : Option FullTextFilter) : Action Unit := do
  match ← prepareSearch .fullText columns f FullTextFilter.findings with
  | none => return
  | some f =>
    let q ← get
    if !q.dialect.fullText then throw (.noFullText q.dialect.name)
    let resolved ← resolveTexts columns
    let config := f.config.getD q.settings.searchConfig
    let c ← check (q.dialect.fullTextSearch resolved config f.form ("_FullText_" ++ toString q.fullTextSearches) f.term)
    set { q with fullTextSearches := q.fullTextSearches + 1 }
    push c

/-- The name of the parameter for the number of rows to return. -/
def limitParam : String := "_Limit"

/-- The name of the parameter for the number of rows before them. -/
def offsetParam : String := "_Offset"

/-- Chooses a page in place of any chosen before.  The limit on its length is that of the call, else that of the
settings. -/
def paginate (f : Option PageFilter) (maxLimit : Option Int64) : Action Unit := do
  let q ← get
  match ← check (checkPresent .page q.table limitParam q.settings.allowAbsent f) with
  | none => return
  | some f =>
    check (checkFindings .page q.table limitParam (f.findings (maxLimit <|> q.settings.maxPageSize)))
    modify fun q => { q with paging := some ⟨f.limit, f.offset⟩ }

end Action

/-- A call on a query.  Enumerations and flags are of any type, which may be another one in each call. -/
inductive Call
  | selectAll
  | selectCount
  | selectColumns (items : List SelectItem)
  | bindBoolean (column : String) (f : Option BooleanFilter)
  | bindNumeric (t : NumericType) (column : String) (f : Option (RangeFilter t.Carrier)) (rules : List (Rule t.Carrier))
  | bindDate (t : DateType) (column : String) (f : Option (RangeFilter t.Carrier)) (rules : List (Rule t.Carrier))
  | bindEnum {α : Type} [Enumeration α] (column : String) (f : Option (EnumFilter α)) (rules : List (Rule α))
  | bindFlags {α : Type} [FlagSet α] (column : String) (f : Option (FlagsFilter α)) (rules : List (Rule α))
  | bindId (column : String) (f : Option IdFilter) (rules : List (Rule Uuid))
  | bindText (column : String) (f : Option TextFilter) (rules : TextRules)
  | search (columns : List String) (f : Option SearchFilter)
  | searchFullText (columns : List String) (f : Option FullTextFilter)
  | paginate (f : Option PageFilter) (maxLimit : Option Int64)

namespace Call

/-- The step that a call takes. -/
def action : Call → Action Unit
  | selectAll => Action.select .all
  | selectCount => Action.select .count
  | selectColumns items => Action.selectColumns items
  | bindBoolean column f => Action.bindBoolean column f
  | bindNumeric t column f rules => Action.bindNumeric t column f rules
  | bindDate t column f rules => Action.bindDate t column f rules
  | bindEnum column f rules => Action.bindEnum column f rules
  | bindFlags column f rules => Action.bindFlags column f rules
  | bindId column f rules => Action.bindId column f rules
  | bindText column f rules => Action.bindText column f rules
  | search columns f => Action.search columns f
  | searchFullText columns f => Action.searchFullText columns f
  | paginate f maxLimit => Action.paginate f maxLimit

/-- The answer to a call and the query after it. -/
def perform (c : Call) (q : Query) : Except QueryError Unit × Query := c.action.perform q

end Call

/-- What can be done with a query. -/
inductive Step
  /-- A call, which may fail. -/
  | call (c : Call)
  /-- Going on with a copy, which has all that the query has. -/
  | copy
  /-- Going on with the query for the number of rows. -/
  | count

def Step.perform : Step → Query → Query
  | call c, q => (c.perform q).2
  | copy, q => q
  | count, q => q.countQuery

/-- The query after steps, of which any call may fail. -/
def Query.run (q : Query) (steps : List Step) : Query := steps.foldl (fun q s => s.perform q) q

end SqlFilter
