import SqlFilter.Query.Call

/-!
# Outcomes of calls

A call is a chain of checks with a single change of the query at its end.  `Call.outcome` is this chain as a function:
the error of the first check that fails, or the query after the change.  Performing a call yields its outcome, and
leaves the query as it was if the outcome is an error (`Call.perform_eq`).
-/

namespace SqlFilter

/-! ### The changes of a query -/

namespace Query

/-- Some place in the order is taken by the column. -/
def isSortedBy (q : Query) (column : String) : Bool := q.sorts.any fun e => e.column = column

/-- The query with the condition of a test on a column, which `sql` resolves. -/
def emit (q : Query) (c : Column) (sql : String) (t : Test) : Query :=
  match t.tag? with
  | none => q.push (t.condition q.dialect sql "")
  | some tag => { q with namer := (q.namer.next c tag).2 }.push (t.condition q.dialect sql (q.namer.next c tag).1)

/-- The query with the conditions of tests on a column. -/
def emitAll (q : Query) (c : Column) (sql : String) (tests : List Test) : Query :=
  tests.foldl (fun q t => q.emit c sql t) q

/-- The query with a place in the order. -/
def sortedBy (q : Query) (sql : String) : Option SortKey → Query
  | none => q
  | some key => { q with sorts := q.sorts ++ [⟨sql, key⟩] }

/-- The query after a search over resolved columns. -/
def searched (q : Query) (columns : List String) (f : SearchFilter) : Query :=
  { q with searches := q.searches + 1 }.push
    (q.dialect.freeText columns ("_Search_" ++ toString q.searches) f.term f.caseSensitive)

/-- The query after a full text search that gave a condition. -/
def searchedFullText (q : Query) (c : Condition) : Query :=
  { q with fullTextSearches := q.fullTextSearches + 1 }.push c

@[simp]
theorem sorts_emit (q : Query) (c : Column) (sql : String) (t : Test) : (q.emit c sql t).sorts = q.sorts := by
  unfold emit
  split <;> rfl

theorem sorts_emitAll (q : Query) (c : Column) (sql : String) (tests : List Test) :
    (q.emitAll c sql tests).sorts = q.sorts := by
  induction tests generalizing q with
  | nil => rfl
  | cons t tests ih => exact (ih (q.emit c sql t)).trans (sorts_emit q c sql t)

end Query

/-! ### The outcome of a call -/

/-- The answer and the query that an outcome stands for. -/
def settle (q : Query) : Except QueryError Query → Except QueryError Unit × Query
  | .ok q' => (.ok (), q')
  | .error e => (.error e, q)

namespace Query

/-- The outcome of choosing what is selected. -/
def selectOutcome (q : Query) (s : Selection) : Except QueryError Query :=
  if q.selection.isSome then .error .selectAlreadySet else .ok { q with selection := some s }

/-- The outcome of choosing columns to select. -/
def selectColumnsOutcome (q : Query) (items : List SelectItem) : Except QueryError Query :=
  if q.selection.isSome then .error .selectAlreadySet
  else if items.isEmpty then .error (.invalidName "" .emptySelection)
  else do
    items.forM Action.checkItem
    return { q with selection := some (.columns items) }

variable {φ : Type}

/-- The outcome of binding a filter to a column. -/
def bindOutcome (q : Query) (kind : FilterKind) (expression : String) (filter : Option φ)
    (findings : φ → List Finding) (demand : φ → Except QueryError Action.Demand) : Except QueryError Query := do
  match ← checkPresent kind q.table expression q.settings.allowAbsent filter with
  | none => return q
  | some f =>
    checkFilter kind q.table [expression] (findings f)
    let d ← demand f
    let sql ← q.dialect.resolve ⟨q.table, expression⟩ d.type
    let tests ← d.tests
    if d.sort.isSome && q.isSortedBy sql then .error (.duplicateSort sql)
    else return (q.emitAll ⟨q.table, expression⟩ sql tests).sortedBy sql d.sort

/-- The filter of a search that passes its checks. -/
def prepareSearch (q : Query) (kind : FilterKind) (columns : List String) (filter : Option φ)
    (findings : φ → List Finding) : Except QueryError (Option φ) := do
  let label := ",".intercalate columns
  match ← checkPresent kind q.table label q.settings.allowAbsent filter with
  | none => return none
  | some f =>
    if columns.isEmpty then
      .error (.invalidFilter kind q.table label [⟨"columns", "must name at least one column"⟩])
    else do
      checkFilter kind q.table columns (findings f)
      return some f

/-- The columns of a search as text. -/
def resolveTexts (q : Query) (columns : List String) : Except QueryError (List String) :=
  columns.mapM fun c => q.dialect.resolve ⟨q.table, c⟩ .text

/-- The outcome of a search. -/
def searchOutcome (q : Query) (columns : List String) (f : Option SearchFilter) : Except QueryError Query := do
  match ← q.prepareSearch .search columns f SearchFilter.findings with
  | none => return q
  | some f => return q.searched (← q.resolveTexts columns) f

/-- The outcome of a full text search. -/
def searchFullTextOutcome (q : Query) (columns : List String) (f : Option FullTextFilter) :
    Except QueryError Query := do
  match ← q.prepareSearch .fullText columns f FullTextFilter.findings with
  | none => return q
  | some f =>
    if !q.dialect.fullText then .error (.noFullText q.dialect.name)
    else do
      let resolved ← q.resolveTexts columns
      let c ← q.dialect.fullTextSearch resolved (f.config.getD q.settings.searchConfig) f.form
        ("_FullText_" ++ toString q.fullTextSearches) f.term
      return q.searchedFullText c

/-- The outcome of choosing a page. -/
def paginateOutcome (q : Query) (f : Option PageFilter) (maxLimit : Option Int64) : Except QueryError Query := do
  match ← checkPresent .page q.table Action.limitParam q.settings.allowAbsent f with
  | none => return q
  | some f =>
    checkFindings .page q.table Action.limitParam (f.findings (maxLimit <|> q.settings.maxPageSize))
    return { q with paging := some ⟨f.limit, f.offset⟩ }

end Query

/-- The outcome of a call. -/
def Call.outcome (q : Query) : Call → Except QueryError Query
  | selectAll => q.selectOutcome .all
  | selectCount => q.selectOutcome .count
  | selectColumns items => q.selectColumnsOutcome items
  | bindBoolean column f =>
    q.bindOutcome .boolean column f BooleanFilter.findings fun f => .ok ⟨.bool, .ok f.tests, f.sort⟩
  | bindNumeric t column f rules =>
    q.bindOutcome .numeric column f (RangeFilter.findings · rules) fun f =>
      match t.storage? with
      | none => .error (.unsupportedType t.name column)
      | some s => .ok ⟨s.type, f.tests s column, f.sort⟩
  | bindDate t column f rules =>
    q.bindOutcome .date column f (RangeFilter.findings · rules) fun f =>
      .ok ⟨t.storage.type, f.tests t.storage column, f.sort⟩
  | bindEnum column f rules =>
    q.bindOutcome .enum column f (fun f => f.toChoiceFilter.findings rules) fun f =>
      .ok ⟨f.mode.type, f.tests column, f.sort⟩
  | bindFlags column f rules =>
    q.bindOutcome .flags column f (FlagsFilter.findings · rules) fun f => .ok ⟨.int64, .ok f.tests, f.sort⟩
  | bindId column f rules =>
    q.bindOutcome .id column f (ChoiceFilter.findings · rules) fun f => .ok ⟨.uuid, .ok (IdFilter.tests f), f.sort⟩
  | bindText column f rules =>
    q.bindOutcome .text column f (TextFilter.findings · rules) fun f => .ok ⟨.text, .ok f.tests, f.sort⟩
  | search columns f => q.searchOutcome columns f
  | searchFullText columns f => q.searchFullTextOutcome columns f
  | paginate f maxLimit => q.paginateOutcome f maxLimit

/-! ### Performing a call yields its outcome -/

namespace Action

variable {α : Type}

private theorem perform_bind_of_unchanged {a : Action α} {r : Except QueryError α} {f : α → Action Unit}
    {g : α → Except QueryError Query} {q : Query} (ha : a.perform q = (r, q))
    (h : ∀ x, r = .ok x → (f x).perform q = settle q (g x)) : (a >>= f).perform q = settle q (r >>= g) := by
  rw [perform_bind, ha]
  cases r with
  | error e => rfl
  | ok x => exact h x rfl

private theorem perform_check_bind {r : Except QueryError α} {f : α → Action Unit} {g : α → Except QueryError Query}
    {q : Query} (h : ∀ x, r = .ok x → (f x).perform q = settle q (g x)) :
    (check r >>= f).perform q = settle q (r >>= g) :=
  perform_bind_of_unchanged (perform_check r q) h

private theorem perform_get_bind (f : Query → Action α) (q : Query) : (get >>= f).perform q = (f q).perform q := by
  rw [perform_bind, perform_get]

private theorem perform_select (s : Selection) (q : Query) : (select s).perform q = settle q (q.selectOutcome s) := by
  unfold select Query.selectOutcome
  rw [perform_get_bind]
  split <;> rfl

private theorem perform_selectColumns (items : List SelectItem) (q : Query) :
    (selectColumns items).perform q = settle q (q.selectColumnsOutcome items) := by
  unfold selectColumns Query.selectColumnsOutcome
  rw [perform_get_bind]
  by_cases hs : q.selection.isSome
  · simp only [hs, ↓reduceIte]
    rfl
  · by_cases hi : items.isEmpty
    · simp only [hs, hi, ↓reduceIte]
      rfl
    · simp only [hs, hi]
      refine perform_check_bind fun _ _ => ?_
      -- checking the items does not change the query, so there is still no selection
      rw [perform_select, Query.selectOutcome, if_neg hs]
      rfl

theorem perform_checkUnsorted (column : String) (q : Query) :
    (checkUnsorted column).perform q =
      if q.isSortedBy column then (.error (.duplicateSort column), q) else (.ok (), q) := by
  unfold checkUnsorted
  rw [perform_get_bind]
  unfold Query.isSortedBy
  split <;> rfl

theorem perform_sortBy (column : String) (key : SortKey) (q : Query) :
    (sortBy column key).perform q =
      if q.isSortedBy column then (.error (.duplicateSort column), q) else (.ok (), q.sortedBy column (some key)) := by
  unfold sortBy
  rw [perform_bind, perform_checkUnsorted]
  by_cases h : q.isSortedBy column
  · simp only [h, ↓reduceIte]
  · simp only [h]
    rfl

theorem perform_emit (c : Column) (sql : String) (t : Test) (q : Query) :
    (emit c sql t).perform q = (.ok (), q.emit c sql t) := by
  unfold emit Query.emit
  rw [perform_get_bind]
  cases t.tag? <;> rfl

theorem perform_emitAll (c : Column) (sql : String) (tests : List Test) (q : Query) :
    (tests.forM (emit c sql)).perform q = (.ok (), q.emitAll c sql tests) := by
  induction tests generalizing q with
  | nil => rfl
  | cons t tests ih =>
    show (emit c sql t >>= fun _ => tests.forM (emit c sql)).perform q = _
    rw [perform_bind, perform_emit]
    exact ih (q.emit c sql t)

/-- A column that is free before conditions are emitted is free afterwards, so that the place in the order is given. -/
theorem perform_apply (c : Column) (sql : String) (tests : List Test) (sort : Option SortKey) (q : Query) :
    (apply c sql tests sort).perform q =
      if sort.isSome && q.isSortedBy sql then (.error (.duplicateSort sql), q)
      else (.ok (), (q.emitAll c sql tests).sortedBy sql sort) := by
  unfold apply
  cases sort with
  | none =>
    simp only [Option.isSome_none, Bool.false_eq_true, Bool.false_and, ↓reduceIte]
    rw [perform_bind, perform_emitAll]
    rfl
  | some key =>
    simp only [Option.isSome_some, Bool.true_and, ↓reduceIte]
    rw [perform_bind, perform_checkUnsorted]
    by_cases h : q.isSortedBy sql
    · simp only [h, ↓reduceIte]
    · -- this is the check that `sortBy` makes once the conditions are there
      have hafter : (q.emitAll c sql tests).isSortedBy sql = false := by
        rw [Query.isSortedBy, Query.sorts_emitAll]
        simpa [Query.isSortedBy] using h
      simp only [h, Bool.false_eq_true, ↓reduceIte]
      rw [perform_bind, perform_emitAll]
      simp only [perform_sortBy, hafter, Bool.false_eq_true, ↓reduceIte]

variable {φ : Type}

private theorem perform_bindFilter (q : Query) (kind : FilterKind) (expression : String) (filter : Option φ)
    (findings : φ → List Finding) (demand : φ → Except QueryError Demand) :
    (bind kind expression filter findings demand).perform q =
      settle q (q.bindOutcome kind expression filter findings demand) := by
  unfold bind Query.bindOutcome
  rw [perform_get_bind]
  refine perform_check_bind fun f _ => ?_
  cases f with
  | none => rfl
  | some f =>
    refine perform_check_bind fun _ _ => ?_
    refine perform_check_bind fun d _ => ?_
    refine perform_check_bind fun sql _ => ?_
    refine perform_check_bind fun tests _ => ?_
    rw [perform_apply]
    split <;> rfl

private theorem perform_prepareSearch (q : Query) (kind : FilterKind) (columns : List String) (filter : Option φ)
    (findings : φ → List Finding) :
    (prepareSearch kind columns filter findings).perform q = (q.prepareSearch kind columns filter findings, q) := by
  unfold prepareSearch Query.prepareSearch
  rw [perform_get_bind]
  dsimp only
  rw [perform_bind, perform_check]
  cases checkPresent kind q.table (",".intercalate columns) q.settings.allowAbsent filter with
  | error e => rfl
  | ok f =>
    cases f with
    | none => rfl
    | some f =>
      cases columns with
      | nil => rfl
      | cons column columns =>
        show (check (checkFilter kind q.table (column :: columns) (findings f)) >>= fun _ => pure (some f)).perform q =
          (checkFilter kind q.table (column :: columns) (findings f) >>= fun _ => .ok (some f), q)
        rw [perform_bind, perform_check]
        cases checkFilter kind q.table (column :: columns) (findings f) <;> rfl

private theorem perform_resolveTexts (columns : List String) (q : Query) :
    (resolveTexts columns).perform q = (q.resolveTexts columns, q) := rfl

private theorem perform_search (columns : List String) (f : Option SearchFilter) (q : Query) :
    (search columns f).perform q = settle q (q.searchOutcome columns f) := by
  unfold search Query.searchOutcome
  refine perform_bind_of_unchanged (perform_prepareSearch q .search columns f _) fun f _ => ?_
  cases f with
  | none => rfl
  | some f => exact perform_bind_of_unchanged (perform_resolveTexts columns q) fun resolved _ => rfl

private theorem perform_searchFullText (columns : List String) (f : Option FullTextFilter) (q : Query) :
    (searchFullText columns f).perform q = settle q (q.searchFullTextOutcome columns f) := by
  unfold searchFullText Query.searchFullTextOutcome
  refine perform_bind_of_unchanged (perform_prepareSearch q .fullText columns f _) fun f _ => ?_
  cases f with
  | none => rfl
  | some f =>
    dsimp only
    rw [perform_get_bind]
    cases q.dialect.fullText with
    | false => rfl
    | true =>
      refine perform_bind_of_unchanged (perform_resolveTexts columns q) fun resolved _ => ?_
      exact perform_check_bind fun c _ => rfl

private theorem perform_paginate (f : Option PageFilter) (maxLimit : Option Int64) (q : Query) :
    (paginate f maxLimit).perform q = settle q (q.paginateOutcome f maxLimit) := by
  unfold paginate Query.paginateOutcome
  rw [perform_get_bind]
  refine perform_check_bind fun f _ => ?_
  cases f with
  | none => rfl
  | some f => exact perform_check_bind fun _ _ => rfl

end Action

/-- Performing a call yields its outcome. -/
theorem Call.perform_eq (c : Call) (q : Query) : c.perform q = settle q (c.outcome q) := by
  cases c with
  | selectAll => exact Action.perform_select .all q
  | selectCount => exact Action.perform_select .count q
  | selectColumns items => exact Action.perform_selectColumns items q
  | search columns f => exact Action.perform_search columns f q
  | searchFullText columns f => exact Action.perform_searchFullText columns f q
  | paginate f maxLimit => exact Action.perform_paginate f maxLimit q
  | bindBoolean | bindNumeric | bindDate | bindEnum | bindFlags | bindId | bindText =>
    exact Action.perform_bindFilter q ..

/-- A call succeeds where its outcome is a query, which it leads to. -/
theorem Call.perform_eq_ok {c : Call} {q q' : Query} : c.perform q = (.ok (), q') ↔ c.outcome q = .ok q' := by
  rw [perform_eq]
  cases c.outcome q with
  | error e => exact iff_of_false (fun h => nomatch h) (fun h => nomatch h)
  | ok r =>
    constructor
    · rintro ⟨⟩
      rfl
    · rintro ⟨⟩
      rfl

end SqlFilter
