import SqlFilter.Proofs.Checks
import SqlFilter.Proofs.Outcome

/-!
# Filters bound to a column

The seven calls that bind a filter differ in what they ask of their column and in nothing else.  `Call.binding?` reads
this off a call, so that one inversion lemma says for all seven what a success does (`Call.cases_of_binding`).  Its
companions do so for the calls that select, search and choose a page.  Emitting tests adds their conditions and changes
nothing else but names and bag (`Query.emitAll_eq`).  A list that passed its check has no nulls, and the values of one
storage always make up an array, so nothing is lost between a filter and its tests.
-/

namespace SqlFilter

/-! ### What a call asks of a column -/

/-- A filter to be bound to a column. -/
structure Binding where
  kind : FilterKind
  column : String
  /-- The faults of the filter and what it asks of the column, if there is a filter. -/
  request : Option (List Finding × Except QueryError Action.Demand)

/-- The binding of a call that binds a filter. -/
def Call.binding? : Call → Option Binding
  | bindBoolean column f => some ⟨.boolean, column, f.map fun f => (f.findings, .ok ⟨.bool, .ok f.tests, f.sort⟩)⟩
  | bindNumeric t column f rules => some ⟨.numeric, column, f.map fun f => (f.findings rules,
      match t.storage? with
      | none => .error (.unsupportedType t.name column)
      | some s => .ok ⟨s.type, f.tests s column, f.sort⟩)⟩
  | bindDate t column f rules => some ⟨.date, column, f.map fun f =>
      (f.findings rules, .ok ⟨t.storage.type, f.tests t.storage column, f.sort⟩)⟩
  | bindEnum column f rules => some ⟨.enum, column, f.map fun f =>
      (f.toChoiceFilter.findings rules, .ok ⟨f.mode.type, f.tests column, f.sort⟩)⟩
  | bindFlags column f rules => some ⟨.flags, column, f.map fun f =>
      (f.findings rules, .ok ⟨.int64, .ok f.tests, f.sort⟩)⟩
  | bindId column f rules => some ⟨.id, column, f.map fun f =>
      (f.findings rules, .ok ⟨.uuid, .ok (IdFilter.tests f), f.sort⟩)⟩
  | bindText column f rules => some ⟨.text, column, f.map fun f =>
      (f.findings rules, .ok ⟨.text, .ok f.tests, f.sort⟩)⟩
  | _ => none

/-- A request without faults is that of a filter that is there. -/
theorem Binding.exists_of_request {φ : Type} {f : Option φ} {findings : φ → List Finding}
    {demand : φ → Except QueryError Action.Demand} {d : Action.Demand}
    (h : (f.map fun f => (findings f, demand f)) = some ([], .ok d)) :
    ∃ g, f = some g ∧ findings g = [] ∧ demand g = .ok d := by
  obtain ⟨g, rfl, hg⟩ := Option.map_eq_some_iff.1 h
  exact ⟨g, rfl, Prod.mk.inj hg⟩

private theorem Query.bindOutcome_map {φ : Type} (q : Query) (kind : FilterKind) (column : String) (f : Option φ)
    (findings : φ → List Finding) (demand : φ → Except QueryError Action.Demand) :
    q.bindOutcome kind column f findings demand =
      q.bindOutcome kind column (f.map fun f => (findings f, demand f)) Prod.fst Prod.snd := by
  unfold bindOutcome
  cases f with
  | none => cases q.settings.allowAbsent <;> rfl
  | some f => rfl

/-- Calls that bind a filter have the outcome of their binding. -/
theorem Call.outcome_of_binding {c : Call} {b : Binding} (h : c.binding? = some b) (q : Query) :
    c.outcome q = q.bindOutcome b.kind b.column b.request Prod.fst Prod.snd := by
  cases c with
  | bindBoolean | bindNumeric | bindDate | bindEnum | bindFlags | bindId | bindText =>
    cases h
    exact q.bindOutcome_map ..
  | selectAll | selectCount | selectColumns | search | searchFullText | paginate => cases h

/-! ### What success means -/

variable {q q' : Query}

/-- A filter that is bound passes its checks and adds the conditions of its tests and its place in the order; an absent
one adds nothing. -/
theorem Call.cases_of_binding {c : Call} {b : Binding} (hb : c.binding? = some b) (h : c.outcome q = .ok q') :
    (b.request = none ∧ q' = q) ∨
    ∃ d sql tests, b.request = some ([], .ok d) ∧ Text.isColumnExpression b.column = true ∧
      q.dialect.resolve ⟨q.table, b.column⟩ d.type = .ok sql ∧ d.tests = .ok tests ∧
      (d.sort.isSome && q.isSortedBy sql) = false ∧
      q' = (q.emitAll ⟨q.table, b.column⟩ sql tests).sortedBy sql d.sort := by
  rw [outcome_of_binding hb] at h
  obtain ⟨r, hr, hrest⟩ := bind_eq_ok.1 h
  rw [checkPresent_eq_ok hr] at hrest
  obtain ⟨kind, column, request⟩ := b
  cases request with
  | none =>
    cases hrest
    exact .inl ⟨rfl, rfl⟩
  | some r =>
    obtain ⟨findings, demand⟩ := r
    obtain ⟨_, hcheck, hdemand⟩ := bind_eq_ok.1 hrest
    obtain ⟨d, rfl, hresolve⟩ := bind_eq_ok.1 hdemand
    obtain ⟨sql, hsql, htests⟩ := bind_eq_ok.1 hresolve
    obtain ⟨tests, ht, hsort⟩ := bind_eq_ok.1 htests
    obtain ⟨-, hcolumn, rfl⟩ := checkFilter_eq_ok.1 hcheck
    split at hsort
    · cases hsort
    · rename_i hfree
      cases hsort
      exact .inr ⟨d, sql, tests, rfl, hcolumn column (List.mem_singleton_self _), hsql, ht, by simpa using hfree, rfl⟩

namespace Query

theorem cases_of_select {s : Selection} (h : q.selectOutcome s = .ok q') :
    q.selection = none ∧ q' = { q with selection := some s } := by
  unfold selectOutcome at h
  split at h
  · cases h
  · rename_i hn
    cases h
    exact ⟨by simpa using hn, rfl⟩

theorem cases_of_selectColumns {items : List SelectItem} (h : q.selectColumnsOutcome items = .ok q') :
    q.selection = none ∧ (Selection.columns items).WellFormed ∧ q' = { q with selection := some (.columns items) } := by
  unfold selectColumnsOutcome at h
  split at h
  · cases h
  · rename_i hn
    split at h
    · cases h
    · rename_i hi
      obtain ⟨_, hitems, h⟩ := bind_eq_ok.1 h
      cases h
      refine ⟨by simpa using hn, ⟨by simpa using hi, ?_⟩, rfl⟩
      exact fun i hi => Action.checkItem_eq_ok.1 (forM_eq_ok.1 hitems i hi)

/-- A filter of a search passes its check over columns that pass theirs, at least one. -/
theorem cases_of_prepareSearch {φ : Type} {kind : FilterKind} {columns : List String} {f g : Option φ}
    {findings : φ → List Finding} (h : q.prepareSearch kind columns f findings = .ok g) :
    g = f ∧ ∀ x, f = some x →
      (columns ≠ [] ∧ ∀ c ∈ columns, Text.isColumnExpression c = true) ∧ findings x = [] := by
  obtain ⟨r, hr, hrest⟩ := bind_eq_ok.1 h
  rw [checkPresent_eq_ok hr] at hrest
  cases f with
  | none =>
    cases hrest
    exact ⟨rfl, fun x hx => nomatch hx⟩
  | some x =>
    cases columns with
    | nil => cases hrest
    | cons column columns =>
      obtain ⟨_, hf, hx⟩ := bind_eq_ok.1 hrest
      cases hx
      obtain ⟨-, hcolumns, hfindings⟩ := checkFilter_eq_ok.1 hf
      refine ⟨rfl, fun y hy => ?_⟩
      cases hy
      exact ⟨⟨List.cons_ne_nil column columns, hcolumns⟩, hfindings⟩

theorem cases_of_search {columns : List String} {f : Option SearchFilter} (h : q.searchOutcome columns f = .ok q') :
    (f = none ∧ q' = q) ∨
    ∃ g resolved, f = some g ∧ (columns ≠ [] ∧ ∀ c ∈ columns, Text.isColumnExpression c = true) ∧
      q.resolveTexts columns = .ok resolved ∧ q' = q.searched resolved g := by
  obtain ⟨r, hr, hrest⟩ := bind_eq_ok.1 h
  obtain ⟨rfl, hsome⟩ := cases_of_prepareSearch hr
  cases r with
  | none =>
    cases hrest
    exact .inl ⟨rfl, rfl⟩
  | some g =>
    obtain ⟨resolved, hresolved, hq⟩ := bind_eq_ok.1 hrest
    cases hq
    exact .inr ⟨g, resolved, rfl, (hsome g rfl).1, hresolved, rfl⟩

/-- The condition that a full text search over resolved columns asks for. -/
def fullTextCondition (q : Query) (resolved : List String) (f : FullTextFilter) : Except QueryError Condition :=
  q.dialect.fullTextSearch resolved (f.config.getD q.settings.searchConfig) f.form
    ("_FullText_" ++ toString q.fullTextSearches) f.term

theorem cases_of_searchFullText {columns : List String} {f : Option FullTextFilter}
    (h : q.searchFullTextOutcome columns f = .ok q') :
    (f = none ∧ q' = q) ∨
    ∃ g resolved c, f = some g ∧ (columns ≠ [] ∧ ∀ c ∈ columns, Text.isColumnExpression c = true) ∧
      g.findings = [] ∧ q.resolveTexts columns = .ok resolved ∧ q.fullTextCondition resolved g = .ok c ∧
      q' = q.searchedFullText c := by
  obtain ⟨r, hr, hrest⟩ := bind_eq_ok.1 h
  obtain ⟨rfl, hsome⟩ := cases_of_prepareSearch hr
  cases r with
  | none =>
    cases hrest
    exact .inl ⟨rfl, rfl⟩
  | some g =>
    obtain ⟨hcolumns, hf⟩ := hsome g rfl
    dsimp only at hrest
    split at hrest
    · cases hrest
    · obtain ⟨resolved, hresolved, hcondition⟩ := bind_eq_ok.1 hrest
      obtain ⟨c, hc, hq⟩ := bind_eq_ok.1 hcondition
      cases hq
      exact .inr ⟨g, resolved, c, rfl, hcolumns, hf, hresolved, hc, rfl⟩

theorem cases_of_paginate {f : Option PageFilter} {maxLimit : Option Int64}
    (h : q.paginateOutcome f maxLimit = .ok q') :
    (f = none ∧ q' = q) ∨ ∃ g, f = some g ∧ q' = { q with paging := some ⟨g.limit, g.offset⟩ } := by
  obtain ⟨r, hr, hrest⟩ := bind_eq_ok.1 h
  rw [checkPresent_eq_ok hr] at hrest
  cases f with
  | none =>
    cases hrest
    exact .inl ⟨rfl, rfl⟩
  | some g =>
    obtain ⟨_, _, hq⟩ := bind_eq_ok.1 hrest
    cases hq
    exact .inr ⟨g, rfl, rfl⟩

end Query

/-! ### Conditions of tests -/

/-- The conditions of tests on a column, which `sql` resolves, with names given out in turn. -/
def Namer.conditions (d : Dialect) (c : Column) (sql : String) (n : Namer) : List Test → List Condition × Namer
  | [] => ([], n)
  | t :: r =>
    match t.tag? with
    | none =>
      let (cs, n) := n.conditions d c sql r
      (t.condition d sql "" :: cs, n)
    | some tag =>
      let (cs, n') := (n.next c tag).2.conditions d c sql r
      (t.condition d sql (n.next c tag).1 :: cs, n')

/-- Emitting tests adds their conditions, with names given out in turn. -/
theorem Query.emitAll_eq (q : Query) (c : Column) (sql : String) (tests : List Test) :
    ∃ params, q.emitAll c sql tests = { q with
      conditions := q.conditions ++ (q.namer.conditions q.dialect c sql tests).1
      namer := (q.namer.conditions q.dialect c sql tests).2
      params } := by
  induction tests generalizing q with
  | nil => exact ⟨q.params, by rw [Namer.conditions, List.append_nil]; rfl⟩
  | cons t tests ih =>
    obtain ⟨params, h⟩ := ih (q.emit c sql t)
    refine ⟨params, ?_⟩
    show (q.emit c sql t).emitAll c sql tests = _
    rw [h, Namer.conditions]
    unfold emit
    cases t.tag? with
    | none =>
      dsimp only [push]
      rw [List.append_assoc]
      rfl
    | some tag =>
      dsimp only [push]
      rw [List.append_assoc]
      rfl

/-- A filter that is bound adds the conditions of its tests. -/
theorem Query.conditions_bound (q : Query) (c : Column) (sql : String) (tests : List Test) (sort : Option SortKey) :
    ((q.emitAll c sql tests).sortedBy sql sort).conditions =
      q.conditions ++ (q.namer.conditions q.dialect c sql tests).1 := by
  obtain ⟨params, h⟩ := q.emitAll_eq c sql tests
  rw [h]
  cases sort <;> rfl

/-! ### Lists of bound values -/

theorem Value.mapM_scalarOf?_scalar {α : Type} (s : Storage α) (xs : List α) :
    (xs.map s.scalar).mapM (Value.scalarOf? s.type) = some (xs.map s.store) := by
  induction xs with
  | nil => rfl
  | cons x xs ih =>
    have hx : Value.scalarOf? s.type (s.scalar x) = some (s.store x) := by simp [Storage.scalar, scalarOf?]
    rw [List.map_cons, List.mapM_cons, hx, ih]
    rfl

/-- Values of one storage, at least one, are collected into an array of all of them, in order. -/
theorem Value.array?_map_scalar {α : Type} (s : Storage α) {xs : List α} (h : xs ≠ []) :
    Value.array? (xs.map s.scalar) = some (s.array xs) := by
  cases xs with
  | nil => exact absurd rfl h
  | cons x xs =>
    show ((xs.map s.scalar).mapM (Value.scalarOf? s.type)).map _ = _
    rw [mapM_scalarOf?_scalar]
    rfl

/-- The test of a list against the array of its values. -/
def arrayTests {α : Type} (s : Storage α) (op : Membership) (xs : Option (List (Option α))) : List Test :=
  xs.toList.map fun xs => .member op (s.array (present xs))

section

variable {α : Type} {s : Storage α} {column : String} {tests : List Test}

theorem memberTests_eq_ok {op : Membership} {xs : Option (List (Option α))}
    (h : memberTests s column op xs = .ok tests) : tests = arrayTests s op xs := by
  cases xs with
  | none =>
    cases h
    rfl
  | some xs =>
    rw [memberTests, arrayValue] at h
    by_cases hne : present xs = []
    · rw [hne] at h
      cases h
    · rw [Value.array?_map_scalar s hne] at h
      cases h
      rfl

theorem RangeFilter.tests_eq_ok {f : RangeFilter α} (h : f.tests s column = .ok tests) :
    tests = compareTests s .eq f.eq ++ compareTests s .neq f.neq ++ compareTests s .gt f.gt ++
      compareTests s .gte f.gte ++ compareTests s .lt f.lt ++ compareTests s .lte f.lte ++
      arrayTests s .isIn f.isIn ++ arrayTests s .notIn f.notIn ++ nullTests f.isNull := by
  obtain ⟨isIn, hin, hrest⟩ := bind_eq_ok.1 h
  obtain ⟨notIn, hnot, hall⟩ := bind_eq_ok.1 hrest
  cases hall
  rw [memberTests_eq_ok hin, memberTests_eq_ok hnot]

/-- What is bound for members is of the type of their mode. -/
theorem EnumMode.type_storage [Enumeration α] (m : EnumMode) : (m.storage : Storage α).type = m.type := by
  cases m <;> rfl

theorem EnumFilter.tests_eq_ok [Enumeration α] {f : EnumFilter α} (h : f.tests column = .ok tests) :
    tests = compareTests f.mode.storage .eq f.eq ++ compareTests f.mode.storage .neq f.neq ++
      arrayTests f.mode.storage .isIn f.isIn ++ arrayTests f.mode.storage .notIn f.notIn ++
      nullTests f.isNull := by
  obtain ⟨isIn, hin, hrest⟩ := bind_eq_ok.1 h
  obtain ⟨notIn, hnot, hall⟩ := bind_eq_ok.1 hrest
  cases hall
  rw [memberTests_eq_ok hin, memberTests_eq_ok hnot]

end

theorem map_some_present {α : Type} {xs : List (Option α)} (h : xs.any Option.isNone = false) :
    (present xs).map some = xs := by
  induction xs with
  | nil => rfl
  | cons x xs ih =>
    rw [List.any_cons, Bool.or_eq_false_iff] at h
    cases x with
    | none => cases h.1
    | some x => exact congrArg (some x :: ·) (ih h.2)

/-- A list without faults has no nulls, so all that it has is present. -/
theorem map_some_present_of_list_eq_nil {α : Type} {same : α → α → Bool} {field : String} {xs : List (Option α)}
    (h : Finding.list same field (some xs) = []) : (present xs).map some = xs := by
  refine map_some_present ?_
  simp only [Finding.list] at h
  split at h
  · cases h
  · split at h
    · cases h
    · have hnull := (List.append_eq_nil_iff.1 h).1
      cases hany : xs.any Option.isNone with
      | false => rfl
      | true =>
        rw [hany] at hnull
        cases hnull

/-- A list without faults has a value. -/
theorem present_ne_nil_of_list_eq_nil {α : Type} {same : α → α → Bool} {field : String} {xs : List (Option α)}
    (h : Finding.list same field (some xs) = []) : present xs ≠ [] := by
  intro hnil
  have hall := map_some_present_of_list_eq_nil h
  rw [hnil] at hall
  cases hall
  cases h

section

variable {α : Type} {rules : List (Rule α)}

theorem RangeFilter.lists_of_findings_eq_nil [PartialCompare α] {f : RangeFilter α} (h : f.findings rules = []) :
    Finding.list PartialCompare.same "in" f.isIn = [] ∧ Finding.list PartialCompare.same "not_in" f.notIn = [] := by
  simp only [findings, List.append_eq_nil_iff] at h
  obtain ⟨⟨⟨⟨⟨⟨⟨⟨-, hin⟩, hnot⟩, -⟩, -⟩, -⟩, -⟩, -⟩, -⟩ := h
  exact ⟨hin, hnot⟩

theorem ChoiceFilter.lists_of_findings_eq_nil [BEq α] {f : ChoiceFilter α} (h : f.findings rules = []) :
    Finding.list (· == ·) "in" f.isIn = [] ∧ Finding.list (· == ·) "not_in" f.notIn = [] := by
  simp only [findings, List.append_eq_nil_iff] at h
  obtain ⟨⟨⟨⟨-, hin⟩, hnot⟩, -⟩, -⟩ := h
  exact ⟨hin, hnot⟩

end

end SqlFilter
