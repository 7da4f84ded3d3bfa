import SqlFilter.Proofs.Binding

/-!
# Reachable queries

A query is reachable if steps lead to it from a query as it is created, in one of the known dialects and with any
settings that are accepted.  `Query.Change` says what a successful call can do to a query: one constructor for each
kind of call, with all that the checks of the call ensure.  So what holds at creation and is kept by every change and
by counting holds of all reachable queries (`Query.Reachable.of_changes`).
-/

namespace SqlFilter

namespace Query

/-- A query as it is created. -/
inductive Created : Query → Prop
  | new {table : String} {backend : Backend} {q : Query} : Query.new table backend = .ok q → Created q
  | withSettings {table : String} {settings : Settings} {q : Query} :
    Query.withSettings table settings = .ok q → Created q
  | withDialect {table : String} {dialect : Dialect} {q : Query} :
    dialect ∈ Dialect.known → Query.withDialect table dialect = .ok q → Created q

/-- A query to which steps lead from its creation. -/
inductive Reachable : Query → Prop
  | created {q : Query} : Created q → Reachable q
  | step {q : Query} (s : Step) : Reachable q → Reachable (s.perform q)

/-- Where a run leads from a reachable query is reachable. -/
theorem Reachable.run {q : Query} (h : q.Reachable) (steps : List Step) : (q.run steps).Reachable := by
  induction steps generalizing q with
  | nil => exact h
  | cons s r ih => exact ih (h.step s)

end Query

/-! ### Created queries -/

private theorem isIdentifier_of_check {s : Settings} (h : s.check = .ok ()) :
    Text.isIdentifier s.searchConfig = true := by
  cases hc : Text.isIdentifier s.searchConfig with
  | true => rfl
  | false =>
    unfold Settings.check at h
    rw [hc] at h
    cases hn : s.maxPageSize with
    | none =>
      rw [hn] at h
      cases h
    | some n =>
      simp only [hn] at h
      split at h <;> cases h

namespace Query

/-- The query has a checked table, a known dialect and a checked configuration, and nothing else. -/
def IsBlank (q : Query) : Prop :=
  Text.isIdentifier q.table = true ∧ q.dialect ∈ Dialect.known ∧ Text.isIdentifier q.settings.searchConfig = true ∧
    q = { table := q.table, dialect := q.dialect, settings := q.settings }

private theorem isBlank_of_create {table : String} {d : Dialect} {s : Settings} {q : Query} (hd : d ∈ Dialect.known)
    (hs : Text.isIdentifier s.searchConfig = true) (h : create table d s = .ok q) : q.IsBlank := by
  obtain ⟨_, ht, h⟩ := bind_eq_ok.1 h
  cases h
  exact ⟨checkIdentifier_eq_ok.1 ht, hd, hs, rfl⟩

private theorem isBlank_of_withSettings {table : String} {s : Settings} {q : Query} (h : withSettings table s = .ok q) :
    q.IsBlank := by
  obtain ⟨_, hs, h⟩ := bind_eq_ok.1 h
  refine isBlank_of_create ?_ (isIdentifier_of_check hs) h
  cases s.backend
  exact List.mem_cons_self ..

/-- Nothing is asked of a query as it is created. -/
theorem Created.isBlank {q : Query} (h : q.Created) : q.IsBlank := by
  cases h with
  | new h => exact isBlank_of_withSettings h
  | withSettings h => exact isBlank_of_withSettings h
  | withDialect hd h => exact isBlank_of_create hd rfl h

end Query

/-! ### What a successful call does -/

namespace Query

/-- What a successful call does to a query. -/
inductive Change (q : Query) : Query → Prop
  /-- The filter is absent. -/
  | skip : Change q q
  | select {s : Selection} : q.selection = none → s.WellFormed → Change q { q with selection := some s }
  | bind {expression : String} {type : ValueType} {sql : String} {sort : Option SortKey} (tests : List Test) :
    Text.isColumnExpression expression = true → q.dialect.resolve ⟨q.table, expression⟩ type = .ok sql →
    (sort.isSome && q.isSortedBy sql) = false →
    Change q ((q.emitAll ⟨q.table, expression⟩ sql tests).sortedBy sql sort)
  | search {columns resolved : List String} (f : SearchFilter) : columns ≠ [] →
    (∀ c ∈ columns, Text.isColumnExpression c = true) → q.resolveTexts columns = .ok resolved →
    Change q (q.searched resolved f)
  | searchFullText {columns resolved : List String} {config : String} {form : TermSyntax} {term : String}
      {c : Condition} : columns ≠ [] →
    (∀ c ∈ columns, Text.isColumnExpression c = true) → q.resolveTexts columns = .ok resolved →
    (Text.isIdentifier config = true ∨ config = q.settings.searchConfig) →
    q.dialect.fullTextSearch resolved config form ("_FullText_" ++ toString q.fullTextSearches) term = .ok c →
    Change q (q.searchedFullText c)
  | paginate (p : Paging) : Change q { q with paging := some p }

private theorem isIdentifier_config {f : FullTextFilter} (config : String) (h : f.findings = []) :
    Text.isIdentifier (f.config.getD config) = true ∨ f.config.getD config = config := by
  cases hc : f.config with
  | none => exact .inr rfl
  | some c =>
    left
    have := (List.append_eq_nil_iff.1 h).2
    rw [hc] at this
    simpa using this

end Query

/-- What a successful call does to a query is one of the changes. -/
theorem Call.change_of_outcome {c : Call} {q q' : Query} (h : c.outcome q = .ok q') : q.Change q' := by
  cases hb : c.binding? with
  | some b =>
    rcases cases_of_binding hb h with ⟨-, rfl⟩ | ⟨d, sql, tests, -, hcolumn, hsql, -, hsort, rfl⟩
    · exact .skip
    · exact .bind tests hcolumn hsql hsort
  | none =>
    cases c with
    | bindBoolean | bindNumeric | bindDate | bindEnum | bindFlags | bindId | bindText => cases hb
    | selectAll | selectCount =>
      obtain ⟨hnone, rfl⟩ := Query.cases_of_select h
      exact .select hnone trivial
    | selectColumns items =>
      obtain ⟨hnone, hitems, rfl⟩ := Query.cases_of_selectColumns h
      exact .select hnone hitems
    | search columns f =>
      rcases Query.cases_of_search h with ⟨-, rfl⟩ | ⟨f, resolved, -, ⟨hne, hcolumns⟩, hr, rfl⟩
      · exact .skip
      · exact .search f hne hcolumns hr
    | searchFullText columns f =>
      rcases Query.cases_of_searchFullText h with
        ⟨-, rfl⟩ | ⟨f, resolved, c, -, ⟨hne, hcolumns⟩, hf, hr, hc, rfl⟩
      · exact .skip
      · exact .searchFullText hne hcolumns hr (Query.isIdentifier_config q.settings.searchConfig hf) hc
    | paginate f maxLimit =>
      rcases Query.cases_of_paginate h with ⟨-, rfl⟩ | ⟨f, -, rfl⟩
      · exact .skip
      · exact .paginate _

/-- A step on a query changes it as a call does, or leads to the query for the number of rows. -/
theorem Step.change_or_count (s : Step) (q : Query) : q.Change (s.perform q) ∨ s.perform q = q.countQuery := by
  cases s with
  | copy => exact .inl .skip
  | count => exact .inr rfl
  | call c =>
    left
    show q.Change (c.perform q).2
    rw [Call.perform_eq]
    cases h : c.outcome q with
    | error e => exact .skip
    | ok q' => exact Call.change_of_outcome h

/-- What holds of queries as they are created and is kept by changes and by counting holds of reachable queries. -/
theorem Query.Reachable.of_changes {P : Query → Prop} (created : ∀ q, q.Created → P q)
    (change : ∀ q q', P q → q.Change q' → P q') (count : ∀ q, P q → P q.countQuery) {q : Query} (h : q.Reachable) :
    P q := by
  induction h with
  | created h => exact created _ h
  | step s _ ih =>
    rcases s.change_or_count _ with h | h
    · exact change _ _ ih h
    · rw [h]
      exact count _ ih

end SqlFilter
