import SqlFilter.Proofs.History
import SqlFilter.Proofs.Plan
import SqlFilter.Proofs.Precedence

/-!
# The query for the number of rows

The query for the number of rows of another goes along with it: what is bound to both, or searched in both, gives the
same conditions under the same names (`Call.outcome_counting`).  It differs from the query for the number of rows that
would be made afterwards in the places in the order that it was given on the way, and a count has no use for these
(`Query.render_counting`).  So it does not matter when in a run the query for the number of rows is made
(`Query.succeeded_counting`).
-/

namespace SqlFilter

namespace Query

/-- The query for the number of rows with places in the order. -/
def counting (q : Query) (sorts : List SortEntry) : Query := { q.countQuery with sorts }

/-- A count is rendered with the conditions and nothing behind them. -/
theorem render_counting (q : Query) (sorts : List SortEntry) :
    (q.counting sorts).render = .ok ⟨"SELECT COUNT(*) FROM " ++ q.table ++
      (if q.conditions = [] then "" else " WHERE " ++ " AND ".intercalate (q.conditions.map Condition.sql)),
      q.params⟩ := by
  have hwhere : q.whereClause =
      if q.conditions = [] then "" else " WHERE " ++ " AND ".intercalate (q.conditions.map Condition.sql) := by
    unfold whereClause
    simp only [List.isEmpty_iff]
  -- neither an order nor a page is written
  have hsql : "SELECT " ++ "COUNT(*)" ++ " FROM " ++ q.table ++ q.whereClause ++ "" ++ "" =
      "SELECT COUNT(*) FROM " ++ q.table ++ q.whereClause := by
    rw [String.append_empty, String.append_empty]
    rfl
  rw [← hwhere, ← hsql]
  rfl

/-! ### Bindings -/

variable (q : Query) (sorts : List SortEntry)

private theorem emitAll_counting (c : Column) (sql : String) (tests : List Test) :
    (q.counting sorts).emitAll c sql tests = (q.emitAll c sql tests).counting sorts := by
  induction tests generalizing q with
  | nil => rfl
  | cons t tests ih =>
    have ht : (q.counting sorts).emit c sql t = (q.emit c sql t).counting sorts := by
      unfold emit
      cases t.tag? <;> rfl
    show ((q.counting sorts).emit c sql t).emitAll c sql tests = _
    rw [ht]
    exact ih (q.emit c sql t)

private theorem following_counting (column : String) (p : Plan) :
    (q.counting sorts).following column p =
      (q.following column p).counting (sorts ++ (p.sort.map (⟨p.sql, ·⟩)).toList) := by
  unfold following
  show ((q.counting sorts).emitAll ⟨q.table, column⟩ p.sql p.tests).sortedBy p.sql p.sort = _
  rw [emitAll_counting]
  cases p.sort with
  | none =>
    rw [Option.map_none, Option.toList_none, List.append_nil]
    rfl
  | some key => rfl

variable {q sorts}

/-- A column that a query does not sort by is free for the count, which sorts by fewer columns. -/
private theorem isSortedBy_counting (hs : sorts ⊆ q.sorts) {sql : String} (h : q.isSortedBy sql = false) :
    (q.counting sorts).isSortedBy sql = false := by
  rw [isSortedBy, List.any_eq_false] at h ⊢
  exact fun e he => h e (hs he)

/-- A plan that can be carried out can be carried out for the count as well. -/
private theorem follow_counting (hs : sorts ⊆ q.sorts) {column : String} {p : Option Plan} {q' : Query}
    (h : q.follow column p = .ok q') :
    ∃ sorts', (q.counting sorts).follow column p = .ok (q'.counting sorts') ∧ sorts' ⊆ q'.sorts := by
  cases p with
  | none =>
    cases h
    exact ⟨sorts, rfl, hs⟩
  | some p =>
    rw [follow] at h
    split at h
    · cases h
    · rename_i hfree
      cases h
      have hcount : ¬ (p.sort.isSome && (q.counting sorts).isSortedBy p.sql) = true := by
        rw [Bool.and_eq_true, not_and, Bool.not_eq_true] at hfree ⊢
        exact fun hsome => isSortedBy_counting hs (hfree hsome)
      refine ⟨sorts ++ (p.sort.map (⟨p.sql, ·⟩)).toList, ?_, ?_⟩
      · rw [follow, if_neg hcount, following_counting]
      · obtain ⟨params, hq⟩ := q.following_eq column p
        rw [hq]
        exact List.append_subset.2 ⟨List.Subset.trans hs (List.subset_append_left ..), List.subset_append_right ..⟩

/-! ### Searches -/

variable {q' : Query}

/-- A search looks at neither the selection nor the order nor the page, so it gives the count the same condition. -/
private theorem searchOutcome_counting {columns : List String} {f : Option SearchFilter}
    (h : q.searchOutcome columns f = .ok q') :
    (q.counting sorts).searchOutcome columns f = .ok (q'.counting sorts) := by
  obtain ⟨g, hg, hrest⟩ := bind_eq_ok.1 h
  refine bind_eq_ok.2 ⟨g, hg, ?_⟩
  cases g with
  | none =>
    cases hrest
    rfl
  | some g =>
    obtain ⟨resolved, hresolved, hq⟩ := bind_eq_ok.1 hrest
    cases hq
    exact bind_eq_ok.2 ⟨resolved, hresolved, rfl⟩

private theorem searchFullTextOutcome_counting {columns : List String} {f : Option FullTextFilter}
    (h : q.searchFullTextOutcome columns f = .ok q') :
    (q.counting sorts).searchFullTextOutcome columns f = .ok (q'.counting sorts) := by
  obtain ⟨g, hg, hrest⟩ := bind_eq_ok.1 h
  refine bind_eq_ok.2 ⟨g, hg, ?_⟩
  cases g with
  | none =>
    cases hrest
    rfl
  | some g =>
    dsimp only at hrest ⊢
    show (if !q.dialect.fullText then _ else _) = _
    split at hrest
    · cases hrest
    · rename_i hfull
      rw [if_neg hfull]
      obtain ⟨resolved, hresolved, hcondition⟩ := bind_eq_ok.1 hrest
      obtain ⟨x, hx, hq⟩ := bind_eq_ok.1 hcondition
      cases hq
      exact bind_eq_ok.2 ⟨resolved, hresolved, bind_eq_ok.2 ⟨x, hx, rfl⟩⟩

end Query

/-! ### Calls -/

variable {c : Call} {q q' : Query} {sorts : List SortEntry}

/-- A filter that is put to columns of a query can be put to those of its count, with the same conditions. -/
theorem Call.outcome_counting (hc : c.request?.isSome) (hs : sorts ⊆ q.sorts) (h : c.outcome q = .ok q') :
    ∃ sorts', c.outcome (q.counting sorts) = .ok (q'.counting sorts') ∧ sorts' ⊆ q'.sorts := by
  cases hb : c.binding? with
  | some b =>
    rw [outcome_of_plan hb] at h ⊢
    obtain ⟨p, hp, hfollow⟩ := bind_eq_ok.1 h
    obtain ⟨sorts', hcount, hs'⟩ := Query.follow_counting hs hfollow
    exact ⟨sorts', bind_eq_ok.2 ⟨p, hp, hcount⟩, hs'⟩
  | none =>
    cases c with
    | bindBoolean | bindNumeric | bindDate | bindEnum | bindFlags | bindId | bindText => cases hb
    | selectAll | selectCount | selectColumns | paginate => cases hc
    | search columns f =>
      have hsorts : q'.sorts = q.sorts := by
        rcases Query.cases_of_search h with ⟨-, rfl⟩ | ⟨_, _, -, -, -, rfl⟩ <;> rfl
      exact ⟨sorts, Query.searchOutcome_counting h, hsorts ▸ hs⟩
    | searchFullText columns f =>
      have hsorts : q'.sorts = q.sorts := by
        rcases Query.cases_of_searchFullText h with ⟨-, rfl⟩ | ⟨_, _, _, -, -, -, -, -, rfl⟩ <;> rfl
      exact ⟨sorts, Query.searchFullTextOutcome_counting h, hsorts ▸ hs⟩

/-- A count does not change with the selection and the page of its query. -/
theorem Call.counting_of_request?_eq_none (hc : c.request? = none) (h : c.outcome q = .ok q') :
    q'.counting sorts = q.counting sorts ∧ q'.sorts = q.sorts := by
  cases c with
  | bindBoolean | bindNumeric | bindDate | bindEnum | bindFlags | bindId | bindText => cases hc
  | search | searchFullText => cases hc
  | selectAll | selectCount =>
    obtain ⟨-, rfl⟩ := Query.cases_of_select h
    exact ⟨rfl, rfl⟩
  | selectColumns items =>
    obtain ⟨-, -, rfl⟩ := Query.cases_of_selectColumns h
    exact ⟨rfl, rfl⟩
  | paginate f maxLimit =>
    rcases Query.cases_of_paginate h with ⟨-, rfl⟩ | ⟨_, -, rfl⟩ <;> exact ⟨rfl, rfl⟩

namespace Query

/-! ### Runs -/

/-- The calls of a run that put filters to columns and succeed. -/
def filtering (q : Query) (calls : List Call) : List Call := (q.succeeded calls).filter fun c => c.request?.isSome

/-- The filters that are put to columns of a query one after the other can be put to those of its count, and lead to
the count of where they lead. -/
theorem succeeded_counting (hs : sorts ⊆ q.sorts) (calls : List Call) :
    (q.counting sorts).succeeded (q.filtering calls) = q.filtering calls ∧
      ∃ sorts', (q.counting sorts).run ((q.filtering calls).map .call) =
        (q.run (calls.map .call)).counting sorts' := by
  induction calls generalizing q sorts with
  | nil => exact ⟨rfl, sorts, rfl⟩
  | cons c calls ih =>
    have hrun : q.run ((c :: calls).map .call) = (settle q (c.outcome q)).2.run (calls.map .call) := by
      rw [← Call.perform_eq]
      rfl
    rw [hrun, filtering, succeeded, Call.perform_eq]
    cases h : c.outcome q with
    | error e => exact ih hs
    | ok q' =>
      dsimp only [settle]
      cases hc : c.request? with
      | none =>
        obtain ⟨hsame, hsorts⟩ : q'.counting sorts = q.counting sorts ∧ q'.sorts = q.sorts :=
          Call.counting_of_request?_eq_none hc h
        rw [List.filter_cons_of_neg (by simp [hc]), ← hsame]
        exact ih (hsorts ▸ hs)
      | some r =>
        obtain ⟨sorts', hcount, hs'⟩ := Call.outcome_counting (by simp [hc]) hs h
        obtain ⟨hsucceeded, sorts'', hrest⟩ := ih hs'
        rw [List.filter_cons_of_pos (by simp [hc]), succeeded, Call.perform_eq, hcount]
        refine ⟨congrArg (c :: ·) hsucceeded, sorts'', ?_⟩
        show (c.perform (q.counting sorts)).2.run _ = _
        rw [Call.perform_eq, hcount]
        exact hrest

/-- The query for the number of rows is always rendered, as a count of the rows that the conditions select, with all
their parameters and nothing behind them.  A filter that is put to columns of a query and succeeds does so on its count
as well, and both ways of making the two give one statement; choosing a page does not change the count.  So the
statement of the count after any calls is the one that the filters among them, put to a count that was made before,
lead to. -/
theorem count_companion_agrees (q : Query) :
    q.countQuery.render = .ok ⟨"SELECT COUNT(*) FROM " ++ q.table ++
      (if q.conditions = [] then "" else " WHERE " ++ " AND ".intercalate (q.conditions.map Condition.sql)),
      q.params⟩ ∧
    (∀ (c : Call) (q' : Query), c.request?.isSome → c.perform q = (.ok (), q') →
      ∃ p, c.perform q.countQuery = (.ok (), p) ∧ p.render = q'.countQuery.render) ∧
    (∀ (f : Option PageFilter) (maxLimit : Option Int64),
      ((Call.paginate f maxLimit).perform q).2.countQuery = q.countQuery) ∧
    ∀ calls : List Call,
      q.countQuery.succeeded (q.filtering calls) = q.filtering calls ∧
      (q.countQuery.run ((q.filtering calls).map .call)).render = (q.run (calls.map .call)).countQuery.render := by
  have hnil : ([] : List SortEntry) ⊆ q.sorts := List.nil_subset _
  refine ⟨q.render_counting [], fun c q' hc h => ?_, fun f maxLimit => ?_, fun calls => ?_⟩
  · obtain ⟨sorts, hcount, -⟩ := Call.outcome_counting hc hnil (Call.perform_eq_ok.1 h)
    refine ⟨q'.counting sorts, Call.perform_eq_ok.2 hcount, ?_⟩
    rw [render_counting]
    exact (q'.render_counting []).symm
  · rw [Call.perform_eq]
    cases h : (Call.paginate f maxLimit).outcome q with
    | error e => rfl
    | ok q' =>
      have hsame : q'.counting [] = q.counting [] := (Call.counting_of_request?_eq_none rfl h).1
      exact hsame
  · obtain ⟨hsucceeded, sorts, hrun⟩ := succeeded_counting hnil calls
    refine ⟨hsucceeded, ?_⟩
    show ((q.counting []).run _).render = _
    rw [hrun, render_counting]
    exact ((q.run (calls.map .call)).render_counting []).symm

/-- A filter that sorts by the name is put to a page of users, sorted by age, that was searched before. -/
theorem count_companion_agrees_users :
    let q : Query := { table := "users", dialect := .postgres, settings := {} }
    let q' := q.run [.call (.bindNumeric .int32 "age" (some { gte := some (18 : Int32), sort := some (.desc 1) }) []),
      .call .selectAll, .call (.search ["name"] (some { term := "x" })),
      .call (.paginate (some { limit := 10, page := 2 }) none)]
    let c : Call := .bindText "name" (some { neq := some "Bo", sort := some (.asc 0) }) {}
    let st : Statement := ⟨"SELECT COUNT(*) FROM users WHERE users.age >= @users_age_gte_0 AND " ++
      "(users.name ILIKE @_Search_0) AND LOWER(users.name) <> @users_name_neq_0",
      ⟨[("users_age_gte_0", .scalar .int32 (18 : Int32)), ("_Search_0", .text "%x%"),
        ("users_name_neq_0", .text "bo")]⟩⟩
    c.request?.isSome ∧ c.perform q' = (.ok (), (c.perform q').2) ∧
      ∃ p, c.perform q'.countQuery = (.ok (), p) ∧ p.render = (c.perform q').2.countQuery.render ∧
        p.render = .ok st := by
  intro q q' c st
  have hok : (c.perform q').1 = .ok () := by decide +kernel
  have hc : c.perform q' = (.ok (), (c.perform q').2) := Prod.ext hok rfl
  obtain ⟨p, hp, hrender⟩ := (count_companion_agrees q').2.1 c _ rfl hc
  refine ⟨rfl, hc, p, hp, hrender, ?_⟩
  rw [hrender, (count_companion_agrees (c.perform q').2).1]
  decide +kernel

end Query

end SqlFilter
