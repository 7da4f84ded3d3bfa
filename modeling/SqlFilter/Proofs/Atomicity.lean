import SqlFilter.Proofs.Outcome
import SqlFilter.Query.Render

/-!
# Failing calls leave no trace

A call that fails leaves the query exactly as it was (`Call.perform_of_error`).  In particular a column that is free in
the order when a filter is bound is still free once the conditions of the filter are there.  So the calls that fail in
a run can be left out of it (`Query.run_succeeding`), and nothing that is asked later can tell the difference
(`Query.failing_calls_leave_no_trace`).
-/

namespace SqlFilter

/-- A call that fails leaves the query as it was. -/
theorem Call.perform_of_error {c : Call} {q : Query} {e : QueryError} (h : (c.perform q).1 = .error e) :
    (c.perform q).2 = q := by
  rw [Call.perform_eq] at h ⊢
  cases ho : c.outcome q with
  | error e' => rfl
  | ok q' =>
    rw [ho] at h
    cases h

/-- The place in the order of a column that was free is given after any conditions are added. -/
theorem Action.perform_sortBy_emitAll {c : Column} {sql : String} {q : Query} {tests : List Test} {key : SortKey}
    (h : ((checkUnsorted sql).perform q).1 = .ok ()) :
    ((sortBy sql key).perform ((tests.forM (emit c sql)).perform q).2).1 = .ok () := by
  have hfree : q.isSortedBy sql = false := by
    rw [perform_checkUnsorted] at h
    cases hq : q.isSortedBy sql with
    | false => rfl
    | true => rw [hq] at h; cases h
  have hafter : (q.emitAll c sql tests).isSortedBy sql = false := by
    rw [Query.isSortedBy, Query.sorts_emitAll]
    exact hfree
  rw [perform_emitAll, perform_sortBy, hafter]
  rfl

namespace Query

/-- The steps of a run without the calls that fail in it. -/
def succeeding (q : Query) : List Step → List Step
  | [] => []
  | .call c :: r =>
    match c.perform q with
    | (.ok _, q') => .call c :: q'.succeeding r
    | (.error _, q') => q'.succeeding r
  | .copy :: r => .copy :: q.succeeding r
  | .count :: r => .count :: q.countQuery.succeeding r

theorem run_cons (q : Query) (s : Step) (r : List Step) : q.run (s :: r) = (s.perform q).run r := rfl

theorem run_append (q : Query) (r r' : List Step) : q.run (r ++ r') = (q.run r).run r' := List.foldl_append

/-- Leaving out the calls that fail does not change where a run leads. -/
theorem run_succeeding (q : Query) (steps : List Step) : q.run (q.succeeding steps) = q.run steps := by
  induction steps generalizing q with
  | nil => rfl
  | cons s r ih =>
    cases s with
    | copy => exact ih q
    | count => exact ih q.countQuery
    | call c =>
      rw [run_cons, succeeding]
      show _ = (c.perform q).2.run r
      rcases h : c.perform q with ⟨e | _, q'⟩
      · -- the call is left out, and the query that it was performed on is the one it left
        have hq : q' = q := by
          have := Call.perform_of_error (c := c) (q := q) (e := e) (by rw [h])
          rwa [h] at this
        subst hq
        exact ih q'
      · show (c.perform q).2.run (q'.succeeding r) = _
        rw [h]
        exact ih q'

/-- Every call that fails leaves the query as it was; binding never fails once it has added a condition; and a run
without the calls that fail in it leads to the same query, hence to the same statement and to the same query after
anything that is asked later. -/
theorem failing_calls_leave_no_trace (q : Query) :
    (∀ (c : Call) (e : QueryError), (c.perform q).1 = .error e → (c.perform q).2 = q) ∧
    (∀ (c : Column) (sql : String) (tests : List Test) (key : SortKey),
      ((Action.checkUnsorted sql).perform q).1 = .ok () →
      ((tests.forM (Action.emit c sql)).perform q).1 = .ok () ∧
      ((Action.sortBy sql key).perform ((tests.forM (Action.emit c sql)).perform q).2).1 = .ok ()) ∧
    ∀ steps : List Step,
      (q.run (q.succeeding steps)) = q.run steps ∧
      (q.run (q.succeeding steps)).render = (q.run steps).render ∧
      ∀ later : List Step, q.run (q.succeeding steps ++ later) = q.run (steps ++ later) := by
  refine ⟨fun c e h => Call.perform_of_error h, fun c sql tests key h => ⟨?_, ?_⟩, fun steps => ⟨?_, ?_, ?_⟩⟩
  · rw [Action.perform_emitAll]
  · exact Action.perform_sortBy_emitAll h
  · exact run_succeeding q steps
  · rw [run_succeeding]
  · intro later
    rw [run_append, run_append, run_succeeding]

/-- A second filter that sorts by the age is refused as a whole, although its other fields could be bound. -/
theorem failing_calls_leave_no_trace_ages :
    let q : Query := { table := "users", dialect := .postgres, settings := {} }
    let first : Call := .bindNumeric .int32 "age" (some { gte := some (18 : Int32), sort := some (.desc 0) }) []
    let second : Call := .bindNumeric .int32 "age" (some { lt := some (65 : Int32), sort := some (.asc 1) }) []
    let sorted := q.run [.call first]
    (second.perform sorted).1 = .error (.duplicateSort "users.age") ∧ (second.perform sorted).2 = sorted ∧
      ((Action.checkUnsorted "users.name").perform sorted).1 = .ok () ∧
      ((Action.sortBy "users.name" (.asc 1)).perform
        ((([.null true] : List Test).forM (Action.emit ⟨"users", "name"⟩ "users.name")).perform sorted).2).1 = .ok () :=
  ⟨rfl, (failing_calls_leave_no_trace _).1 _ (.duplicateSort "users.age") rfl, rfl,
    ((failing_calls_leave_no_trace _).2.1 ⟨"users", "name"⟩ "users.name" [.null true] (.asc 1) rfl).2⟩

end Query

end SqlFilter
