import SqlFilter.Proofs.Binding

/-!
# Plans of bindings

A call that binds a filter to a column first makes a plan, for which it reads the table, the dialect and whether filters
may be absent, and then carries it out if the column is not sorted by already (`Call.outcome_of_plan`).  So queries on
one table, in one dialect and with the same settings make the same plans, whatever else was asked of them.
-/

namespace SqlFilter

/-- What a filter adds to a query: tests on its column, which `sql` resolves, and a place in the order. -/
structure Plan where
  sql : String
  tests : List Test
  sort : Option SortKey

/-- The plan of a binding, if there is a filter; otherwise the error of the first check that fails. -/
def Binding.plan (b : Binding) (table : String) (d : Dialect) (allowAbsent : Bool) :
    Except QueryError (Option Plan) := do
  match ← checkPresent b.kind table b.column allowAbsent b.request with
  | none => return none
  | some (findings, demand) =>
    checkFilter b.kind table [b.column] findings
    let demand ← demand
    let sql ← d.resolve ⟨table, b.column⟩ demand.type
    let tests ← demand.tests
    return some ⟨sql, tests, demand.sort⟩

namespace Query

/-- The query after a plan for a column is carried out. -/
def following (q : Query) (column : String) (p : Plan) : Query :=
  (q.emitAll ⟨q.table, column⟩ p.sql p.tests).sortedBy p.sql p.sort

/-- The outcome of carrying out a plan, if there is one. -/
def follow (q : Query) (column : String) : Option Plan → Except QueryError Query
  | none => .ok q
  | some p => if p.sort.isSome && q.isSortedBy p.sql then .error (.duplicateSort p.sql) else .ok (q.following column p)

/-- A plan adds conditions, names and a place in the order, and nothing else but what these put into the bag. -/
theorem following_eq (q : Query) (column : String) (p : Plan) :
    ∃ params, q.following column p = { q with
      conditions := q.conditions ++ (q.namer.conditions q.dialect ⟨q.table, column⟩ p.sql p.tests).1
      namer := (q.namer.conditions q.dialect ⟨q.table, column⟩ p.sql p.tests).2
      sorts := q.sorts ++ (p.sort.map (⟨p.sql, ·⟩)).toList
      params } := by
  obtain ⟨params, h⟩ := q.emitAll_eq ⟨q.table, column⟩ p.sql p.tests
  refine ⟨params, ?_⟩
  rw [following, h]
  cases p.sort with
  | none =>
    rw [Option.map_none, Option.toList_none, List.append_nil]
    rfl
  | some key => rfl

end Query

/-- A plan is that of a filter without faults, whose demand can be met: its column is resolved for values of the type
that is demanded. -/
theorem Binding.exists_demand_of_plan {b : Binding} {table : String} {d : Dialect} {allowAbsent : Bool} {p : Plan}
    (h : b.plan table d allowAbsent = .ok (some p)) :
    ∃ demand, b.request = some ([], .ok demand) ∧ Text.isColumnExpression b.column = true ∧
      d.resolve ⟨table, b.column⟩ demand.type = .ok p.sql ∧ demand.sort = p.sort := by
  obtain ⟨r, hr, hrest⟩ := bind_eq_ok.1 h
  have hrequest := checkPresent_eq_ok hr
  cases r with
  | none => cases hrest
  | some request =>
    obtain ⟨findings, demand⟩ := request
    obtain ⟨_, hcheck, hdemand⟩ := bind_eq_ok.1 hrest
    obtain ⟨demand, rfl, hresolve⟩ := bind_eq_ok.1 hdemand
    obtain ⟨sql, hsql, htests⟩ := bind_eq_ok.1 hresolve
    obtain ⟨tests, -, hp⟩ := bind_eq_ok.1 htests
    obtain ⟨-, hcolumn, rfl⟩ := checkFilter_eq_ok.1 hcheck
    cases hp
    exact ⟨demand, hrequest.symm, hcolumn b.column (List.mem_singleton_self _), hsql, rfl⟩

/-- A filter that is there makes a plan for a column expression, which it resolves. -/
theorem Binding.resolve_of_plan {b : Binding} {table : String} {d : Dialect} {allowAbsent : Bool} {p : Plan}
    (h : b.plan table d allowAbsent = .ok (some p)) :
    Text.isColumnExpression b.column = true ∧ ∃ type, d.resolve ⟨table, b.column⟩ type = .ok p.sql := by
  obtain ⟨demand, -, hcolumn, hsql, -⟩ := exists_demand_of_plan h
  exact ⟨hcolumn, demand.type, hsql⟩

/-- The plan that a binding makes for a query. -/
def Query.planOf (q : Query) (b : Binding) : Except QueryError (Option Plan) :=
  b.plan q.table q.dialect q.settings.allowAbsent

/-- A call that binds a filter carries out its plan. -/
theorem Call.outcome_of_plan {c : Call} {b : Binding} (hb : c.binding? = some b) (q : Query) :
    c.outcome q = q.planOf b >>= q.follow b.column := by
  rw [outcome_of_binding hb, Query.bindOutcome, Query.planOf, Binding.plan]
  cases checkPresent b.kind q.table b.column q.settings.allowAbsent b.request with
  | error e => rfl
  | ok r =>
    cases r with
    | none => rfl
    | some request =>
      obtain ⟨findings, demand⟩ := request
      show (checkFilter b.kind q.table [b.column] findings >>= _) =
        (checkFilter b.kind q.table [b.column] findings >>= _) >>= _
      rw [bind_assoc]
      refine bind_congr fun _ => ?_
      rw [bind_assoc]
      refine bind_congr fun demand => ?_
      rw [bind_assoc]
      refine bind_congr fun sql => ?_
      rw [bind_assoc]
      exact bind_congr fun tests => rfl

end SqlFilter
