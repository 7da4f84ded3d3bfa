import SqlFilter.Proofs.History

/-!
# Calls add at the end

What was asked of a query stays as it is whatever is asked later (`Query.Keeps`): calls add conditions, parameters and
places in the order behind those that are there, and replace none of them.  For conditions and places this is how they
are added.  For parameters it is not, as a value that is set under a name of the bag replaces the one that it has: the
bag grows at its end because no name is given out twice (`Named.entries_append`).  A call keeps all of a query because a
run of calls does (`Reachable.keeps_run`).
-/

namespace SqlFilter

namespace Query

/-- All that was asked of the first query was asked of the second, in the same places and before all else. -/
structure Keeps (q q' : Query) : Prop where
  table : q'.table = q.table
  dialect : q'.dialect = q.dialect
  settings : q'.settings = q.settings
  conditions : q.conditions <+: q'.conditions
  entries : q.params.entries <+: q'.params.entries
  sorts : q.sorts <+: q'.sorts
  selection : ∀ s, q.selection = some s → q'.selection = some s

variable {q q' : Query}

/-- Selections that are added to one that is there come after it. -/
private theorem selection_of_toList {s s' : Option Selection} {added : List Selection}
    (h : s'.toList = s.toList ++ added) {x : Selection} (hx : s = some x) : s' = some x := by
  subst hx
  cases s' with
  | none => cases h
  | some y =>
    rw [Option.toList_some, Option.toList_some, List.singleton_append] at h
    rw [(List.cons.inj h).1]

/-- A query with more conditions, places and selections keeps what it had, if its names were given out once. -/
theorem Extends.keeps {cs : List Condition} {es : List SortEntry} {ss : List Selection} {ps : List Paging}
    (h : q.Extends q' cs es ss ps) (hq : q.Named) (hq' : q'.Named) : q.Keeps q' where
  table := h.table
  dialect := h.dialect
  settings := h.settings
  conditions := ⟨cs, h.conditions.symm⟩
  entries := ⟨cs.filterMap Condition.param, (hq.entries_append hq' h.conditions).symm⟩
  sorts := ⟨es, h.sorts.symm⟩
  selection _ := selection_of_toList h.selection

theorem Reachable.keeps_run (h : q.Reachable) (calls : List Call) : q.Keeps (q.run (calls.map .call)) := by
  obtain ⟨added, -, hext⟩ := q.extends_run calls
  exact hext.keeps h.named (h.run _).named

theorem Reachable.keeps_perform (h : q.Reachable) (c : Call) : q.Keeps (c.perform q).2 := h.keeps_run [c]

/-- A value that the bag has under a name is found under it later. -/
theorem Keeps.get? (h : q.Keeps q') {name : String} {v : Value} (hv : q.params.get? name = some v) :
    q'.params.get? name = some v := by
  obtain ⟨added, hadded⟩ := h.entries
  rw [Params.get?] at hv ⊢
  rw [← hadded, List.lookup_append, hv]
  rfl

/-- A call on a reachable query, whether it succeeds or fails, leaves the conditions, the entries of the bag and the
places in the order that are there as they are and where they are, in front of all that it adds; so it does with a
selection, once one is made, and with table, dialect and settings.  The same is true of any number of calls, and every
name of the bag keeps its value through them. -/
theorem later_calls_alter_nothing (h : q.Reachable) :
    (∀ c : Call, q.Keeps (c.perform q).2) ∧
    ∀ calls : List Call, q.Keeps (q.run (calls.map .call)) ∧
      ∀ name v, q.params.get? name = some v → (q.run (calls.map .call)).params.get? name = some v :=
  ⟨h.keeps_perform, fun calls => ⟨h.keeps_run calls, fun _ _ => (h.keeps_run calls).get?⟩⟩

/-- On a table named like a search, two columns whose names are alike once they are sanitized and a second search get
names of their own; a second selection and a second place for the column are refused. -/
theorem later_calls_alter_nothing_search :
    let q : Query := { table := "_Search", dialect := .colon, settings := {} }
    let q' := q.run [.call .selectAll, .call (.search ["a"] (some { term := "x" })),
      .call (.bindText "a_b" (some { eq := some "y", sort := some {} }) {})]
    let calls : List Call := [.bindText "a->'b'" (some { eq := some "z" }) {}, .selectCount,
      .bindText "a_b" (some { neq := some "w", sort := some {} }) {}, .search ["a"] (some { term := "v" })]
    q'.Reachable ∧ (q'.succeeded calls).length = 2 ∧ q'.Keeps (q'.run (calls.map .call)) ∧
      (q'.run (calls.map .call)).params.get? "_Search_0" = some (.text "%x%") ∧
      (q'.run (calls.map .call)).params.names =
        ["_Search_0", "_Search_a_b_eq_0", "_Search_a_b_eq_1", "_Search_1"] := by
  intro q q' calls
  have hcolon : Dialect.colon ∈ Dialect.known := by simp [Dialect.known]
  have hnew : Query.withDialect "_Search" .colon = .ok q := rfl
  have hq : q'.Reachable := (Reachable.created (.withDialect hcolon hnew)).run _
  obtain ⟨hkeeps, hget⟩ := (later_calls_alter_nothing hq).2 calls
  exact ⟨hq, by decide +kernel, hkeeps, hget _ _ (by decide +kernel), by decide +kernel⟩

end Query

end SqlFilter
