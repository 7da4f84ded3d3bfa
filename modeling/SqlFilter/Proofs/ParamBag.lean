import SqlFilter.Proofs.Matching
import SqlFilter.Proofs.ParamNames

/-!
# The bag of a query

Since names never collide, the bag of a reachable query holds the parameters of its conditions as they were emitted and
nothing else: each condition mentions its parameter and finds its value in the bag, and what a step adds to the
conditions it adds to the bag (`Query.param_names_never_collide`).
-/

namespace SqlFilter

/-! ### Conditions mention their parameters -/

theorem Dialect.infix_placeholder_like (d : Dialect) (column name : String) (cs : Bool) :
    (d.placeholder name).toList <:+: (d.like column name cs).toList := by
  unfold Dialect.like
  split
  · rw [String.toList_append]
    exact List.infix_append_right
  · rw [String.toList_append, String.toList_append]
    exact List.infix_append _ _ _

theorem Test.infix_placeholder {d : Dialect} {sql name name' : String} {t : Test} {v : Value}
    (h : (t.condition d sql name).param = some (name', v)) :
    name' = name ∧ (d.placeholder name).toList <:+: (t.condition d sql name).sql.toList := by
  have hmember : ∀ op sql v, (d.placeholder name).toList <:+: (d.membership op sql name v).sql.toList := by
    intro op sql v
    simp only [Dialect.membership]
    split
    all_goals
      rw [String.toList_append, String.toList_append]
      exact List.infix_append _ _ _
  cases t with
  | compare op v =>
    cases h
    refine ⟨rfl, ?_⟩
    rw [condition, Dialect.comparison, String.toList_append]
    exact List.infix_append_right
  | compareText op term cs =>
    cases h
    refine ⟨rfl, ?_⟩
    rw [condition, Dialect.textComparison, Dialect.comparison, String.toList_append]
    exact List.infix_append_right
  | member op v =>
    cases h
    exact ⟨rfl, hmember op sql v⟩
  | memberText op terms cs =>
    simp only [condition, Dialect.textMembership] at h ⊢
    split
    all_goals
      rename_i hl
      rw [hl] at h
      cases h
      exact ⟨rfl, hmember op _ _⟩
  | pattern shape term cs =>
    rw [condition, Dialect.pattern_eq] at h ⊢
    cases h
    exact ⟨rfl, d.infix_placeholder_like sql name cs⟩
  | flag test bits =>
    cases h
    refine ⟨rfl, ?_⟩
    cases test with
    | has => exact ⟨("(" ++ sql ++ " & ").toList, ") <> 0".toList, by simp [condition, Dialect.flag]⟩
    | hasNot => exact ⟨("(" ++ sql ++ " & ").toList, ") = 0".toList, by simp [condition, Dialect.flag]⟩
  | null isNull => cases h

private theorem infix_intercalate (sep s : String) (l : List String) :
    s.toList <:+: (sep.intercalate (s :: l)).toList := by
  cases l with
  | nil => exact ⟨[], [], by simp⟩
  | cons t l =>
    rw [String.intercalate_cons_cons, String.append_assoc, String.toList_append]
    exact List.infix_append_left

/-- Each condition of a dialect mentions its parameter. -/
theorem Emitted.infix_placeholder {table name : String} {d : Dialect} {c : Condition} {v : Value}
    (h : Emitted table d c) (hc : c.param = some (name, v)) : (d.placeholder name).toList <:+: c.sql.toList := by
  cases h with
  | test t _ _ =>
    obtain ⟨rfl, h⟩ := Test.infix_placeholder hc
    exact h
  | @freeText columns name term cs hne _ _ =>
    rw [d.freeText_eq] at hc ⊢
    cases hc
    obtain ⟨column, r, rfl⟩ := List.exists_cons_of_ne_nil hne
    rw [String.toList_append, String.toList_append]
    refine List.IsInfix.trans ?_ (List.infix_append _ _ _)
    exact (d.infix_placeholder_like column name cs).trans (infix_intercalate _ _ _)
  | @fullText columns config name term form _ _ _ _ _ h =>
    rw [param_of_fullTextSearch h] at hc
    cases hc
    unfold Dialect.fullTextSearch at h
    split at h
    · cases h
      rw [String.toList_append, String.toList_append]
      exact List.infix_append _ _ _
    · cases h

/-! ### Conditions and bag grow together -/

namespace Query

private theorem exists_conditions_emitAll (q : Query) (c : Column) (sql : String) (tests : List Test) :
    ∃ added, (q.emitAll c sql tests).conditions = q.conditions ++ added := by
  induction tests generalizing q with
  | nil => exact ⟨[], (List.append_nil _).symm⟩
  | cons t tests ih =>
    obtain ⟨added, h⟩ := ih (q.emit c sql t)
    have ht : ∃ x, (q.emit c sql t).conditions = q.conditions ++ [x] := by
      unfold Query.emit
      split <;> exact ⟨_, rfl⟩
    obtain ⟨x, hx⟩ := ht
    rw [hx, List.append_assoc] at h
    exact ⟨[x] ++ added, h⟩

theorem Change.exists_conditions {q q' : Query} (h : q.Change q') : ∃ added, q'.conditions = q.conditions ++ added := by
  cases h with
  | skip | select _ _ | paginate _ => exact ⟨[], (List.append_nil _).symm⟩
  | search f _ _ _ | searchFullText _ _ _ _ _ => exact ⟨[_], rfl⟩
  | @bind expression _ sql sort tests =>
    obtain ⟨added, h⟩ := q.exists_conditions_emitAll ⟨q.table, expression⟩ sql tests
    cases sort <;> exact ⟨added, h⟩

theorem exists_conditions_perform (q : Query) (s : Step) :
    ∃ added, (s.perform q).conditions = q.conditions ++ added := by
  rcases s.change_or_count q with h | h
  · exact h.exists_conditions
  · rw [h]
    exact ⟨[], (List.append_nil _).symm⟩

theorem exists_conditions_run (q : Query) (steps : List Step) :
    ∃ added, (q.run steps).conditions = q.conditions ++ added := by
  induction steps generalizing q with
  | nil => exact ⟨[], (List.append_nil _).symm⟩
  | cons s steps ih =>
    obtain ⟨first, hfirst⟩ := q.exists_conditions_perform s
    obtain ⟨rest, hrest⟩ := ih (s.perform q)
    refine ⟨first ++ rest, ?_⟩
    show ((s.perform q).run steps).conditions = _
    rw [hrest, hfirst, List.append_assoc]

/-- In a reachable query the parameters of conditions have names of their own, other than those of the page; the bag
holds just these parameters, in order; each condition mentions its parameter and the bag has its value; and whatever a
step adds to the conditions it adds to the bag, in which nothing is replaced. -/
theorem param_names_never_collide {q : Query} (h : q.Reachable) :
    (q.bound.map Prod.fst).Nodup ∧
    Action.limitParam ∉ q.bound.map Prod.fst ∧ Action.offsetParam ∉ q.bound.map Prod.fst ∧
    q.params.entries = q.bound ∧ q.params.size = (q.conditions.filter fun c => c.param.isSome).length ∧
    (∀ c ∈ q.conditions, ∀ name v, c.param = some (name, v) →
      (q.dialect.placeholder name).toList <:+: c.sql.toList ∧ q.params.get? name = some v) ∧
    ∀ s : Step, ∃ added, (s.perform q).conditions = q.conditions ++ added ∧
      (s.perform q).params.entries = q.params.entries ++ added.filterMap Condition.param := by
  have hn := h.named
  refine ⟨hn.nodup, fun hl => (hn.ne_page _ hl).1 rfl, fun ho => (hn.ne_page _ ho).2 rfl, hn.entries, ?_, ?_, ?_⟩
  · rw [Params.size, hn.entries, bound, List.length_filterMap_eq_countP, List.countP_eq_length_filter]
  · intro c hc name v hp
    refine ⟨(h.wellFormed.conditions c hc).infix_placeholder hp, ?_⟩
    have hmem : (name, v) ∈ q.bound := List.mem_filterMap.2 ⟨c, hc, hp⟩
    rw [Params.get?, hn.entries]
    exact Named.lookup_of_mem hn.nodup hmem
  · intro s
    obtain ⟨added, hadded⟩ := q.exists_conditions_perform s
    refine ⟨added, hadded, ?_⟩
    rw [(h.step s).named.entries, hn.entries, bound, hadded, List.filterMap_append, bound]

/-- Columns of a table named like a search, whose names are alike once they are sanitized. -/
theorem param_names_never_collide_search :
    let q : Query := { table := "_Search", dialect := .postgres, settings := {} }
    let q' := q.run [.call (.bindText "a->'b'" (some { eq := some "x" }) {}),
      .call (.bindText "a_b" (some { eq := some "y" }) {}), .call (.search ["a", "a_b"] (some { term := "z" })),
      .call (.searchFullText ["a"] (some { term := "z" })), .count]
    q'.Reachable ∧
      q'.bound.map Prod.fst = ["_Search_a_b_eq_0", "_Search_a_b_eq_1", "_Search_0", "_FullText_0"] ∧
      (q'.bound.map Prod.fst).Nodup := by
  intro q q'
  have hnew : Query.new "_Search" .postgres = .ok q := rfl
  have hq : q'.Reachable := (Reachable.created (.new hnew)).run _
  exact ⟨hq, by decide +kernel, (param_names_never_collide hq).1⟩

end Query

end SqlFilter
