import SqlFilter.Proofs.Places
import SqlFilter.Proofs.Plan

/-!
# Independent columns

Filters that are bound to columns with different stems do not get in each other's way.  Names are counted by stem, so
the conditions of a filter do not depend on names that were given out for other stems (`Namer.conditions_congr`).  A
text resolves one column only (`Dialect.resolve_inj`), so the place in the order that one filter takes is not the one
that the other asks for.  Hence it does not matter which of the two is bound first, but for the order in which things
are added (`Query.independent_bindings_commute`).
-/

namespace SqlFilter

/-! ### Columns are told by their text -/

/-- What stands in front of the parenthesis of a column that is cast. -/
private def CastStyle.lead : CastStyle → List Char
  | call => "CAST".toList
  | postfixed => []

/-- The character behind a column that is cast. -/
private def CastStyle.stop : CastStyle → Char
  | call => ' '
  | postfixed => ')'

namespace Dialect

variable {d : Dialect}

/-- A column that is resolved is written as it is, or in the parenthesis of a cast. -/
private theorem exists_of_resolve {c : Column} {t : ValueType} {sql : String} (h : d.resolve c t = .ok sql) :
    sql = c.qualified ∨ ∃ rest, sql.toList = d.casts.lead ++ '(' :: (c.qualified.toList ++ d.casts.stop :: rest) := by
  unfold resolve at h
  split at h
  · right
    unfold cast at h
    split at h
    · cases h
    · rename_i name _
      cases hcasts : d.casts with
      | call =>
        rw [hcasts] at h
        cases h
        exact ⟨"AS ".toList ++ name.toList ++ ")".toList, by simp [CastStyle.lead, CastStyle.stop]⟩
      | postfixed =>
        rw [hcasts] at h
        cases h
        exact ⟨"::".toList ++ name.toList, by simp [CastStyle.lead, CastStyle.stop]⟩
  · cases h
    exact .inl rfl

/-- Different columns of a table are resolved to different texts, whatever types they are cast to. -/
theorem resolve_inj {table x y sql : String} {t u : ValueType} (ht : Text.isIdentifier table = true)
    (hx : Text.isColumnExpression x = true) (hy : Text.isColumnExpression y = true)
    (h : d.resolve ⟨table, x⟩ t = .ok sql) (h' : d.resolve ⟨table, y⟩ u = .ok sql) : x = y := by
  have hopen : ∀ {z : String}, Text.isColumnExpression z = true → '(' ∉ (⟨table, z⟩ : Column).qualified.toList :=
    fun hz => Column.notMem_qualified ht hz (by decide) (by decide)
  have hstop : ∀ {z : String}, Text.isColumnExpression z = true →
      d.casts.stop ∉ (⟨table, z⟩ : Column).qualified.toList := by
    intro z hz
    cases d.casts <;> exact Column.notMem_qualified ht hz (by decide) (by decide)
  have hqualified : (⟨table, x⟩ : Column).qualified = (⟨table, y⟩ : Column).qualified := by
    rcases exists_of_resolve h with hsql | ⟨rest, hsql⟩
    · rcases exists_of_resolve h' with hsql' | ⟨rest', hsql'⟩
      · exact hsql.symm.trans hsql'
      · -- a parenthesis tells a cast from a plain column
        refine absurd ?_ (hopen hx)
        rw [← hsql, hsql']
        simp
    · rcases exists_of_resolve h' with hsql' | ⟨rest', hsql'⟩
      · refine absurd ?_ (hopen hy)
        rw [← hsql', hsql]
        simp
      · have hlists := hsql.symm.trans hsql'
        have htail := (List.cons.inj (List.append_cancel_left hlists)).2
        -- the column ends where the first character stands that can follow it
        have hcut := congrArg (List.splitOn d.casts.stop) htail
        rw [List.splitOn_append_cons_self_of_not_mem (hstop hx),
          List.splitOn_append_cons_self_of_not_mem (hstop hy)] at hcut
        exact String.toList_inj.1 (List.cons.inj hcut).1
  exact (String.append_right_inj (table ++ ".")).1 hqualified

end Dialect

/-! ### Names are counted by stem -/

namespace Namer

variable {d : Dialect} {c : Column} {sql : String} {n n' : Namer}

/-- The conditions of tests depend on how many names were given out for their stem and for no other. -/
theorem conditions_congr (h : n.count c.paramPrefix = n'.count c.paramPrefix) (tests : List Test) :
    (n.conditions d c sql tests).1 = (n'.conditions d c sql tests).1 := by
  induction tests generalizing n n' with
  | nil => rfl
  | cons t tests ih =>
    rw [conditions, conditions]
    cases t.tag? with
    | none => exact congrArg (_ :: ·) (ih h)
    | some tag =>
      have hname : (n.next c tag).1 = (n'.next c tag).1 := congrArg (nameOf c.paramPrefix tag) h
      have hcount : (n.next c tag).2.count c.paramPrefix = (n'.next c tag).2.count c.paramPrefix := by
        rw [count_next, count_next, h]
      have hrest := ih hcount
      show _ :: _ = _ :: _
      rw [hname, hrest]

/-- Tests count one name of their stem for each of them that has a parameter. -/
theorem count_conditions (tests : List Test) (stem : String) :
    (n.conditions d c sql tests).2.count stem =
      n.count stem + if stem = c.paramPrefix then tests.countP (fun t => t.tag?.isSome) else 0 := by
  induction tests generalizing n with
  | nil => simp [conditions]
  | cons t tests ih =>
    rw [conditions]
    cases ht : t.tag? with
    | none =>
      rw [List.countP_cons_of_neg (by simp [ht])]
      exact ih
    | some tag =>
      rw [List.countP_cons_of_pos (by simp [ht])]
      show ((n.next c tag).2.conditions d c sql tests).2.count stem = _
      rw [ih, count_next]
      split <;> omega

end Namer

/-! ### What a binding adds -/

namespace Query

/-- A query is another one with the conditions of tests on a column, names for them and places in the order. -/
def Adds (q q' : Query) (c : Column) (sql : String) (tests : List Test) (sorts : List SortEntry) : Prop :=
  ∃ params, q' = { q with
    conditions := q.conditions ++ (q.namer.conditions q.dialect c sql tests).1
    namer := (q.namer.conditions q.dialect c sql tests).2
    sorts := q.sorts ++ sorts
    params }

end Query

/-! ### Answers do not depend on other columns -/

section

variable {q q' : Query} {c : Call} {b : Binding}

/-- Where the column of a plan is sorted by in both queries or in none, a call is answered alike. -/
private theorem Call.answer_congr (hb : c.binding? = some b) (hplan : q'.planOf b = q.planOf b)
    (hsort : ∀ p, q.planOf b = .ok (some p) → q'.isSortedBy p.sql = q.isSortedBy p.sql) :
    (c.perform q').1 = (c.perform q).1 := by
  rw [perform_eq, perform_eq, outcome_of_plan hb, outcome_of_plan hb]
  rw [hplan]
  cases hp : q.planOf b with
  | error e => rfl
  | ok p =>
    cases p with
    | none => rfl
    | some p =>
      show (settle q' (q'.follow b.column (some p))).1 = (settle q (q.follow b.column (some p))).1
      rw [Query.follow, Query.follow, hsort p hp]
      split <;> simp only [settle]

/-- A call that binds a filter sorts by the column of its plan at most. -/
private theorem Call.isSortedBy_perform (hb : c.binding? = some b) {sql : String}
    (hne : ∀ p, q.planOf b = .ok (some p) → p.sql ≠ sql) : (c.perform q).2.isSortedBy sql = q.isSortedBy sql := by
  rw [perform_eq, outcome_of_plan hb]
  cases hp : q.planOf b with
  | error e => rfl
  | ok p =>
    cases p with
    | none => rfl
    | some p =>
      show (settle q (q.follow b.column (some p))).2.isSortedBy sql = _
      rw [Query.follow]
      split
      · rfl
      · obtain ⟨params, h⟩ := q.following_eq b.column p
        show (q.following b.column p).isSortedBy sql = _
        rw [h]
        have hsql := hne p hp
        cases p.sort <;> simp [Query.isSortedBy, hsql]

end

namespace Query

variable {q q' : Query}

theorem Keeps.planOf (h : q.Keeps q') (b : Binding) : q'.planOf b = q.planOf b := by
  rw [Query.planOf, h.table, h.dialect, h.settings]
  rfl

/-- What a plan adds, if there is one, does not depend on the query that it is carried out on. -/
private theorem exists_adds_of_follow (column : String) (p : Option Plan) :
    ∃ sql tests sorts, ∀ q q' : Query, q.follow column p = .ok q' → q.Adds q' ⟨q.table, column⟩ sql tests sorts := by
  cases p with
  | none =>
    refine ⟨"", [], [], ?_⟩
    rintro q _ ⟨⟩
    refine ⟨q.params, ?_⟩
    rw [Namer.conditions, List.append_nil, List.append_nil]
  | some p =>
    refine ⟨p.sql, p.tests, (p.sort.map (⟨p.sql, ·⟩)).toList, fun q q' h => ?_⟩
    rw [follow] at h
    split at h
    · cases h
    · cases h
      exact q.following_eq column p

/-- What a call that binds a filter adds if it succeeds does not depend on what was asked before. -/
private theorem exists_adds {c : Call} {b : Binding} (hb : c.binding? = some b) (q : Query) :
    ∃ sql tests sorts, ∀ q' q'', q.Keeps q' → c.perform q' = (.ok (), q'') →
      q'.Adds q'' ⟨q.table, b.column⟩ sql tests sorts := by
  have hfollow : ∀ q' q'', q.Keeps q' → c.perform q' = (.ok (), q'') →
      ∃ p, q.planOf b = .ok p ∧ q'.follow b.column p = .ok q'' := by
    intro q' q'' hq h
    rw [Call.perform_eq_ok, Call.outcome_of_plan hb, hq.planOf] at h
    exact bind_eq_ok.1 h
  cases hp : q.planOf b with
  | error e =>
    refine ⟨"", [], [], fun q' q'' hq h => ?_⟩
    obtain ⟨p, hp', -⟩ := hfollow q' q'' hq h
    rw [hp] at hp'
    cases hp'
  | ok p =>
    obtain ⟨sql, tests, sorts, hadds⟩ := exists_adds_of_follow b.column p
    refine ⟨sql, tests, sorts, fun q' q'' hq h => ?_⟩
    obtain ⟨p', hp', h'⟩ := hfollow q' q'' hq h
    rw [hp] at hp'
    cases hp'
    have := hadds q' q'' h'
    rwa [hq.table] at this

section

variable {c₁ c₂ : Call} {b₁ b₂ : Binding} (h : q.Reachable) (h₁ : c₁.binding? = some b₁) (h₂ : c₂.binding? = some b₂)
  (hne : (⟨q.table, b₁.column⟩ : Column).paramPrefix ≠ (⟨q.table, b₂.column⟩ : Column).paramPrefix)

include h h₁ h₂ hne

/-- A call is answered as it would have been before a filter was bound to a column with another stem. -/
private theorem answer_after : (c₁.perform (c₂.perform q).2).1 = (c₁.perform q).1 := by
  refine Call.answer_congr h₁ ((h.keeps_perform c₂).planOf b₁) fun p₁ hp₁ => ?_
  refine Call.isSortedBy_perform h₂ fun p₂ hp₂ hsql => ?_
  obtain ⟨hcolumn₁, t₁, hresolve₁⟩ := Binding.resolve_of_plan hp₁
  obtain ⟨hcolumn₂, t₂, hresolve₂⟩ := Binding.resolve_of_plan hp₂
  rw [hsql] at hresolve₂
  exact hne (by rw [Dialect.resolve_inj h.wellFormed.table hcolumn₁ hcolumn₂ hresolve₁ hresolve₂])

end

/-! ### Queries that are the same up to order -/

/-- The queries hold the same, but what was added to their lists may stand in another order; places in the order of the
rows do so at one position only. -/
structure SameUpToOrder (q q' : Query) : Prop where
  table : q.table = q'.table
  dialect : q.dialect = q'.dialect
  settings : q.settings = q'.settings
  selection : q.selection = q'.selection
  conditions : q.conditions.Perm q'.conditions
  entries : q.params.entries.Perm q'.params.entries
  values : ∀ name, q.params.get? name = q'.params.get? name
  sorts : q.sorts.Perm q'.sorts
  positions : q.orderedSorts.map (fun e => e.key.position) = q'.orderedSorts.map fun e => e.key.position
  counts : ∀ stem, q.namer.count stem = q'.namer.count stem
  searches : q.searches = q'.searches
  fullTextSearches : q.fullTextSearches = q'.fullTextSearches
  paging : q.paging = q'.paging

theorem SameUpToOrder.refl (q : Query) : q.SameUpToOrder q :=
  ⟨rfl, rfl, rfl, rfl, .refl _, .refl _, fun _ => rfl, .refl _, rfl, fun _ => rfl, rfl, rfl, rfl⟩

/-- Places in the order that are the same up to order have the same positions once they are sorted. -/
private theorem positions_of_perm (h : q.sorts.Perm q'.sorts) :
    q.orderedSorts.map (fun e => e.key.position) = q'.orderedSorts.map fun e => e.key.position := by
  have hsorted : ∀ q : Query, (q.orderedSorts.map fun e => e.key.position).Pairwise (· ≤ ·) := fun q =>
    List.pairwise_map.2 q.pairwise_orderedSorts
  refine List.Perm.eq_of_pairwise (fun a b _ _ => Int32.le_antisymm) (hsorted q) (hsorted q') ?_
  exact ((q.orderedSorts_perm.trans h).trans q'.orderedSorts_perm.symm).map _

/-- What two plans for columns with different stems add is the same in either order. -/
private theorem Adds.sameUpToOrder {q₁ q₂ q₁₂ q₂₁ : Query} {c₁ c₂ : Column} {sql₁ sql₂ : String} {ts₁ ts₂ : List Test}
    {es₁ es₂ : List SortEntry} (hne : c₁.paramPrefix ≠ c₂.paramPrefix) (h₁ : q.Adds q₁ c₁ sql₁ ts₁ es₁)
    (h₁₂ : q₁.Adds q₁₂ c₂ sql₂ ts₂ es₂) (h₂ : q.Adds q₂ c₂ sql₂ ts₂ es₂) (h₂₁ : q₂.Adds q₂₁ c₁ sql₁ ts₁ es₁)
    (hn : q₁₂.Named) (hn' : q₂₁.Named) : q₁₂.SameUpToOrder q₂₁ := by
  obtain ⟨_, rfl⟩ := h₁
  obtain ⟨_, rfl⟩ := h₂
  obtain ⟨ps, hq⟩ := h₁₂
  obtain ⟨ps', hq'⟩ := h₂₁
  -- neither plan gives out names of the stem of the other
  have hfirst : ((q.namer.conditions q.dialect c₂ sql₂ ts₂).2.conditions q.dialect c₁ sql₁ ts₁).1 =
      (q.namer.conditions q.dialect c₁ sql₁ ts₁).1 :=
    Namer.conditions_congr (by rw [Namer.count_conditions, if_neg hne, Nat.add_zero]) ts₁
  have hsecond : ((q.namer.conditions q.dialect c₁ sql₁ ts₁).2.conditions q.dialect c₂ sql₂ ts₂).1 =
      (q.namer.conditions q.dialect c₂ sql₂ ts₂).1 :=
    Namer.conditions_congr (by rw [Namer.count_conditions, if_neg hne.symm, Nat.add_zero]) ts₂
  have hconditions : q₁₂.conditions.Perm q₂₁.conditions := by
    rw [hq, hq']
    dsimp only
    rw [hfirst, hsecond, List.append_assoc, List.append_assoc]
    exact List.perm_append_comm.append_left q.conditions
  have hsorts : q₁₂.sorts.Perm q₂₁.sorts := by
    rw [hq, hq']
    dsimp only
    rw [List.append_assoc, List.append_assoc]
    exact List.perm_append_comm.append_left q.sorts
  have hentries : q₁₂.params.entries.Perm q₂₁.params.entries := by
    rw [hn.entries, hn'.entries]
    exact hconditions.filterMap _
  have hcounts : ∀ stem, q₁₂.namer.count stem = q₂₁.namer.count stem := by
    intro stem
    rw [hq, hq']
    dsimp only
    rw [Namer.count_conditions, Namer.count_conditions, Namer.count_conditions, Namer.count_conditions]
    omega
  have hnodup : (q₁₂.params.entries.map Prod.fst).Nodup := by
    rw [hn.entries]
    exact hn.nodup
  refine ⟨?_, ?_, ?_, ?_, hconditions, hentries, Named.lookup_of_perm hentries hnodup, hsorts,
    positions_of_perm hsorts, hcounts, ?_, ?_, ?_⟩
  all_goals rw [hq, hq']

/-- Two calls that bind filters to columns with different stems are answered alike in either order, with success or with
the same error, and lead to the same query up to the order in which things were added.  The bag has the same values
under the same names, and places in the order of the rows change places at equal positions only. -/
theorem independent_bindings_commute (h : q.Reachable) {c₁ c₂ : Call} {b₁ b₂ : Binding} (h₁ : c₁.binding? = some b₁)
    (h₂ : c₂.binding? = some b₂)
    (hne : (⟨q.table, b₁.column⟩ : Column).paramPrefix ≠ (⟨q.table, b₂.column⟩ : Column).paramPrefix) :
    (c₁.perform (c₂.perform q).2).1 = (c₁.perform q).1 ∧ (c₂.perform (c₁.perform q).2).1 = (c₂.perform q).1 ∧
      (c₂.perform (c₁.perform q).2).2.SameUpToOrder (c₁.perform (c₂.perform q).2).2 := by
  have hanswer₁ := answer_after h h₁ h₂ hne
  have hanswer₂ := answer_after h h₂ h₁ hne.symm
  refine ⟨hanswer₁, hanswer₂, ?_⟩
  -- a call that fails does so before and after the other, and leaves no trace
  cases ha₁ : (c₁.perform q).1 with
  | error e =>
    rw [Call.perform_of_error ha₁, Call.perform_of_error (hanswer₁.trans ha₁)]
    exact .refl _
  | ok =>
    cases ha₂ : (c₂.perform q).1 with
    | error e =>
      rw [Call.perform_of_error ha₂, Call.perform_of_error (hanswer₂.trans ha₂)]
      exact .refl _
    | ok =>
      obtain ⟨sql₁, tests₁, sorts₁, hadds₁⟩ := exists_adds h₁ q
      obtain ⟨sql₂, tests₂, sorts₂, hadds₂⟩ := exists_adds h₂ q
      exact Adds.sameUpToOrder hne (hadds₁ q _ (h.keeps_run []) (Prod.ext ha₁ rfl))
        (hadds₂ _ _ (h.keeps_perform c₁) (Prod.ext (hanswer₂.trans ha₂) rfl))
        (hadds₂ q _ (h.keeps_run []) (Prod.ext ha₂ rfl))
        (hadds₁ _ _ (h.keeps_perform c₂) (Prod.ext (hanswer₁.trans ha₁) rfl))
        (h.run [.call c₁, .call c₂]).named (h.run [.call c₂, .call c₁]).named

/-- A column and a path into a document, which ask for the same position in the order of the rows, change places. -/
theorem independent_bindings_commute_users :
    let q : Query := { table := "users", dialect := .postgres, settings := {} }
    let c₁ : Call := .bindText "name" (some { eq := some "Bo", sort := some (.asc 0) }) {}
    let c₂ : Call := .bindNumeric .int32 "data->>'age'" (some { gte := some (18 : Int32), sort := some (.desc 0) }) []
    let q₁₂ := (c₂.perform (c₁.perform q).2).2
    let q₂₁ := (c₁.perform (c₂.perform q).2).2
    q₁₂.SameUpToOrder q₂₁ ∧
      q₁₂.conditions.map Condition.sql =
        ["LOWER(users.name) = @users_name_eq_0", "(users.data->>'age')::integer >= @users_data_age_gte_0"] ∧
      q₂₁.conditions.map Condition.sql =
        ["(users.data->>'age')::integer >= @users_data_age_gte_0", "LOWER(users.name) = @users_name_eq_0"] ∧
      q₁₂.sorts.map SortEntry.column = ["users.name", "(users.data->>'age')::integer"] ∧
      q₂₁.sorts.map SortEntry.column = ["(users.data->>'age')::integer", "users.name"] := by
  intro q c₁ c₂ q₁₂ q₂₁
  have hpostgres : Dialect.postgres ∈ Dialect.known := by simp [Dialect.known]
  have hnew : Query.withDialect "users" .postgres = .ok q := rfl
  have hq : q.Reachable := .created (.withDialect hpostgres hnew)
  have hstems : (⟨q.table, "name"⟩ : Column).paramPrefix ≠ (⟨q.table, "data->>'age'"⟩ : Column).paramPrefix := by
    decide +kernel
  have h₁ : c₁.binding? = some _ := rfl
  have h₂ : c₂.binding? = some _ := rfl
  obtain ⟨-, -, hsame⟩ := independent_bindings_commute hq h₁ h₂ hstems
  exact ⟨hsame, by decide +kernel, by decide +kernel, by decide +kernel, by decide +kernel⟩

end Query

end SqlFilter
