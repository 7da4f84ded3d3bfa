import SqlFilter.Proofs.Places
import SqlFilter.Proofs.Plan
import SqlFilter.Proofs.ValueTypes

/-!
# Places that are taken

A place in the order is refused if its column has one, and columns are told apart by the text that they are resolved to.
In PostgreSQL two column expressions of a table are resolved to one text only if they are the same and, where the
expression is a path, for values of the same type.  So a place is refused just when it was given to the same column
before (`Query.place_is_refused_iff_taken`).  A count gives back all places (`Query.count_gives_back_places`), so that
what counts are the calls that succeeded after the last one (`Query.sinceCount`).
-/

namespace SqlFilter

/-! ### Resolved columns are told apart -/

private theorem resolve_postgres_plain {column : Column} (h : column.hasPath = false) (type : ValueType) :
    Dialect.postgres.resolve column type = .ok column.qualified := by
  rw [Dialect.resolve, if_neg (by simp [h])]

private theorem toList_qualified (table x : String) :
    (⟨table, x⟩ : Column).qualified.toList = table.toList ++ '.' :: x.toList := by
  simp [Column.qualified]

private theorem notMem_of_isColumnExpression {x : String} (hx : Text.isColumnExpression x = true) {c : Char}
    (hc : Text.isColumnChar c = false) : c ∉ x.toList := by
  intro hmem
  rw [Text.isColumnChar_of_isColumnExpression hx c hmem] at hc
  cases hc

/-- A path that is cast has colons in it that a column as it is has not. -/
private theorem cast_ne_qualified (table x : String) {y : String} (hy : Text.isColumnExpression y = true)
    (t : ValueType) :
    "(" ++ (⟨table, x⟩ : Column).qualified ++ ")::" ++ t.postgresName ≠ (⟨table, y⟩ : Column).qualified := by
  intro h
  have hcount := congrArg (fun s : String => s.toList.count ':') h
  have hy0 : y.toList.count ':' = 0 := List.count_eq_zero.2 (notMem_of_isColumnExpression hy (by decide))
  simp only [String.toList_append, toList_qualified, List.count_append, List.count_cons, hy0] at hcount
  have hcast : (")::" : String).toList.count ':' = 2 := by decide
  rw [hcast] at hcount
  omega

/-- A column expression ends where the parenthesis of its cast is closed. -/
private theorem cast_inj {table x y : String} {t u : ValueType} (hx : Text.isColumnExpression x = true)
    (hy : Text.isColumnExpression y = true)
    (h : "(" ++ (⟨table, x⟩ : Column).qualified ++ ")::" ++ t.postgresName =
      "(" ++ (⟨table, y⟩ : Column).qualified ++ ")::" ++ u.postgresName) : x = y ∧ t = u := by
  have hl : x.toList ++ ')' :: ':' :: ':' :: t.postgresName.toList =
      y.toList ++ ')' :: ':' :: ':' :: u.postgresName.toList := by
    have hl := congrArg String.toList h
    simpa [toList_qualified] using hl
  have hcut := congrArg (List.splitOn ')') hl
  rw [List.splitOn_append_cons_self_of_not_mem (notMem_of_isColumnExpression hx (by decide)),
    List.splitOn_append_cons_self_of_not_mem (notMem_of_isColumnExpression hy (by decide))] at hcut
  have hxy : x.toList = y.toList := (List.cons.inj hcut).1
  rw [hxy] at hl
  have hnames : t.postgresName = u.postgresName := String.toList_inj.1 (by simpa using hl)
  exact ⟨String.toList_inj.1 hxy, ValueType.postgresName_inj hnames⟩

/-- PostgreSQL resolves every column, and two column expressions to one text only if they are the same and, where the
expression is a path, are resolved for the same type. -/
private theorem resolve_postgres_eq_iff (table : String) {x y : String} (t u : ValueType)
    (hx : Text.isColumnExpression x = true) (hy : Text.isColumnExpression y = true) :
    ∃ sql sql', Dialect.postgres.resolve ⟨table, x⟩ t = .ok sql ∧ Dialect.postgres.resolve ⟨table, y⟩ u = .ok sql' ∧
      (sql = sql' ↔ x = y ∧ ((⟨table, x⟩ : Column).hasPath = true → t = u)) := by
  cases hpx : (⟨table, x⟩ : Column).hasPath with
  | false =>
    cases hpy : (⟨table, y⟩ : Column).hasPath with
    | false =>
      refine ⟨_, _, resolve_postgres_plain hpx t, resolve_postgres_plain hpy u, ?_⟩
      simp [Column.qualified]
    | true =>
      refine ⟨_, _, resolve_postgres_plain hpx t, resolve_postgres_path hpy u, iff_of_false ?_ ?_⟩
      · exact (cast_ne_qualified table y hx u).symm
      · rintro ⟨rfl, -⟩
        cases hpx.symm.trans hpy
  | true =>
    cases hpy : (⟨table, y⟩ : Column).hasPath with
    | false =>
      refine ⟨_, _, resolve_postgres_path hpx t, resolve_postgres_plain hpy u, iff_of_false ?_ ?_⟩
      · exact cast_ne_qualified table x hy t
      · rintro ⟨rfl, -⟩
        cases hpx.symm.trans hpy
    | true =>
      refine ⟨_, _, resolve_postgres_path hpx t, resolve_postgres_path hpy u, fun h => ?_, ?_⟩
      · obtain ⟨hxy, htu⟩ := cast_inj hx hy h
        exact ⟨hxy, fun _ => htu⟩
      · rintro ⟨rfl, htu⟩
        rw [htu rfl]

/-! ### Places since the last count -/

/-- The place that a call which succeeded asked for is that of a column expression. -/
private theorem Call.isColumnExpression_of_place {c : Call} {q q' : Query} (h : c.outcome q = .ok q') {p : Place}
    (hp : c.place? = some p) : Text.isColumnExpression p.expression = true := by
  cases hb : c.binding? with
  | none =>
    rw [place?, hb] at hp
    cases hp
  | some b =>
    rcases cases_of_binding hb h with ⟨hnone, -⟩ | ⟨demand, sql, tests, hr, hcolumn, -⟩
    · obtain ⟨kind, column, request⟩ := b
      subst hnone
      rw [place?, hb] at hp
      cases hp
    · rw [place?_eq hb hr] at hp
      obtain ⟨key, -, rfl⟩ := Option.map_eq_some_iff.1 hp
      exact hcolumn

namespace Query

/-- The calls that succeeded since rows were last counted, where `made` did before the steps. -/
def sinceCount (q : Query) (made : List Call) : List Step → List Call
  | [] => made
  | .call c :: steps => (c.perform q).2.sinceCount (made ++ q.succeeded [c]) steps
  | .copy :: steps => q.sinceCount made steps
  | .count :: steps => q.countQuery.sinceCount [] steps

/-- The places of a query are those that calls asked for, all of them for column expressions. -/
structure HasPlaces (q : Query) (made : List Call) : Prop where
  takes : List.Forall₂ (Place.Takes q.table q.dialect) (made.filterMap Call.place?) q.sorts
  columns : ∀ p ∈ made.filterMap Call.place?, Text.isColumnExpression p.expression = true

variable {q : Query} {made : List Call}

private theorem HasPlaces.call (h : q.HasPlaces made) (c : Call) :
    (c.perform q).2.HasPlaces (made ++ q.succeeded [c]) := by
  obtain ⟨_, -, hext⟩ := q.extends_run [c]
  have htable : (c.perform q).2.table = q.table := hext.table
  have hdialect : (c.perform q).2.dialect = q.dialect := hext.dialect
  obtain ⟨entries, hentries, htakes⟩ := q.places_of_run [c]
  have hsorts : (c.perform q).2.sorts = q.sorts ++ entries := hentries
  refine ⟨?_, ?_⟩
  · rw [htable, hdialect, hsorts, List.filterMap_append]
    exact List.rel_append h.takes htakes
  · rw [List.filterMap_append, List.forall_mem_append]
    refine ⟨h.columns, ?_⟩
    rw [succeeded, Call.perform_eq]
    cases ho : c.outcome q with
    | error e =>
      intro p hp
      cases hp
    | ok q' =>
      intro p hp
      obtain ⟨c', hc', hp⟩ := List.mem_filterMap.1 hp
      rw [List.mem_singleton.1 hc'] at hp
      exact Call.isColumnExpression_of_place ho hp

/-- The places after steps are those that calls asked for since the last count. -/
private theorem HasPlaces.run (h : q.HasPlaces made) (steps : List Step) :
    (q.run steps).HasPlaces (q.sinceCount made steps) := by
  induction steps generalizing q made with
  | nil => exact h
  | cons s steps ih =>
    cases s with
    | call c => exact ih (h.call c)
    | copy => exact ih h
    | count => exact ih ⟨.nil, nofun⟩

private theorem Created.hasPlaces (h : q.Created) : q.HasPlaces [] := by
  obtain ⟨-, -, -, hblank⟩ := h.isBlank
  refine ⟨?_, nofun⟩
  rw [congrArg Query.sorts hblank]
  exact .nil

/-! ### Places that are refused -/

private theorem exists_mem_iff_of_forall₂ {α β : Type} {R : α → β → Prop} {P : α → Prop} {Q : β → Prop} {l : List α}
    {l' : List β} (h : List.Forall₂ R l l') (hiff : ∀ a ∈ l, ∀ b, R a b → (P a ↔ Q b)) :
    (∃ a ∈ l, P a) ↔ ∃ b ∈ l', Q b := by
  induction h with
  | nil => simp
  | cons hab _ ih =>
    rw [List.forall_mem_cons] at hiff
    rw [List.exists_mem_cons_iff, List.exists_mem_cons_iff, hiff.1 _ hab, ih hiff.2]

/-- A column is sorted by if and only if a call asked for a place for it, of the same type if it is a path. -/
private theorem HasPlaces.isSortedBy_iff (h : q.HasPlaces made) (hd : q.dialect = .postgres) {x sql : String}
    {t : ValueType} (hx : Text.isColumnExpression x = true) (hsql : q.dialect.resolve ⟨q.table, x⟩ t = .ok sql) :
    q.isSortedBy sql = true ↔ ∃ taken ∈ made.filterMap Call.place?,
      taken.expression = x ∧ ((⟨q.table, x⟩ : Column).hasPath = true → taken.type = t) := by
  rw [Query.isSortedBy_iff, List.mem_map]
  refine (exists_mem_iff_of_forall₂ h.takes fun p hp e hpe => ?_).symm
  obtain ⟨sql₁, sql₂, h₁, h₂, hiff⟩ := resolve_postgres_eq_iff q.table p.type t (h.columns p hp) hx
  rw [Place.Takes, hd, h₁] at hpe
  rw [hd, h₂] at hsql
  cases hsql
  rw [← Except.ok.inj hpe.1, hiff]
  refine and_congr_right fun hpx => ?_
  rw [hpx]

/-- PostgreSQL resolves every column, and two column expressions of a table to one text if and only if they are the same
and, where the expression is a path, are resolved for the same type.  So after any steps a call that passes all other
checks is refused its place if and only if a call that succeeded since the last count asked for a place for the same
column, of the same type if it is a path; otherwise it succeeds. -/
theorem place_is_refused_iff_taken :
    (∀ (table x y : String) (t u : ValueType), Text.isColumnExpression x = true → Text.isColumnExpression y = true →
      ∃ sql sql', Dialect.postgres.resolve ⟨table, x⟩ t = .ok sql ∧ Dialect.postgres.resolve ⟨table, y⟩ u = .ok sql' ∧
        (sql = sql' ↔ x = y ∧ ((⟨table, x⟩ : Column).hasPath = true → t = u))) ∧
    ∀ q : Query, q.Created → q.dialect = .postgres → ∀ (steps : List Step) (c : Call) (b : Binding) (plan : Plan)
      (p : Place), c.binding? = some b → (q.run steps).planOf b = .ok (some plan) → c.place? = some p →
        ((c.perform (q.run steps)).1 = .error (.duplicateSort plan.sql) ↔
          ∃ taken ∈ (q.sinceCount [] steps).filterMap Call.place?, taken.expression = p.expression ∧
            ((⟨(q.run steps).table, p.expression⟩ : Column).hasPath = true → taken.type = p.type)) ∧
        ((c.perform (q.run steps)).1 = .error (.duplicateSort plan.sql) ∨ (c.perform (q.run steps)).1 = .ok ()) := by
  refine ⟨fun table _ _ t u => resolve_postgres_eq_iff table t u, ?_⟩
  intro q hq hpostgres steps c b plan p hb hplan hp
  obtain ⟨demand, hr, hcolumn, hsql, hsort⟩ := Binding.exists_demand_of_plan hplan
  rw [Call.place?_eq hb hr, hsort] at hp
  obtain ⟨key, hkey, rfl⟩ := Option.map_eq_some_iff.1 hp
  have hd : (q.run steps).dialect = .postgres := (q.dialect_run steps).trans hpostgres
  have htaken := (hq.hasPlaces.run steps).isSortedBy_iff hd hcolumn hsql
  have houtcome : c.outcome (q.run steps) = (q.run steps).follow b.column (some plan) := by
    rw [Call.outcome_of_plan hb, hplan]
    rfl
  rw [Call.perform_eq, houtcome, follow, hkey, ← htaken]
  cases (q.run steps).isSortedBy plan.sql with
  | true => exact ⟨iff_of_true rfl rfl, .inl rfl⟩
  | false => exact ⟨iff_of_false nofun Bool.false_ne_true, .inr rfl⟩

private theorem exists_plan {c : Call}
    (h : (c.binding?.map fun b => (q.planOf b).map Option.isSome) = some (.ok true)) :
    ∃ b plan, c.binding? = some b ∧ q.planOf b = .ok (some plan) := by
  obtain ⟨b, hb, hplan⟩ := Option.map_eq_some_iff.1 h
  cases hp : q.planOf b with
  | error e =>
    rw [hp] at hplan
    cases hplan
  | ok plan =>
    cases plan with
    | none =>
      rw [hp] at hplan
      cases hplan
    | some plan => exact ⟨b, plan, hb, hp⟩

/-- A path that was given a place as an integer since the last count is refused another one as an integer, but not the
one as a text that it had before. -/
theorem place_is_refused_iff_taken_path :
    let q : Query := { table := "users", dialect := .postgres, settings := {} }
    let number : Call := .bindNumeric .int32 "data->>'n'" (some { gte := some (18 : Int32), sort := some (.asc 0) }) []
    let text : Call := .bindText "data->>'n'" (some { eq := some "x", sort := some (.desc 1) }) {}
    let steps : List Step := [.call text, .count, .call number]
    q.Created ∧ (text.perform q).1 = .ok () ∧
      (∃ column, (number.perform (q.run steps)).1 = .error (.duplicateSort column)) ∧
      (text.perform (q.run steps)).1 = .ok () := by
  intro q number text steps
  have hnew : Query.new "users" .postgres = .ok q := rfl
  have hplaces : (q.sinceCount [] steps).filterMap Call.place? = [⟨"data->>'n'", .int32, .asc 0⟩] := by decide +kernel
  have hpath : (⟨(q.run steps).table, "data->>'n'"⟩ : Column).hasPath = true := by decide +kernel
  have hnumber : number.place? = some ⟨"data->>'n'", .int32, .asc 0⟩ := by decide +kernel
  have htext : text.place? = some ⟨"data->>'n'", .text, .desc 1⟩ := by decide +kernel
  obtain ⟨-, hall⟩ := place_is_refused_iff_taken
  refine ⟨.new hnew, by decide +kernel, ?_, ?_⟩
  · obtain ⟨b, plan, hb, hplan⟩ := exists_plan (q := q.run steps) (c := number) (by decide +kernel)
    have hrefused := (hall q (.new hnew) rfl steps number b plan _ hb hplan hnumber).1
    rw [hplaces] at hrefused
    exact ⟨plan.sql, hrefused.2 ⟨_, List.mem_singleton_self _, rfl, fun _ => rfl⟩⟩
  · obtain ⟨b, plan, hb, hplan⟩ := exists_plan (q := q.run steps) (c := text) (by decide +kernel)
    obtain ⟨hrefused, hanswer⟩ := hall q (.new hnew) rfl steps text b plan _ hb hplan htext
    rw [hplaces] at hrefused
    refine hanswer.resolve_left fun herror => ?_
    obtain ⟨taken, htaken, -, htype⟩ := hrefused.1 herror
    rw [List.mem_singleton.1 htaken] at htype
    exact absurd (htype hpath) (by decide)

/-- A count gives back all places: a call that was given a place for a column succeeds again after it.  So it is not
refused although an earlier call which succeeded asked for a place for the same column. -/
theorem count_gives_back_places :
    let q : Query := { table := "users", dialect := .postgres, settings := {} }
    let c : Call := .bindNumeric .int32 "age" (some { gte := some (18 : Int32), sort := some (.asc 0) }) []
    let p : Place := ⟨"age", .int32, .asc 0⟩
    let q' := q.run [.call c, .count]
    q.Created ∧ q'.Reachable ∧ q'.dialect = .postgres ∧ c.place? = some p ∧
      (∃ b plan, c.binding? = some b ∧ q'.planOf b = .ok (some plan)) ∧
      ¬ ((∃ column, (c.perform q').1 = .error (.duplicateSort column)) ↔
        ∃ taken ∈ (q.succeeded [c]).filterMap Call.place?, taken.expression = p.expression ∧
          ((⟨q'.table, p.expression⟩ : Column).hasPath = true → taken.type = p.type)) := by
  intro q c p q'
  have hnew : Query.new "users" .postgres = .ok q := rfl
  have hreachable : q'.Reachable := (Reachable.created (.new hnew)).run _
  have hplaces : (q.succeeded [c]).filterMap Call.place? = [p] := by decide +kernel
  have hok : (c.perform q').1 = .ok () := by decide +kernel
  refine ⟨.new hnew, hreachable, q.dialect_run _, by decide +kernel, exists_plan (by decide +kernel), fun hiff => ?_⟩
  rw [hplaces] at hiff
  obtain ⟨column, herror⟩ := hiff.2 ⟨p, List.mem_singleton_self _, rfl, fun _ => rfl⟩
  cases hok.symm.trans herror

end Query

end SqlFilter
