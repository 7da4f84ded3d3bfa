import SqlFilter.Proofs.Atomicity
import SqlFilter.Proofs.Binding
import SqlFilter.Proofs.Positional

/-!
# Statements are determined by the calls that succeed

What a call adds to a query can be told from the call and from how many names were given out before it
(`Call.addition`).  A call that succeeds adds just this and changes nothing else (`Call.extends_of_outcome`), and one
that fails adds nothing.  So after a run on a new query the conditions, the order, the selection and the page are those
of the calls that succeeded, one after the other (`Query.extends_run`), and so is the statement
(`Query.statement_is_determined`).
-/

namespace SqlFilter

/-! ### What a call adds -/

/-- What a call selects. -/
def Call.selection? : Call → Option Selection
  | selectAll => some .all
  | selectCount => some .count
  | selectColumns items => some (.columns items)
  | _ => none

/-- The page that a call chooses. -/
def Call.page? : Call → Option Paging
  | paginate (some f) _ => some ⟨f.limit, f.offset⟩
  | _ => none

/-- How many names were given out, for columns and for searches. -/
structure Naming where
  namer : Namer := {}
  searches : Nat := 0
  fullTextSearches : Nat := 0

/-- What a call adds to the conditions and to the order. -/
structure Addition where
  conditions : List Condition := []
  sort : Option SortEntry := none

/-- What a call adds to a query on a table, and the names given out after it. -/
def Call.addition (table : String) (d : Dialect) (config : String) (n : Naming) (c : Call) :
    Except QueryError (Addition × Naming) :=
  match c.binding? with
  | some ⟨_, _, none⟩ => .ok ({}, n)
  | some ⟨_, expression, some (_, demand)⟩ => do
    let demand ← demand
    let sql ← d.resolve ⟨table, expression⟩ demand.type
    let tests ← demand.tests
    let (conditions, namer) := n.namer.conditions d ⟨table, expression⟩ sql tests
    return (⟨conditions, demand.sort.map (⟨sql, ·⟩)⟩, { n with namer })
  | none =>
    match c with
    | search columns (some f) => do
      let resolved ← columns.mapM fun c => d.resolve ⟨table, c⟩ .text
      let c := d.freeText resolved ("_Search_" ++ toString n.searches) f.term f.caseSensitive
      return ({ conditions := [c] }, { n with searches := n.searches + 1 })
    | searchFullText columns (some f) => do
      let resolved ← columns.mapM fun c => d.resolve ⟨table, c⟩ .text
      let name := "_FullText_" ++ toString n.fullTextSearches
      let c ← d.fullTextSearch resolved (f.config.getD config) f.form name f.term
      return ({ conditions := [c] }, { n with fullTextSearches := n.fullTextSearches + 1 })
    | _ => .ok ({}, n)

/-- What calls add one after the other. -/
def additions (table : String) (d : Dialect) (config : String) : Naming → List Call → Except QueryError (List Addition)
  | _, [] => .ok []
  | n, c :: r => do
    let (a, n) ← c.addition table d config n
    return a :: (← additions table d config n r)

namespace Query

/-- The calls that succeed when calls are made one after the other. -/
def succeeded (q : Query) : List Call → List Call
  | [] => []
  | c :: r =>
    match c.perform q with
    | (.ok _, q') => c :: q'.succeeded r
    | (.error _, q') => q'.succeeded r

def naming (q : Query) : Naming := ⟨q.namer, q.searches, q.fullTextSearches⟩

/-- A query is another one with more conditions, places in the order and selections, and the last of some pages. -/
structure Extends (q q' : Query) (conditions : List Condition) (sorts : List SortEntry) (selections : List Selection)
    (pages : List Paging) : Prop where
  table : q'.table = q.table
  dialect : q'.dialect = q.dialect
  settings : q'.settings = q.settings
  conditions : q'.conditions = q.conditions ++ conditions
  sorts : q'.sorts = q.sorts ++ sorts
  selection : q'.selection.toList = q.selection.toList ++ selections
  paging : q'.paging = pages.getLast?.or q.paging

variable {q q' q'' : Query} {cs cs' : List Condition} {es es' : List SortEntry} {ss ss' : List Selection}
  {ps ps' : List Paging}

theorem Extends.refl (q : Query) : q.Extends q [] [] [] [] :=
  ⟨rfl, rfl, rfl, (List.append_nil _).symm, (List.append_nil _).symm, (List.append_nil _).symm, rfl⟩

theorem Extends.trans (h : q.Extends q' cs es ss ps) (h' : q'.Extends q'' cs' es' ss' ps') :
    q.Extends q'' (cs ++ cs') (es ++ es') (ss ++ ss') (ps ++ ps') := by
  refine ⟨h'.table.trans h.table, h'.dialect.trans h.dialect, h'.settings.trans h.settings, ?_, ?_, ?_, ?_⟩
  · rw [h'.conditions, h.conditions, List.append_assoc]
  · rw [h'.sorts, h.sorts, List.append_assoc]
  · rw [h'.selection, h.selection, List.append_assoc]
  · rw [h'.paging, h.paging, List.getLast?_append, Option.or_assoc]

end Query

/-! ### What a successful call does -/

variable {c : Call} {q q' : Query}

namespace Call

theorem extends_of_binding {b : Binding} (hb : c.binding? = some b) (h : c.outcome q = .ok q') :
    ∃ a, c.addition q.table q.dialect q.settings.searchConfig q.naming = .ok (a, q'.naming) ∧
      q.Extends q' a.conditions a.sort.toList [] [] := by
  unfold addition
  rw [hb]
  obtain ⟨kind, column, request⟩ := b
  rcases cases_of_binding hb h with ⟨rfl, rfl⟩ | ⟨d, sql, tests, rfl, -, hsql, ht, -, rfl⟩
  · exact ⟨{}, rfl, .refl q'⟩
  · obtain ⟨params, he⟩ := q.emitAll_eq ⟨q.table, column⟩ sql tests
    dsimp only
    rw [he]
    refine ⟨⟨(q.namer.conditions q.dialect ⟨q.table, column⟩ sql tests).1, d.sort.map (⟨sql, ·⟩)⟩, ?_, ?_⟩
    · refine bind_eq_ok.2 ⟨d, rfl, bind_eq_ok.2 ⟨sql, hsql, bind_eq_ok.2 ⟨tests, ht, ?_⟩⟩⟩
      cases d.sort <;> rfl
    · cases d.sort with
      | none => exact ⟨rfl, rfl, rfl, rfl, (List.append_nil _).symm, (List.append_nil _).symm, rfl⟩
      | some key => exact ⟨rfl, rfl, rfl, rfl, rfl, (List.append_nil _).symm, rfl⟩

theorem not_selects_of_binding {b : Binding} (hb : c.binding? = some b) : c.selection? = none ∧ c.page? = none := by
  cases c with
  | bindBoolean | bindNumeric | bindDate | bindEnum | bindFlags | bindId | bindText => exact ⟨rfl, rfl⟩
  | selectAll | selectCount | selectColumns | search | searchFullText | paginate => cases hb

theorem extends_select (s : Selection) (h : q.selection = none) :
    q.Extends { q with selection := some s } [] [] [s] [] := by
  refine ⟨rfl, rfl, rfl, (List.append_nil _).symm, (List.append_nil _).symm, ?_, rfl⟩
  rw [h]
  rfl

/-- A call that succeeds adds what it asks for and nothing else. -/
theorem extends_of_outcome (h : c.outcome q = .ok q') :
    ∃ a, c.addition q.table q.dialect q.settings.searchConfig q.naming = .ok (a, q'.naming) ∧
      q.Extends q' a.conditions a.sort.toList c.selection?.toList c.page?.toList := by
  cases hb : c.binding? with
  | some b =>
    obtain ⟨hs, hp⟩ := not_selects_of_binding hb
    rw [hs, hp]
    exact extends_of_binding hb h
  | none =>
    cases c with
    | bindBoolean | bindNumeric | bindDate | bindEnum | bindFlags | bindId | bindText => cases hb
    | selectAll | selectCount =>
      obtain ⟨hnone, rfl⟩ := Query.cases_of_select h
      exact ⟨{}, rfl, extends_select _ hnone⟩
    | selectColumns items =>
      obtain ⟨hnone, -, rfl⟩ := Query.cases_of_selectColumns h
      exact ⟨{}, rfl, extends_select _ hnone⟩
    | search columns f =>
      rcases Query.cases_of_search h with ⟨rfl, rfl⟩ | ⟨g, resolved, rfl, -, hr, rfl⟩
      · exact ⟨{}, rfl, .refl q'⟩
      · refine ⟨_, bind_eq_ok.2 ⟨resolved, hr, rfl⟩, ?_⟩
        exact ⟨rfl, rfl, rfl, rfl, (List.append_nil _).symm, (List.append_nil _).symm, rfl⟩
    | searchFullText columns f =>
      rcases Query.cases_of_searchFullText h with ⟨rfl, rfl⟩ | ⟨g, resolved, c, rfl, -, -, hr, hc, rfl⟩
      · exact ⟨{}, rfl, .refl q'⟩
      · refine ⟨_, bind_eq_ok.2 ⟨resolved, hr, bind_eq_ok.2 ⟨c, hc, rfl⟩⟩, ?_⟩
        exact ⟨rfl, rfl, rfl, rfl, (List.append_nil _).symm, (List.append_nil _).symm, rfl⟩
    | paginate f maxLimit =>
      rcases Query.cases_of_paginate h with ⟨rfl, rfl⟩ | ⟨g, rfl, rfl⟩
      · exact ⟨{}, rfl, .refl q'⟩
      · refine ⟨{}, rfl, rfl, rfl, rfl, (List.append_nil _).symm, (List.append_nil _).symm, ?_, rfl⟩
        exact (List.append_nil _).symm

end Call

namespace Query

/-! ### Runs -/

theorem toList_append_filterMap {α : Type*} {β : Type} (f : α → Option β) (x : α) (l : List α) :
    (f x).toList ++ l.filterMap f = (x :: l).filterMap f := by
  rw [List.filterMap_cons]
  cases f x <;> rfl

/-- After calls a query has what those that succeeded added, one after the other. -/
theorem extends_run (q : Query) (calls : List Call) :
    ∃ added, additions q.table q.dialect q.settings.searchConfig q.naming (q.succeeded calls) = .ok added ∧
      q.Extends (q.run (calls.map .call)) (added.flatMap Addition.conditions)
        (added.filterMap Addition.sort) ((q.succeeded calls).filterMap Call.selection?)
        ((q.succeeded calls).filterMap Call.page?) := by
  induction calls generalizing q with
  | nil => exact ⟨[], rfl, .refl q⟩
  | cons c calls ih =>
    have hrun : q.run ((c :: calls).map .call) = (settle q (c.outcome q)).2.run (calls.map .call) := by
      rw [← Call.perform_eq]
      rfl
    rw [hrun, succeeded, Call.perform_eq]
    cases h : c.outcome q with
    | error e => exact ih q
    | ok q' =>
      obtain ⟨a, ha, hfirst⟩ := Call.extends_of_outcome h
      obtain ⟨added, hadded, hrest⟩ := ih q'
      rw [hfirst.table, hfirst.dialect, hfirst.settings] at hadded
      have hall := hfirst.trans hrest
      rw [toList_append_filterMap, toList_append_filterMap, toList_append_filterMap, ← List.flatMap_cons] at hall
      exact ⟨a :: added, bind_eq_ok.2 ⟨_, ha, bind_eq_ok.2 ⟨added, hadded, rfl⟩⟩, hall⟩

/-- The statement of a query of which something is selected. -/
theorem render_of_selection {s : Selection} (h : q.selection = some s) :
    ∃ st, q.render = .ok st ∧ st.params = q.allParams ∧
      st.sql = "SELECT " ++ s.sql q.table ++ " FROM " ++ q.table ++
        (if q.conditions = [] then "" else " WHERE " ++ " AND ".intercalate (q.conditions.map Condition.sql)) ++
        (if s = .count ∨ q.sorts = [] then ""
          else " ORDER BY " ++ ", ".intercalate
            ((q.sorts.mergeSort fun a b => decide (a.key.position ≤ b.key.position)).map fun e =>
              Dialect.orderBy e.column e.key.descending)) ++
        (if q.paging = none then "" else " " ++ q.dialect.paging "_Limit" "_Offset") := by
  have hrender : q.render = .ok ⟨"SELECT " ++ s.sql q.table ++ " FROM " ++ q.table ++ q.whereClause ++
      (if s = .count then "" else q.orderClause) ++ q.pagingClause, q.allParams⟩ := by
    rw [render, h]
  have horder : (if s = .count then "" else q.orderClause) =
      if s = .count ∨ q.sorts = [] then "" else " ORDER BY " ++ ", ".intercalate
        (q.orderedSorts.map fun e => Dialect.orderBy e.column e.key.descending) := by
    unfold orderClause
    by_cases hs : s = .count
    · rw [if_pos hs, if_pos (Or.inl hs)]
    · by_cases he : q.sorts = [] <;> simp [hs, he]
  have hpage : q.pagingClause = if q.paging = none then "" else " " ++ q.dialect.paging "_Limit" "_Offset" := by
    unfold pagingClause
    cases q.paging <;> rfl
  refine ⟨_, hrender, rfl, ?_⟩
  rw [horder, hpage, whereClause]
  simp only [List.isEmpty_iff]
  rfl

/-- The statement that is rendered after calls on a new query is determined by those of them that succeed: at most one
of these selects, and without it nothing is rendered; the conditions are those that they add, in their order, and so is
the order; the page is that of the last one that chooses a page.  The numbers of the page are in the bag of the
statement only. -/
theorem statement_is_determined (h : q.Created) (calls : List Call) :
    let q' := q.run (calls.map .call)
    let made := q.succeeded calls
    let pages := made.filterMap Call.page?
    (made.filterMap Call.selection?).length ≤ 1 ∧
      (made.filterMap Call.selection? = [] → q'.render = .error .missingSelect) ∧
      (∃ added, additions q.table q.dialect q.settings.searchConfig {} made = .ok added ∧
        let conditions := added.flatMap Addition.conditions
        let sorts := added.filterMap Addition.sort
        ∀ s ∈ made.filterMap Call.selection?, ∃ st, q'.render = .ok st ∧
          st.sql = "SELECT " ++ s.sql q.table ++ " FROM " ++ q.table ++
            (if conditions = [] then "" else " WHERE " ++ " AND ".intercalate (conditions.map Condition.sql)) ++
            (if s = .count ∨ sorts = [] then ""
              else " ORDER BY " ++ ", ".intercalate
                ((sorts.mergeSort fun a b => decide (a.key.position ≤ b.key.position)).map fun e =>
                  Dialect.orderBy e.column e.key.descending)) ++
            (if pages = [] then "" else " " ++ q.dialect.paging "_Limit" "_Offset") ∧
          st.params.entries = conditions.filterMap Condition.param ++
            (match pages.getLast? with
              | none => []
              | some p => [("_Limit", .int64 p.limit), ("_Offset", .int64 p.offset)])) ∧
      "_Limit" ∉ q'.params.names ∧ "_Offset" ∉ q'.params.names := by
  intro q' made pages
  obtain ⟨-, -, -, hblank⟩ := h.isBlank
  obtain ⟨added, hadded, hext⟩ := q.extends_run calls
  have hnamed : q'.Named := ((Reachable.created h).run (calls.map .call)).named
  -- nothing was asked of the new query, so that all there is comes from the calls
  have hselection : q'.selection.toList = made.filterMap Call.selection? := by
    rw [hext.selection, congrArg Query.selection hblank]
    rfl
  have hconditions : q'.conditions = added.flatMap Addition.conditions := by
    rw [hext.conditions, congrArg Query.conditions hblank]
    rfl
  have hsorts : q'.sorts = added.filterMap Addition.sort := by
    rw [hext.sorts, congrArg Query.sorts hblank]
    rfl
  have hpaging : q'.paging = pages.getLast? := by
    rw [hext.paging, congrArg Query.paging hblank]
    exact Option.or_none
  rw [congrArg Query.naming hblank] at hadded
  rw [← hselection]
  refine ⟨?_, ?_, ⟨added, hadded, ?_⟩, ?_⟩
  · cases q'.selection with
    | none => exact Nat.zero_le 1
    | some s => exact Nat.le_refl 1
  · intro hnone
    rw [render, Option.toList_eq_nil_iff.1 hnone]
  · intro conditions sorts s hs
    obtain ⟨st, hrender, hparams, hsql⟩ := render_of_selection (Option.mem_toList.1 hs)
    refine ⟨st, hrender, ?_, ?_⟩
    · rw [hsql, hconditions, hsorts, hpaging, hext.table, hext.dialect]
      simp only [List.getLast?_eq_none_iff]
      rfl
    · rw [hparams, hnamed.entries_allParams, bound, hconditions, pageEntries, hpaging]
      cases pages.getLast? <;> rfl
  · rw [Params.names, hnamed.entries]
    exact ⟨fun hl => (hnamed.ne_page _ hl).1 rfl, fun ho => (hnamed.ne_page _ ho).2 rfl⟩

/-- A second selection and a second place in the order for the age are refused, and an absent filter is skipped; the
second page replaces the first. -/
theorem statement_is_determined_users :
    let q : Query := { table := "users", dialect := .postgres, settings := {} }
    let calls : List Call := [
      .bindNumeric .int32 "age" (some { gte := some (18 : Int32), sort := some (.desc 1) }) [],
      .selectColumns [⟨"name", none⟩], .paginate (some { limit := 10, page := 2 }) none, .selectAll,
      .bindText "name" (some { eq := some "Bo", sort := some (.asc 0) }) {}, .bindBoolean "active" none,
      .bindNumeric .int32 "age" (some { lt := some (65 : Int32), sort := some (.asc 2) }) [],
      .search ["name"] (some { term := "x" }), .paginate (some { limit := 5, page := 3 }) none]
    q.Created ∧ (q.succeeded calls).length = 7 ∧
      ∃ st, (q.run (calls.map .call)).render = .ok st ∧
        st.sql = "SELECT users.name FROM users WHERE users.age >= @users_age_gte_0 AND " ++
          "LOWER(users.name) = @users_name_eq_0 AND (users.name ILIKE @_Search_0) " ++
          "ORDER BY users.name ASC, users.age DESC LIMIT @_Limit OFFSET @_Offset" ∧
        st.params.entries = [("users_age_gte_0", .scalar .int32 (18 : Int32)), ("users_name_eq_0", .text "bo"),
          ("_Search_0", .text "%x%"), ("_Limit", .int64 5), ("_Offset", .int64 10)] := by
  intro q calls
  have hnew : Query.new "users" .postgres = .ok q := rfl
  obtain ⟨-, -, ⟨added, hadded, hst⟩, -⟩ := statement_is_determined (.new hnew) calls
  have hselection : (q.succeeded calls).filterMap Call.selection? = [.columns [⟨"name", none⟩]] := by decide +kernel
  have hpages : (q.succeeded calls).filterMap Call.page? = [⟨10, 10⟩, ⟨5, 10⟩] := by decide +kernel
  have hall : (additions q.table q.dialect q.settings.searchConfig {} (q.succeeded calls)).toOption.map (fun added =>
      (added.flatMap Addition.conditions, added.filterMap Addition.sort)) =
      some ([⟨"users.age >= @users_age_gte_0", some ("users_age_gte_0", .scalar .int32 (18 : Int32))⟩,
        ⟨"LOWER(users.name) = @users_name_eq_0", some ("users_name_eq_0", .text "bo")⟩,
        ⟨"(users.name ILIKE @_Search_0)", some ("_Search_0", .text "%x%")⟩],
        [⟨"users.age", .desc 1⟩, ⟨"users.name", .asc 0⟩]) := by decide +kernel
  rw [hadded] at hall
  obtain ⟨hconditions, hsorts⟩ := Prod.mk.inj (Option.some.inj hall)
  rw [hconditions, hsorts, hselection, hpages] at hst
  obtain ⟨st, hrender, hsql, hentries⟩ := hst _ (List.mem_singleton_self _)
  refine ⟨.new hnew, by decide +kernel, st, hrender, ?_, hentries⟩
  have hsorted : ([⟨"users.age", .desc 1⟩, ⟨"users.name", .asc 0⟩] : List SortEntry).mergeSort
      (fun a b => decide (a.key.position ≤ b.key.position)) = [⟨"users.name", .asc 0⟩, ⟨"users.age", .desc 1⟩] := by
    simp [List.mergeSort, List.MergeSort.Internal.splitInTwo, SortKey.desc, SortKey.asc]
  rw [hsql, hsorted]
  decide +kernel

end Query

end SqlFilter
