import Mathlib.Data.List.Permutation
import SqlFilter.Proofs.Growth

/-!
# Places in the order

A filter that is bound may ask for a place in the order of the rows.  The places of a query are those that the calls
which succeeded asked for, one after the other, each with its column resolved (`Query.places_of_run`); no column has two
of them (`Query.Reachable.nodup_sorts`).  They are written in the order of their positions, and at one position in the
order in which they were asked for (`Query.order_is_stable`).  A count is not ordered, whatever places it has.
-/

namespace SqlFilter

/-- A place in the order that a filter asks for, with the type that its column is resolved as. -/
structure Place where
  expression : String
  type : ValueType
  key : SortKey
deriving DecidableEq, Repr

/-- An entry has the place that was asked for, with its column resolved. -/
def Place.Takes (table : String) (d : Dialect) (p : Place) (e : SortEntry) : Prop :=
  d.resolve ⟨table, p.expression⟩ p.type = .ok e.column ∧ e.key = p.key

/-- A place that was asked for has one entry. -/
theorem Place.rightUnique_takes (table : String) (d : Dialect) : Relator.RightUnique (Place.Takes table d) := by
  rintro p ⟨column, key⟩ ⟨column', key'⟩ h h'
  have hcolumn : column = column' := Except.ok.inj (h.1.symm.trans h'.1)
  have hkey : key = key' := h.2.trans h'.2.symm
  rw [hcolumn, hkey]

/-- The place that a call asks for, if it binds a filter that does. -/
def Call.place? (c : Call) : Option Place :=
  match c.binding? with
  | some ⟨_, expression, some (_, .ok d)⟩ => d.sort.map fun key => ⟨expression, d.type, key⟩
  | _ => none

/-! ### Places are taken one after the other -/

section

variable {c : Call} {table config : String} {d : Dialect}

theorem Call.place?_eq {b : Binding} {findings : List Finding} {demand : Action.Demand} (hb : c.binding? = some b)
    (hr : b.request = some (findings, .ok demand)) :
    c.place? = demand.sort.map fun key => ⟨b.column, demand.type, key⟩ := by
  obtain ⟨kind, column, request⟩ := b
  cases hr
  rw [place?, hb]

/-- What a call adds to the order is the place that it asks for. -/
private theorem Call.takes_of_addition {n n' : Naming} {a : Addition}
    (h : c.addition table d config n = .ok (a, n')) :
    List.Forall₂ (Place.Takes table d) c.place?.toList a.sort.toList := by
  unfold addition at h
  cases hb : c.binding? with
  | some b =>
    obtain ⟨kind, expression, request⟩ := b
    rw [hb] at h
    cases request with
    | none =>
      cases h
      rw [place?, hb]
      exact .nil
    | some r =>
      obtain ⟨findings, demand⟩ := r
      obtain ⟨demand, rfl, hresolve⟩ := bind_eq_ok.1 h
      obtain ⟨sql, hsql, htests⟩ := bind_eq_ok.1 hresolve
      obtain ⟨tests, -, ha⟩ := bind_eq_ok.1 htests
      cases ha
      rw [place?_eq hb rfl]
      cases demand.sort with
      | none => exact .nil
      | some key => exact .cons ⟨hsql, rfl⟩ .nil
  | none =>
    have hplace : c.place? = none := by rw [place?, hb]
    have hsort : a.sort = none := by
      rw [hb] at h
      cases c with
      | bindBoolean | bindNumeric | bindDate | bindEnum | bindFlags | bindId | bindText => cases hb
      | selectAll | selectCount | selectColumns | paginate =>
        cases h
        rfl
      | search columns f =>
        cases f with
        | none =>
          cases h
          rfl
        | some f =>
          obtain ⟨resolved, -, ha⟩ := bind_eq_ok.1 h
          cases ha
          rfl
      | searchFullText columns f =>
        cases f with
        | none =>
          cases h
          rfl
        | some f =>
          obtain ⟨resolved, -, hcondition⟩ := bind_eq_ok.1 h
          obtain ⟨condition, -, ha⟩ := bind_eq_ok.1 hcondition
          cases ha
          rfl
    rw [hplace, hsort]
    exact .nil

private theorem takes_of_additions {n : Naming} {calls : List Call} {added : List Addition}
    (h : additions table d config n calls = .ok added) :
    List.Forall₂ (Place.Takes table d) (calls.filterMap Call.place?) (added.filterMap Addition.sort) := by
  induction calls generalizing n added with
  | nil =>
    cases h
    exact .nil
  | cons c calls ih =>
    obtain ⟨⟨a, n'⟩, ha, hrest⟩ := bind_eq_ok.1 h
    obtain ⟨rest, hadded, hcons⟩ := bind_eq_ok.1 hrest
    cases hcons
    rw [← Query.toList_append_filterMap, ← Query.toList_append_filterMap]
    exact List.rel_append (Call.takes_of_addition ha) (ih hadded)

end

namespace Query

variable {q : Query}

/-- After calls a query has the places that those of them that succeeded asked for, behind those that it had. -/
theorem places_of_run (q : Query) (calls : List Call) :
    ∃ entries, (q.run (calls.map .call)).sorts = q.sorts ++ entries ∧
      List.Forall₂ (Place.Takes q.table q.dialect) ((q.succeeded calls).filterMap Call.place?) entries := by
  obtain ⟨added, hadded, hext⟩ := q.extends_run calls
  exact ⟨_, hext.sorts, takes_of_additions hadded⟩

/-! ### No column has two places -/

theorem isSortedBy_iff {sql : String} : q.isSortedBy sql = true ↔ sql ∈ q.sorts.map SortEntry.column := by
  simp [isSortedBy]

/-- No column of a reachable query has two places, as one that has a place is refused another. -/
theorem Reachable.nodup_sorts (h : q.Reachable) : (q.sorts.map SortEntry.column).Nodup := by
  refine h.of_changes (P := fun q => (q.sorts.map SortEntry.column).Nodup) ?_ ?_ fun _ _ => List.nodup_nil
  · intro q hq
    obtain ⟨-, -, -, hblank⟩ := hq.isBlank
    rw [congrArg Query.sorts hblank]
    exact List.nodup_nil
  · intro q q' hq hchange
    cases hchange with
    | skip | select | search | searchFullText | paginate => exact hq
    | @bind expression type sql sort tests _ _ hfree =>
      cases sort with
      | none =>
        rw [sortedBy, sorts_emitAll]
        exact hq
      | some key =>
        have hnew : sql ∉ q.sorts.map SortEntry.column := by
          rw [← isSortedBy_iff]
          simpa using hfree
        rw [sortedBy, sorts_emitAll, List.map_append, List.map_singleton, List.nodup_append]
        refine ⟨hq, List.pairwise_singleton _ _, fun a ha b hb hab => hnew ?_⟩
        obtain rfl : b = sql := List.mem_singleton.1 hb
        rwa [hab] at ha

/-! ### Places are sorted by position -/

section

variable (q)

theorem orderedSorts_perm : q.orderedSorts.Perm q.sorts := List.mergeSort_perm ..

private theorem before_trans (a b c : SortEntry) (hab : decide (a.key.position ≤ b.key.position) = true)
    (hbc : decide (b.key.position ≤ c.key.position) = true) : decide (a.key.position ≤ c.key.position) = true := by
  rw [decide_eq_true_eq] at hab hbc ⊢
  exact Int32.le_trans hab hbc

private theorem before_total (a b : SortEntry) :
    (decide (a.key.position ≤ b.key.position) || decide (b.key.position ≤ a.key.position)) = true := by
  simpa using Int32.le_total a.key.position b.key.position

theorem pairwise_orderedSorts : q.orderedSorts.Pairwise fun a b => a.key.position ≤ b.key.position :=
  (List.pairwise_mergeSort before_trans before_total q.sorts).imp of_decide_eq_true

/-- What stands at one position stays in the order in which it was added. -/
theorem pair_sublist_orderedSorts {a b : SortEntry} (h : [a, b].Sublist q.sorts)
    (hposition : a.key.position = b.key.position) : [a, b].Sublist q.orderedSorts :=
  List.pair_sublist_mergeSort before_trans before_total (decide_eq_true (Int32.le_of_eq hposition)) h

end

end Query

/-! ### Steps that lead to a count -/

/-- The call that a step is. -/
def Step.call? : Step → Option Call
  | call c => some c
  | _ => none

namespace Query

variable {q : Query}

/-- A count stays one. -/
private theorem Reachable.selection_run (h : q.Reachable) (hs : q.selection = some .count) (steps : List Step) :
    (q.run steps).selection = some .count := by
  induction steps generalizing q with
  | nil => exact hs
  | cons s steps ih =>
    refine ih (h.step s) ?_
    cases s with
    | call c => exact (h.keeps_perform c).selection _ hs
    | copy => exact hs
    | count => rfl

/-- Steps to a query that does not count rows are calls but for copies. -/
private theorem Reachable.run_eq_run_calls (h : q.Reachable) {steps : List Step}
    (hs : (q.run steps).selection ≠ some .count) : q.run steps = q.run ((steps.filterMap Step.call?).map .call) := by
  induction steps generalizing q with
  | nil => rfl
  | cons s steps ih =>
    have hrest := ih (h.step s) hs
    cases s with
    | call c => exact hrest
    | copy => exact hrest
    | count => exact absurd ((h.step .count).selection_run rfl steps) hs

/-- The statement of a query to which steps lead from its creation is ordered by just the places that the calls which
succeeded asked for: each column has one item, with the direction of its own place, and the items stand in the order of
their positions, those of one position in the order in which they were asked for.  The statement of a count is not
ordered, whatever its calls asked for. -/
theorem order_is_stable (h : q.Created) (steps : List Step) {s : Selection} (hs : (q.run steps).selection = some s) :
    let q' := q.run steps
    let places := (q.succeeded (steps.filterMap Step.call?)).filterMap Call.place?
    let front := "SELECT " ++ s.sql q'.table ++ " FROM " ++ q'.table ++
      (if q'.conditions = [] then "" else " WHERE " ++ " AND ".intercalate (q'.conditions.map Condition.sql))
    let back := if q'.paging = none then "" else " " ++ q'.dialect.paging "_Limit" "_Offset"
    ∃ st, q'.render = .ok st ∧
      (s = .count → st.sql = front ++ back) ∧
      (s ≠ .count → ∃ entries items, List.Forall₂ (Place.Takes q.table q.dialect) places entries ∧
        items.Perm entries ∧ (items.map SortEntry.column).Nodup ∧
        (items.Pairwise fun a b => a.key.position.toInt ≤ b.key.position.toInt) ∧
        (∀ a b, [a, b].Sublist entries → a.key.position = b.key.position → [a, b].Sublist items) ∧
        st.sql = front ++ (if items = [] then "" else " ORDER BY " ++ ", ".intercalate
          (items.map fun e => e.column ++ if e.key.descending then " DESC" else " ASC")) ++ back) := by
  intro q' places front back
  have hq : q.Reachable := .created h
  obtain ⟨st, hrender, -, hsql⟩ := render_of_selection hs
  refine ⟨st, hrender, fun hcount => ?_, fun hcount => ?_⟩
  · rw [hsql]
    simp only [hcount, true_or, ↓reduceIte, String.append_empty]
    rw [← hcount]
  · have hne : q'.selection ≠ some .count := by
      rw [hs]
      exact fun h => hcount (Option.some.inj h)
    have hcalls : q' = q.run ((steps.filterMap Step.call?).map .call) := hq.run_eq_run_calls hne
    obtain ⟨entries, hentries, htakes⟩ := q.places_of_run (steps.filterMap Step.call?)
    obtain ⟨-, -, -, hblank⟩ := h.isBlank
    rw [← hcalls, congrArg Query.sorts hblank, List.nil_append] at hentries
    have hnodup := (hq.run steps).nodup_sorts
    have hperm := orderedSorts_perm q'
    have hitems : q'.sorts = [] ↔ q'.orderedSorts = [] :=
      ⟨fun h => (h ▸ hperm).eq_nil, fun h => (h ▸ hperm).nil_eq.symm⟩
    refine ⟨entries, q'.orderedSorts, htakes, hentries ▸ hperm, ?_, ?_, ?_, ?_⟩
    · exact (hperm.map SortEntry.column).nodup_iff.2 hnodup
    · exact (pairwise_orderedSorts q').imp Int32.le_iff_toInt_le.1
    · rw [← hentries]
      exact fun a b => pair_sublist_orderedSorts q'
    · have hor : (s = .count ∨ (q.run steps).sorts = []) ↔ q'.orderedSorts = [] := by
        rw [← hitems]
        exact or_iff_right hcount
      rw [hsql]
      simp only [hor]
      rfl

/-- A negative position comes first, two equal ones stay as they were asked for, and a second place for the age is
refused; a count with the same places is not ordered. -/
theorem order_is_stable_users :
    let q : Query := { table := "users", dialect := .postgres, settings := {} }
    let steps : List Step := [.call .selectAll,
      .call (.bindText "name" (some { eq := some "Bo", sort := some (.asc 0) }) {}),
      .call (.bindNumeric .int32 "age" (some { gte := some (18 : Int32), sort := some (.desc (-1)) }) []),
      .call (.bindNumeric .int32 "age" (some { lt := some (65 : Int32), sort := some (.asc 2) }) []), .copy,
      .call (.bindNumeric .int32 "data->>'age'" (some { lte := some (9 : Int32), sort := some (.asc 0) }) [])]
    q.Created ∧ (q.run steps).selection = some .all ∧
      (∃ st, (q.run steps).render = .ok st ∧ st.sql = "SELECT users.* FROM users WHERE " ++
        "LOWER(users.name) = @users_name_eq_0 AND users.age >= @users_age_gte_0 AND " ++
        "(users.data->>'age')::integer <= @users_data_age_lte_0 " ++
        "ORDER BY users.age DESC, users.name ASC, (users.data->>'age')::integer ASC") ∧
      ∃ st, (q.run (.call .selectCount :: steps)).render = .ok st ∧ st.sql = "SELECT COUNT(*) FROM users WHERE " ++
        "LOWER(users.name) = @users_name_eq_0 AND users.age >= @users_age_gte_0 AND " ++
        "(users.data->>'age')::integer <= @users_data_age_lte_0" := by
  intro q steps
  have hnew : Query.new "users" .postgres = .ok q := rfl
  have hall : (q.run steps).selection = some .all := by decide +kernel
  have hcount : (q.run (.call .selectCount :: steps)).selection = some .count := by decide +kernel
  refine ⟨.new hnew, hall, ?_, ?_⟩
  · obtain ⟨st, hrender, -, hsql⟩ := order_is_stable (.new hnew) _ hall
    obtain ⟨entries, items, htakes, hperm, -, hpositions, hstable, hsql⟩ := hsql nofun
    refine ⟨st, hrender, ?_⟩
    let name : SortEntry := ⟨"users.name", .asc 0⟩
    let age : SortEntry := ⟨"users.age", .desc (-1)⟩
    let path : SortEntry := ⟨"(users.data->>'age')::integer", .asc 0⟩
    have hplaces : (q.succeeded (steps.filterMap Step.call?)).filterMap Call.place? =
        [⟨"name", .text, .asc 0⟩, ⟨"age", .int32, .desc (-1)⟩, ⟨"data->>'age'", .int32, .asc 0⟩] := by
      decide +kernel
    have htaken : List.Forall₂ (Place.Takes q.table q.dialect)
        [⟨"name", .text, .asc 0⟩, ⟨"age", .int32, .desc (-1)⟩, ⟨"data->>'age'", .int32, .asc 0⟩] [name, age, path] :=
      .cons ⟨by decide +kernel, rfl⟩ (.cons ⟨by decide +kernel, rfl⟩ (.cons ⟨by decide +kernel, rfl⟩ .nil))
    rw [hplaces] at htakes
    have hentries := (Place.rightUnique_takes q.table q.dialect).forall₂ htakes htaken
    rw [hentries] at hperm hstable
    -- one permutation only has its positions in order and leaves the two equal ones as they are
    have honly : ∀ l ∈ [name, age, path].permutations',
        (l.Pairwise fun a b => a.key.position.toInt ≤ b.key.position.toInt) → [name, path].Sublist l →
        l = [age, name, path] := by
      decide +kernel
    have hitems := honly items (List.mem_permutations'.2 hperm) hpositions (hstable name path (by decide) rfl)
    rw [hsql, hitems]
    decide +kernel
  · obtain ⟨st, hrender, hsql, -⟩ := order_is_stable (.new hnew) _ hcount
    refine ⟨st, hrender, ?_⟩
    rw [hsql rfl]
    decide +kernel

end Query

end SqlFilter
