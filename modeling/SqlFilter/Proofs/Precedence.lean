import SqlFilter.Proofs.Emitted

/-!
# The order of checks

A call that puts a filter to columns is refused with the error of the first check that fails.  The checks come in one
order for all these calls (`Query.checks`): columns, filter, type of the values, full text search, casts and place in
the order.  There are no others, since a list that passed its check can always be bound as an array
(`Query.first_failing_check_answers`).  An absent filter is refused or skipped without a look at the columns.
-/

namespace SqlFilter

/-! ### What is checked -/

/-- What a filter asks for that is there. -/
structure Offer where
  findings : List Finding
  /-- The type of the values, or the name of a type of numbers that cannot be bound. -/
  type : Except String ValueType
  sort : Option SortKey := none
  needsFullText : Bool := false

/-- A filter that is put to columns, if there is one. -/
structure Request where
  kind : FilterKind
  columns : List String
  offer : Option Offer

/-- What the columns are called in errors. -/
def Request.label (r : Request) : String := ",".intercalate r.columns

/-- The type that numbers are bound as, or the name of their own type if they cannot be bound. -/
def NumericType.bound : NumericType → Except String ValueType
  | int8 => .error "i8"
  | uint8 => .error "u8"
  | uint16 => .error "u16"
  | uint32 => .error "u32"
  | uint64 => .error "u64"
  | int16 => .ok .int16
  | int32 => .ok .int32
  | int64 => .ok .int64
  | single => .ok .single
  | double => .ok .double
  | decimal => .ok .decimal

def DateType.bound : DateType → ValueType
  | date => .date
  | timestamp => .timestamp
  | instant => .instant

def EnumMode.bound : EnumMode → ValueType
  | byValue => .int32
  | byName | byValueAsText => .text

/-- The filter that a call puts to columns. -/
def Call.request? : Call → Option Request
  | bindBoolean column f => some ⟨.boolean, [column], f.map fun f =>
      { findings := f.findings, type := .ok .bool, sort := f.sort }⟩
  | bindNumeric t column f rules => some ⟨.numeric, [column], f.map fun f =>
      { findings := f.findings rules, type := t.bound, sort := f.sort }⟩
  | bindDate t column f rules => some ⟨.date, [column], f.map fun f =>
      { findings := f.findings rules, type := .ok t.bound, sort := f.sort }⟩
  | bindEnum column f rules => some ⟨.enum, [column], f.map fun f =>
      { findings := f.toChoiceFilter.findings rules, type := .ok f.mode.bound, sort := f.sort }⟩
  | bindFlags column f rules => some ⟨.flags, [column], f.map fun f =>
      { findings := f.findings rules, type := .ok .int64, sort := f.sort }⟩
  | bindId column f rules => some ⟨.id, [column], f.map fun f =>
      { findings := ChoiceFilter.findings f rules, type := .ok .uuid, sort := f.sort }⟩
  | bindText column f rules => some ⟨.text, [column], f.map fun f =>
      { findings := f.findings rules, type := .ok .text, sort := f.sort }⟩
  | search columns f => some ⟨.search, columns, f.map fun f => { findings := f.findings, type := .ok .text }⟩
  | searchFullText columns f => some ⟨.fullText, columns, f.map fun f =>
      { findings := f.findings, type := .ok .text, needsFullText := true }⟩
  | _ => none

/-- The fault of a column expression. -/
def columnFault (c : String) : Option QueryError :=
  if c = "" then some (.invalidName c .emptyColumn)
  else if Text.isColumnExpression c then none
  else some (.invalidName c .notColumn)

namespace Query

variable (q : Query)

/-- The fault of a path into a document that the dialect cannot cast to the type. -/
def castFault (type : ValueType) (c : String) : Option QueryError :=
  let column : Column := ⟨q.table, c⟩
  if column.hasPath ∧ q.dialect.castType type = none then some (.unsupportedType type.name column.qualified) else none

/-- The fault of a column, resolved as values of the type, that the order of the rows has already. -/
def sortFault (type : ValueType) (c : String) : Option QueryError :=
  match q.dialect.resolve ⟨q.table, c⟩ type with
  | .ok sql => if ∃ e ∈ q.sorts, e.column = sql then some (.duplicateSort sql) else none
  | .error _ => none

/-- The checks of a filter that is there, in order, each with the fault that it finds. -/
def checks (r : Request) (o : Offer) : List (Option QueryError) :=
  [if r.columns = [] then
      some (.invalidFilter r.kind q.table r.label [⟨"columns", "must name at least one column"⟩])
    else none,
    r.columns.findSome? columnFault,
    if o.findings = [] then none else some (.invalidFilter r.kind q.table r.label o.findings),
    match o.type with
    | .error name => some (.unsupportedType name r.label)
    | .ok _ => none,
    if o.needsFullText ∧ q.dialect.fullText = false then some (.noFullText q.dialect.name) else none,
    o.type.toOption.bind fun type => r.columns.findSome? (q.castFault type),
    o.type.toOption.bind fun type => o.sort.bind fun _ => r.columns.findSome? (q.sortFault type)]

/-- The fault that the first failing check finds. -/
def firstFault (r : Request) (o : Offer) : Option QueryError := (q.checks r o).findSome? id

end Query

/-! ### The error of a chain -/

section

variable {ε α β : Type}

/-- The error of a result, if it is one. -/
def fault? : Except ε α → Option ε
  | .error e => some e
  | .ok _ => none

private theorem fault?_bind (r : Except ε α) (f : α → Except ε β) :
    fault? (r >>= f) = match r with
      | .error e => some e
      | .ok x => fault? (f x) := by
  cases r <;> rfl

private theorem fault?_bind_unit (r : Except ε Unit) (s : Except ε β) :
    fault? (r >>= fun _ => s) = (fault? r).or (fault? s) := by
  cases r <;> rfl

private theorem fault?_forM (f : α → Except ε Unit) (l : List α) :
    fault? (l.forM f) = l.findSome? fun x => fault? (f x) := by
  induction l with
  | nil => rfl
  | cons x l ih =>
    show fault? (f x >>= fun _ => l.forM f) = _
    rw [fault?_bind_unit, ih, List.findSome?_cons]
    cases fault? (f x) <;> rfl

private theorem fault?_mapM (f : α → Except ε β) (l : List α) :
    fault? (l.mapM f) = l.findSome? fun x => fault? (f x) := by
  induction l with
  | nil => rfl
  | cons x l ih =>
    rw [List.mapM_cons, List.findSome?_cons, ← ih]
    cases f x with
    | error e => rfl
    | ok y => cases l.mapM f <;> rfl

end

private theorem fault?_checkColumn (c : String) : fault? (checkColumn c) = columnFault c := by
  unfold checkColumn columnFault
  split
  · rfl
  · split <;> rfl

/-- The table of a query passed its check, so only the columns and the filter can be at fault. -/
private theorem fault?_checkFilter {kind : FilterKind} {table : String} (ht : Text.isIdentifier table = true)
    (columns : List String) (findings : List Finding) :
    fault? (checkFilter kind table columns findings) = (columns.findSome? columnFault).or
      (if findings = [] then none else some (.invalidFilter kind table (",".intercalate columns) findings)) := by
  unfold checkFilter
  rw [checkIdentifier_eq_ok.2 ht, fault?_bind]
  dsimp only
  rw [fault?_bind_unit, fault?_forM]
  simp only [fault?_checkColumn]
  cases findings <;> rfl

/-- Resolving a column fails only if it is a path that cannot be cast. -/
private theorem Query.fault?_resolve (q : Query) (type : ValueType) (c : String) :
    fault? (q.dialect.resolve ⟨q.table, c⟩ type) = q.castFault type c := by
  unfold Dialect.resolve castFault Dialect.cast
  cases hpath : (⟨q.table, c⟩ : Column).hasPath with
  | false => simp [hpath, fault?]
  | true =>
    cases hcast : q.dialect.castType type with
    | none => simp [hpath, fault?]
    | some name => cases q.dialect.casts <;> simp [hpath, fault?]

private theorem Query.sortFault_of_resolve {q : Query} {type : ValueType} {c sql : String}
    (h : q.dialect.resolve ⟨q.table, c⟩ type = .ok sql) :
    q.sortFault type c = if q.isSortedBy sql then some (.duplicateSort sql) else none := by
  unfold sortFault isSortedBy
  rw [h]
  simp [List.any_eq_true]

/-! ### Values can always be bound -/

section

variable {α : Type} (s : Storage α) (column : String)

/-- A list that passed its check is bound as an array: it has a value, and all its values are of one type. -/
theorem memberTests_of_list_eq_nil {same : α → α → Bool} {field : String} (op : Membership)
    {xs : Option (List (Option α))} (h : Finding.list same field xs = []) :
    memberTests s column op xs = .ok (arrayTests s op xs) := by
  cases xs with
  | none => rfl
  | some l =>
    rw [memberTests, arrayValue, Value.array?_map_scalar s (present_ne_nil_of_list_eq_nil h)]
    rfl

theorem RangeFilter.exists_tests [PartialCompare α] {f : RangeFilter α} {rules : List (Rule α)}
    (h : f.findings rules = []) : ∃ tests, f.tests s column = .ok tests := by
  obtain ⟨hin, hnot⟩ := RangeFilter.lists_of_findings_eq_nil h
  unfold RangeFilter.tests
  rw [memberTests_of_list_eq_nil s column .isIn hin, memberTests_of_list_eq_nil s column .notIn hnot]
  exact ⟨_, rfl⟩

theorem EnumFilter.exists_tests [Enumeration α] {f : EnumFilter α} {rules : List (Rule α)}
    (h : f.toChoiceFilter.findings rules = []) : ∃ tests, f.tests column = .ok tests := by
  obtain ⟨hin, hnot⟩ := ChoiceFilter.lists_of_findings_eq_nil h
  unfold EnumFilter.tests
  dsimp only
  rw [memberTests_of_list_eq_nil _ column .isIn hin, memberTests_of_list_eq_nil _ column .notIn hnot]
  exact ⟨_, rfl⟩

end

/-- What a binding asks of its column is what the offer says. -/
def Offer.Meets (column : String) (o : Offer) (findings : List Finding)
    (demand : Except QueryError Action.Demand) : Prop :=
  o.findings = findings ∧ o.needsFullText = false ∧
    match o.type with
    | .error name => demand = .error (.unsupportedType name column)
    | .ok type => ∃ tests, demand = .ok ⟨type, tests, o.sort⟩ ∧ (findings = [] → ∃ ts, tests = .ok ts)

/-- What is asked of a column with a type that can be bound can be tested once the filter has no faults. -/
theorem Offer.Meets.of_ok {column : String} {o : Offer} {findings : List Finding} {d : Action.Demand}
    (h : o.Meets column findings (.ok d)) :
    o.type = .ok d.type ∧ (findings = [] → ∃ tests, d.tests = .ok tests) := by
  obtain ⟨-, -, htype⟩ := h
  cases ho : o.type with
  | error name =>
    rw [ho] at htype
    cases htype
  | ok type =>
    rw [ho] at htype
    obtain ⟨tests, hd, htests⟩ := htype
    cases hd
    exact ⟨rfl, htests⟩

private theorem Offer.rel_map {φ : Type} {column : String} {offer : φ → Offer}
    {request : φ → List Finding × Except QueryError Action.Demand}
    (h : ∀ f, (offer f).Meets column (request f).1 (request f).2) (f : Option φ) :
    Option.Rel (fun o r => o.Meets column r.1 r.2) (f.map offer) (f.map request) := by
  cases f with
  | none => exact .none
  | some f => exact .some (h f)

private theorem NumericType.bound_eq (t : NumericType) :
    t.bound = match t.storage? with
      | none => .error t.name
      | some s => .ok s.type := by
  cases t <;> rfl

private theorem DateType.bound_eq (t : DateType) : t.storage.type = t.bound := by
  cases t <;> rfl

private theorem EnumMode.bound_eq (m : EnumMode) : m.type = m.bound := by
  cases m <;> rfl

/-- A call that binds a filter requests what its binding asks for. -/
theorem Call.request?_of_binding {c : Call} {b : Binding} (h : c.binding? = some b) :
    ∃ r, c.request? = some r ∧ r.kind = b.kind ∧ r.columns = [b.column] ∧
      Option.Rel (fun o request => o.Meets b.column request.1 request.2) r.offer b.request := by
  cases c with
  | selectAll | selectCount | selectColumns | search | searchFullText | paginate => cases h
  | bindBoolean column f | bindFlags column f rules | bindId column f rules | bindText column f rules =>
    cases h
    refine ⟨_, rfl, rfl, rfl, Offer.rel_map (fun f => ?_) f⟩
    exact ⟨rfl, rfl, _, rfl, fun _ => ⟨_, rfl⟩⟩
  | bindNumeric t column f rules =>
    cases h
    refine ⟨_, rfl, rfl, rfl, Offer.rel_map (fun f => ⟨rfl, rfl, ?_⟩) f⟩
    dsimp only
    rw [t.bound_eq]
    cases t.storage? with
    | none => rfl
    | some s => exact ⟨_, rfl, f.exists_tests s column⟩
  | bindDate t column f rules =>
    cases h
    refine ⟨_, rfl, rfl, rfl, Offer.rel_map (fun f => ⟨rfl, rfl, ?_⟩) f⟩
    dsimp only
    rw [t.bound_eq]
    exact ⟨_, rfl, f.exists_tests t.storage column⟩
  | bindEnum column f rules =>
    cases h
    refine ⟨_, rfl, rfl, rfl, Offer.rel_map (fun f => ⟨rfl, rfl, ?_⟩) f⟩
    dsimp only
    rw [f.mode.bound_eq]
    exact ⟨_, rfl, f.exists_tests column⟩

/-! ### Outcomes and first faults -/

/-- The answer to a call with the first fault of its checks. -/
def answer : Option QueryError → Except QueryError Unit
  | none => .ok ()
  | some e => .error e

private theorem settle_fst (q : Query) (r : Except QueryError Query) : (settle q r).1 = answer (fault? r) := by
  cases r <;> rfl

namespace Query

variable {q : Query}

private theorem findSome?_id_cons (e : Option QueryError) (l : List (Option QueryError)) :
    (e :: l).findSome? id = e.or (l.findSome? id) := by
  cases e <;> rfl

/-- A filter without faults can fail at the cast of its column and at its place in the order only. -/
private theorem fault?_resolve_bind (type : ValueType) (column : String) (sort : Option SortKey) (f : String → Query) :
    fault? (q.dialect.resolve ⟨q.table, column⟩ type >>= fun sql =>
      if sort.isSome && q.isSortedBy sql then Except.error (.duplicateSort sql) else .ok (f sql)) =
      ([column].findSome? (q.castFault type)).or (sort.bind fun _ => [column].findSome? (q.sortFault type)) := by
  have hcast := q.fault?_resolve type column
  rw [fault?_bind, List.findSome?_singleton, ← hcast]
  cases hsql : q.dialect.resolve ⟨q.table, column⟩ type with
  | error e => rfl
  | ok sql =>
    cases sort with
    | none => rfl
    | some key =>
      simp only [Option.isSome_some, Bool.true_and, Option.bind_some, List.findSome?_singleton,
        sortFault_of_resolve hsql]
      cases q.isSortedBy sql <;> rfl

private theorem fault?_bindOutcome (ht : Text.isIdentifier q.table = true) {r : Request} {o : Offer}
    {column : String} {findings : List Finding} {demand : Except QueryError Action.Demand}
    (hcolumns : r.columns = [column]) (h : o.Meets column findings demand) :
    fault? (q.bindOutcome r.kind column (some (findings, demand)) Prod.fst Prod.snd) = q.firstFault r o := by
  obtain ⟨rfl, hfull, htype⟩ := h
  have hlabel : r.label = column := by rw [Request.label, hcolumns]; rfl
  show fault? (checkFilter r.kind q.table [column] o.findings >>= fun _ => _) = _
  rw [fault?_bind_unit, fault?_checkFilter ht, Option.or_assoc]
  simp only [firstFault, checks, findSome?_id_cons, hcolumns, hlabel, hfull, Option.none_or, List.cons_ne_nil,
    if_false, Bool.false_eq_true, false_and]
  congr 1
  -- a filter with faults ends the chain; of the rest nothing but the tests needs that there are none
  by_cases hf : o.findings = []
  · rw [if_pos hf, if_pos hf, Option.none_or, Option.none_or]
    cases htype' : o.type with
    | error name =>
      rw [htype'] at htype
      rw [htype]
      rfl
    | ok type =>
      rw [htype'] at htype
      obtain ⟨tests, rfl, htests⟩ := htype
      obtain ⟨ts, rfl⟩ := htests hf
      refine (fault?_resolve_bind type column o.sort fun sql => _).trans ?_
      simp [Except.toOption]
  · rw [if_neg hf, if_neg hf]
    rfl

/-- A search fails at its columns, then at its filter, and goes on as `k` after that. -/
private theorem fault?_prepareSearch {φ : Type} (ht : Text.isIdentifier q.table = true) (kind : FilterKind)
    (columns : List String) (f : φ) (findings : φ → List Finding) (k : Option φ → Except QueryError Query) :
    fault? (q.prepareSearch kind columns (some f) findings >>= k) =
      (if columns = [] then
        some (.invalidFilter kind q.table (",".intercalate columns) [⟨"columns", "must name at least one column"⟩])
      else none).or ((columns.findSome? columnFault).or
        ((if findings f = [] then none
          else some (.invalidFilter kind q.table (",".intercalate columns) (findings f))).or
            (fault? (k (some f))))) := by
  cases columns with
  | nil => rfl
  | cons column columns =>
    show fault? ((checkFilter kind q.table (column :: columns) (findings f) >>= fun _ => .ok (some f)) >>= k) = _
    rw [bind_assoc, fault?_bind_unit, fault?_checkFilter ht, Option.or_assoc, if_neg (List.cons_ne_nil _ _)]
    rfl

/-- A search whose columns are resolved succeeds. -/
private theorem fault?_resolveTexts (columns : List String) {k : List String → Except QueryError Query}
    (h : ∀ resolved, fault? (k resolved) = none) :
    fault? (q.resolveTexts columns >>= k) = columns.findSome? (q.castFault .text) := by
  have hcast : fault? (q.resolveTexts columns) = columns.findSome? (q.castFault .text) := by
    rw [resolveTexts, fault?_mapM]
    simp only [fault?_resolve]
  rw [fault?_bind, ← hcast]
  cases q.resolveTexts columns with
  | error e => rfl
  | ok resolved => exact h resolved

private theorem fault?_searchOutcome (ht : Text.isIdentifier q.table = true) (columns : List String)
    (f : SearchFilter) :
    fault? (q.searchOutcome columns (some f)) =
      q.firstFault ⟨.search, columns, none⟩ { findings := f.findings, type := .ok .text } := by
  unfold searchOutcome
  rw [fault?_prepareSearch ht]
  dsimp only
  rw [fault?_resolveTexts columns fun resolved => rfl]
  simp [firstFault, checks, findSome?_id_cons, Request.label, Except.toOption]

private theorem fault?_searchFullTextOutcome (ht : Text.isIdentifier q.table = true) (columns : List String)
    (f : FullTextFilter) :
    fault? (q.searchFullTextOutcome columns (some f)) = q.firstFault ⟨.fullText, columns, none⟩
      { findings := f.findings, type := .ok .text, needsFullText := true } := by
  unfold searchFullTextOutcome
  rw [fault?_prepareSearch ht]
  dsimp only
  -- the dialect is asked before the columns are resolved, and nothing can fail after that
  cases hfull : q.dialect.fullText with
  | false => simp [firstFault, checks, findSome?_id_cons, Request.label, Except.toOption, hfull, fault?]
  | true =>
    have hcondition : ∀ resolved, fault? (do
        let c ← q.dialect.fullTextSearch resolved (f.config.getD q.settings.searchConfig) f.form
          ("_FullText_" ++ toString q.fullTextSearches) f.term
        return q.searchedFullText c) = none := by
      intro resolved
      unfold Dialect.fullTextSearch
      exact (congrArg (fun r => fault? (r >>= fun c => .ok (q.searchedFullText c))) (if_pos hfull)).trans rfl
    rw [Bool.not_true, if_neg Bool.false_ne_true, fault?_resolveTexts columns hcondition]
    simp [firstFault, checks, findSome?_id_cons, Request.label, Except.toOption, hfull]

private theorem bindOutcome_none {φ : Type} (kind : FilterKind) (column : String) (findings : φ → List Finding)
    (demand : φ → Except QueryError Action.Demand) :
    q.bindOutcome kind column none findings demand =
      if q.settings.allowAbsent then .ok q else .error (.missingFilter kind q.table column) := by
  unfold bindOutcome
  cases q.settings.allowAbsent <;> rfl

private theorem prepareSearch_none {φ : Type} (kind : FilterKind) (columns : List String)
    (findings : φ → List Finding) :
    q.prepareSearch kind columns none findings = if q.settings.allowAbsent then .ok none
      else .error (.missingFilter kind q.table (",".intercalate columns)) := by
  unfold prepareSearch
  cases q.settings.allowAbsent <;> rfl

/-- A call without a filter has an outcome that does not depend on its columns. -/
theorem outcome_of_absent {c : Call} {r : Request} (hr : c.request? = some r) (ho : r.offer = none) :
    c.outcome q = if q.settings.allowAbsent then .ok q else .error (.missingFilter r.kind q.table r.label) := by
  cases c with
  | selectAll | selectCount | selectColumns | paginate => cases hr
  | bindBoolean column f | bindNumeric t column f rules | bindDate t column f rules | bindEnum column f rules
  | bindFlags column f rules | bindId column f rules | bindText column f rules =>
    cases hr
    cases f with
    | some f => cases ho
    | none => exact bindOutcome_none ..
  | search columns f | searchFullText columns f =>
    cases hr
    cases f with
    | some f => cases ho
    | none =>
      simp only [Call.outcome, searchOutcome, searchFullTextOutcome, prepareSearch_none]
      cases q.settings.allowAbsent <;> rfl

private theorem fault?_outcome (ht : Text.isIdentifier q.table = true) {c : Call} {r : Request} {o : Offer}
    (hr : c.request? = some r) (ho : r.offer = some o) : fault? (c.outcome q) = q.firstFault r o := by
  cases hb : c.binding? with
  | some b =>
    obtain ⟨r', hr', hkind, hcolumns, hrel⟩ := Call.request?_of_binding hb
    cases hr.symm.trans hr'
    rw [ho] at hrel
    rw [Call.outcome_of_binding hb, ← hkind]
    generalize b.request = request at hrel
    cases hrel with
    | some hmeets => exact fault?_bindOutcome ht hcolumns hmeets
  | none =>
    cases c with
    | bindBoolean | bindNumeric | bindDate | bindEnum | bindFlags | bindId | bindText => cases hb
    | selectAll | selectCount | selectColumns | paginate => cases hr
    | search columns f =>
      cases hr
      cases f with
      | none => cases ho
      | some f =>
        cases ho
        exact fault?_searchOutcome ht columns f
    | searchFullText columns f =>
      cases hr
      cases f with
      | none => cases ho
      | some f =>
        cases ho
        exact fault?_searchFullTextOutcome ht columns f

private theorem exists_tests_of_binding {c : Call} {b : Binding} {d : Action.Demand} (hb : c.binding? = some b)
    (h : b.request = some ([], .ok d)) : ∃ tests, d.tests = .ok tests := by
  obtain ⟨r, -, -, -, hrel⟩ := Call.request?_of_binding hb
  rw [h] at hrel
  generalize r.offer = offer at hrel
  cases hrel with
  | some hmeets => exact hmeets.of_ok.2 rfl

/-- A call that requests something is answered with the fault of the first check that fails, if there is one.  An absent
filter is skipped or refused, whatever the columns are.  Checks of the bound values are not among the checks, because
they cannot fail once the filter has no faults. -/
theorem first_failing_check_answers (h : q.Reachable) {c : Call} {r : Request} (hr : c.request? = some r) :
    (r.offer = none → c.perform q =
      (if q.settings.allowAbsent then .ok () else .error (.missingFilter r.kind q.table r.label), q)) ∧
    (∀ o ∈ r.offer, (c.perform q).1 = answer (q.firstFault r o)) ∧
    ∀ b ∈ c.binding?, ∀ d, b.request = some ([], .ok d) → ∃ tests, d.tests = .ok tests := by
  have ht : Text.isIdentifier q.table = true := h.wellFormed.table
  rw [Call.perform_eq]
  refine ⟨fun ho => ?_, fun o ho => ?_, fun b hb d hd => exists_tests_of_binding hb hd⟩
  · rw [outcome_of_absent hr ho]
    cases q.settings.allowAbsent <;> rfl
  · rw [settle_fst, fault?_outcome ht hr ho]

/-- The faults of a filter come before the missing cast of its column. -/
theorem first_failing_check_answers_ages :
    let q : Query := { table := "users", dialect := .ansi, settings := {} }
    let c : Call := .bindNumeric .int64 "meta->>'age'"
      (some { eq := some 1, neq := some 2, gt := some 3, lte := some 2, sort := some (.asc 0) }) []
    q.Reachable ∧ (∃ r, c.request? = some r ∧ r.offer.isSome) ∧
      q.castFault .int64 "meta->>'age'" = some (.unsupportedType "i64" "users.meta->>'age'") ∧
      (c.perform q).1 = .error (.invalidFilter .numeric "users" "meta->>'age'"
        [⟨"eq/neq", "eq and neq are mutually exclusive"⟩, ⟨"gt/lte", "gt must be less than or equal to lte"⟩]) := by
  intro q c
  have hknown : Dialect.ansi ∈ Dialect.known := by simp [Dialect.known]
  have hnew : withDialect "users" .ansi = .ok q := rfl
  have hq : q.Reachable := .created (.withDialect hknown hnew)
  refine ⟨hq, ⟨_, rfl, rfl⟩, by decide +kernel, ?_⟩
  rw [(first_failing_check_answers hq (c := c) rfl).2.1 _ rfl]
  rfl

/-- A type of numbers that cannot be bound is refused although the filter asks for nothing. -/
example : ((Call.bindNumeric .uint8 "age" (some {}) []).perform
    { table := "users", dialect := .ansi, settings := {} }).1 = .error (.unsupportedType "u8" "age") := rfl

end Query

end SqlFilter
