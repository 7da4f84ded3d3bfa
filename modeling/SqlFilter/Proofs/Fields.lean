import Mathlib.Data.List.Forall2
import SqlFilter.Proofs.Binding
import SqlFilter.Proofs.Matching
import SqlFilter.Proofs.ParamNames

/-!
# Fields of bound filters

In PostgreSQL every field of a filter that is set becomes one condition, and this condition has the operator of the
field and binds the value of the field (`SetField.Asks`).  The tests of a filter are those of its fields, in order
(`Test.Fits`).  A list passed its check, so it has no nulls, and its array has every value of it.  So binding a filter
adds one condition for each field that is set, and one parameter for each that has a value
(`Query.binding_drops_and_duplicates_nothing`).
-/

namespace SqlFilter

/-! ### Fields -/

/-- A field of a filter that is set.  The column may be in lower case. -/
inductive SetField
  | compare (lowered : Bool) (sign : String) (v : Value)
  | list (lowered : Bool) (quantifier : String) (type : ValueType) (xs : List (Option type.Carrier))
  | like (operator pattern : String)
  | flag (sign : String) (bits : Int64)
  | null (isNull : Bool)
deriving DecidableEq

namespace SetField

/-- The column as a field looks at it. -/
def target (lowered : Bool) (column : String) : String := if lowered then "LOWER(" ++ column ++ ")" else column

/-- The condition on a column that a field asks for, under any name.  The array for a list has the values of the list,
in order, and nothing else; a list with nulls asks for none. -/
inductive Asks (column : String) : SetField → Condition → Prop
  | compare (lowered : Bool) (sign : String) (v : Value) (name : String) :
    Asks column (compare lowered sign v) ⟨target lowered column ++ " " ++ sign ++ " @" ++ name, some (name, v)⟩
  | list (lowered : Bool) (quantifier : String) {type : ValueType} {xs : List (Option type.Carrier)}
    {ys : List type.Carrier} (name : String) : xs = ys.map some →
    Asks column (list lowered quantifier type xs)
      ⟨target lowered column ++ " " ++ quantifier ++ "(@" ++ name ++ ")", some (name, .array type ys)⟩
  | like (operator pattern name : String) :
    Asks column (like operator pattern) ⟨column ++ " " ++ operator ++ " @" ++ name, some (name, .text pattern)⟩
  | flag (sign : String) (bits : Int64) (name : String) :
    Asks column (flag sign bits) ⟨"(" ++ column ++ " & @" ++ name ++ ") " ++ sign ++ " 0", some (name, .int64 bits)⟩
  | isNull : Asks column (null true) ⟨column ++ " IS NULL", none⟩
  | isNotNull : Asks column (null false) ⟨column ++ " IS NOT NULL", none⟩

section

variable {α : Type} (type : ValueType) (store : α → type.Carrier)

/-- A field that compares the column with a value. -/
def ofValue (sign : String) (x : Option α) : List SetField :=
  x.toList.map fun x => .compare false sign (.scalar type (store x))

/-- A field that looks for the column in a list. -/
def ofList (quantifier : String) (xs : Option (List (Option α))) : List SetField :=
  xs.toList.map fun xs => .list false quantifier type (xs.map (Option.map store))

def ofNull (isNull : Option Bool) : List SetField := isNull.toList.map null

end

section

variable (caseSensitive : Bool)

/-- A text as it is compared: without case it is in lower case, and so is the column. -/
def folded (term : String) : String := if caseSensitive then term else Text.toLower term

/-- A field that compares the column with a text. -/
def ofText (sign : String) (x : Option String) : List SetField :=
  x.toList.map fun term => .compare (!caseSensitive) sign (.text (folded caseSensitive term))

/-- A field that looks for the column in a list of texts. -/
def ofTexts (quantifier : String) (xs : Option (List (Option String))) : List SetField :=
  xs.toList.map fun xs => .list (!caseSensitive) quantifier .text (xs.map (Option.map (folded caseSensitive)))

/-- A field that matches the column with a pattern, put around the escaped text. -/
def ofPattern (wrap : String → String) (x : Option String) : List SetField :=
  x.toList.map fun term =>
    .like (if caseSensitive then "LIKE" else "ILIKE") (wrap (Text.escapeLike (folded caseSensitive term)))

end

end SetField

open SetField

/-- The fields of a filter that are set, in order. -/
def BooleanFilter.fields (f : BooleanFilter) : List SetField :=
  ofValue .bool id "=" f.eq ++ ofValue .bool id "<>" f.neq ++ ofNull f.isNull

def RangeFilter.fields {α : Type} (type : ValueType) (store : α → type.Carrier) (f : RangeFilter α) : List SetField :=
  ofValue type store "=" f.eq ++ ofValue type store "<>" f.neq ++ ofValue type store ">" f.gt ++
    ofValue type store ">=" f.gte ++ ofValue type store "<" f.lt ++ ofValue type store "<=" f.lte ++
    ofList type store "= ANY" f.isIn ++ ofList type store "<> ALL" f.notIn ++ ofNull f.isNull

def ChoiceFilter.fields {α : Type} (type : ValueType) (store : α → type.Carrier) (f : ChoiceFilter α) : List SetField :=
  ofValue type store "=" f.eq ++ ofValue type store "<>" f.neq ++
    ofList type store "= ANY" f.isIn ++ ofList type store "<> ALL" f.notIn ++ ofNull f.isNull

def FlagsFilter.fields {α : Type} [FlagSet α] (f : FlagsFilter α) : List SetField :=
  f.has.toList.map (fun x => .flag "<>" (FlagSet.bits x)) ++
    f.hasNot.toList.map (fun x => .flag "=" (FlagSet.bits x)) ++ ofNull f.isNull

def TextFilter.fields (f : TextFilter) : List SetField :=
  let cs := f.caseSensitive
  ofText cs "=" f.eq ++ ofText cs "<>" f.neq ++ ofPattern cs (fun t => "%" ++ t ++ "%") f.contains ++
    ofPattern cs (fun t => t ++ "%") f.startsWith ++ ofPattern cs (fun t => "%" ++ t) f.endsWith ++
    ofTexts cs "= ANY" f.isIn ++ ofTexts cs "<> ALL" f.notIn ++ ofNull f.isNull

/-- The fields that are bound to a column, as values of a type. -/
structure Asked where
  column : String
  type : ValueType
  fields : List SetField

namespace Call

/-- The call binds a filter that is there. -/
def bindsPresent : Call → Bool
  | bindBoolean _ f => f.isSome
  | bindNumeric _ _ f _ => f.isSome
  | bindDate _ _ f _ => f.isSome
  | bindEnum _ f _ => f.isSome
  | bindFlags _ f _ => f.isSome
  | bindId _ f _ => f.isSome
  | bindText _ f _ => f.isSome
  | _ => false

/-- What a call that binds a filter asks of a column.  Numbers and dates are bound as they are, members of an
enumeration by mode. -/
def asked? : Call → Option Asked
  | bindBoolean column (some f) => some ⟨column, .bool, f.fields⟩
  | bindNumeric .int16 column (some f) _ => some ⟨column, .int16, f.fields .int16 id⟩
  | bindNumeric .int32 column (some f) _ => some ⟨column, .int32, f.fields .int32 id⟩
  | bindNumeric .int64 column (some f) _ => some ⟨column, .int64, f.fields .int64 id⟩
  | bindNumeric .single column (some f) _ => some ⟨column, .single, f.fields .single id⟩
  | bindNumeric .double column (some f) _ => some ⟨column, .double, f.fields .double id⟩
  | bindNumeric .decimal column (some f) _ => some ⟨column, .decimal, f.fields .decimal id⟩
  | bindDate .date column (some f) _ => some ⟨column, .date, f.fields .date id⟩
  | bindDate .timestamp column (some f) _ => some ⟨column, .timestamp, f.fields .timestamp id⟩
  | bindDate .instant column (some f) _ => some ⟨column, .instant, f.fields .instant id⟩
  | bindEnum column (some f) _ => some <|
    match f.mode with
    | .byValue => ⟨column, .int32, f.toChoiceFilter.fields .int32 Enumeration.number⟩
    | .byName => ⟨column, .text, f.toChoiceFilter.fields .text Enumeration.name⟩
    | .byValueAsText => ⟨column, .text, f.toChoiceFilter.fields .text fun m =>
        Text.integer (Enumeration.number m).toInt⟩
  | bindFlags column (some f) _ => some ⟨column, .int64, f.fields⟩
  | bindId column (some f) _ => some ⟨column, .uuid, f.fields .uuid id⟩
  | bindText column (some f) _ => some ⟨column, .text, f.fields⟩
  | _ => none

end Call

/-! ### Tests fit fields -/

/-- The condition of a test is the one that a field asks for, on any column and under any name. -/
def Test.Fits (f : SetField) (t : Test) : Prop :=
  ∀ column name, f.Asks column (t.condition .postgres column name)

namespace SetField

variable {column name : String}

/-- The sign of a test against a list. -/
def quantifier : Membership → String
  | .isIn => "= ANY"
  | .notIn => "<> ALL"

/-- The sign of a test of bits. -/
def flagSign : FlagTest → String
  | .has => "<>"
  | .hasNot => "="

theorem asks_comparison (lowered : Bool) (op : Comparison) (v : Value) :
    Asks column (.compare lowered op.sign v) (Dialect.postgres.comparison op (target lowered column) name v) := by
  have htext : (Dialect.postgres.comparison op (target lowered column) name v).sql =
      target lowered column ++ " " ++ op.sign ++ " @" ++ name := by
    apply String.toList_inj.1
    simp [Dialect.comparison, Dialect.placeholder, Dialect.postgres]
  have := @Asks.compare column lowered op.sign v name
  rwa [← htext] at this

theorem asks_membership (lowered : Bool) (op : Membership) {type : ValueType} {xs : List (Option type.Carrier)}
    {ys : List type.Carrier} (h : xs = ys.map some) :
    Asks column (.list lowered (quantifier op) type xs)
      (Dialect.postgres.membership op (target lowered column) name (.array type ys)) := by
  have htext : (Dialect.postgres.membership op (target lowered column) name (.array type ys)).sql =
      target lowered column ++ " " ++ quantifier op ++ "(@" ++ name ++ ")" := by
    apply String.toList_inj.1
    cases op <;> simp [Dialect.membership, Dialect.placeholder, Dialect.postgres, quantifier]
  have := @Asks.list column lowered (quantifier op) _ _ _ name h
  rwa [← htext] at this

theorem asks_pattern (shape : Shape) (term : String) (cs : Bool) :
    Asks column (.like (if cs then "LIKE" else "ILIKE") (shape.wrap (Text.escapeLike (folded cs term))))
      (Dialect.postgres.pattern shape column name term cs) := by
  have htext : Dialect.postgres.like column name cs =
      column ++ " " ++ (if cs then "LIKE" else "ILIKE") ++ " @" ++ name := by
    apply String.toList_inj.1
    cases cs <;> simp [Dialect.like, Dialect.placeholder, Dialect.postgres]
  have := @Asks.like column (if cs then "LIKE" else "ILIKE") (shape.wrap (Text.escapeLike (folded cs term))) name
  rw [← htext] at this
  rw [Dialect.pattern_eq]
  exact this

theorem asks_flag (test : FlagTest) (bits : Int64) :
    Asks column (.flag (flagSign test) bits) (Dialect.postgres.flag test column name bits) := by
  have htext : (Dialect.postgres.flag test column name bits).sql =
      "(" ++ column ++ " & @" ++ name ++ ") " ++ flagSign test ++ " 0" := by
    apply String.toList_inj.1
    cases test <;> simp [Dialect.flag, Dialect.placeholder, Dialect.postgres, flagSign]
  have := @Asks.flag column (flagSign test) bits name
  rwa [← htext] at this

theorem asks_nullCheck (isNull : Bool) : Asks column (.null isNull) (Dialect.nullCheck column isNull) := by
  cases isNull with
  | false => exact .isNotNull
  | true => exact .isNull

end SetField

/-! ### Tests of a filter fit its fields -/

section

variable {α : Type}

/-- Fields made of what is set fit the tests made of it. -/
private theorem fits_toList {x : Option α} {field : α → SetField} {test : α → Test}
    (h : ∀ a, x = some a → Test.Fits (field a) (test a)) :
    List.Forall₂ Test.Fits (x.toList.map field) (x.toList.map test) := by
  cases x with
  | none => exact .nil
  | some a => exact .cons (h a rfl) .nil

private theorem fits_append {fields fields' : List SetField} {tests tests' : List Test}
    (h : List.Forall₂ Test.Fits fields tests) (h' : List.Forall₂ Test.Fits fields' tests') :
    List.Forall₂ Test.Fits (fields ++ fields') (tests ++ tests') :=
  List.rel_append h h'

variable (type : ValueType) (store : α → type.Carrier)

private theorem fits_compareTests (op : Comparison) (x : Option α) :
    List.Forall₂ Test.Fits (ofValue type store op.sign x) (compareTests ⟨type, store⟩ op x) :=
  fits_toList fun _ _ _ _ => asks_comparison false op _

private theorem fits_arrayTests (op : Membership) {xs : Option (List (Option α))}
    (h : ∀ l, xs = some l → (present l).map some = l) :
    List.Forall₂ Test.Fits (ofList type store (quantifier op) xs) (arrayTests ⟨type, store⟩ op xs) := by
  refine fits_toList fun l hl column name => ?_
  refine asks_membership false op ?_
  conv_lhs => rw [← h l hl]
  rw [List.map_map, List.map_map]
  rfl

private theorem fits_nullTests (isNull : Option Bool) :
    List.Forall₂ Test.Fits (ofNull isNull) (nullTests isNull) :=
  fits_toList fun b _ _ _ => asks_nullCheck b

theorem BooleanFilter.fits (f : BooleanFilter) : List.Forall₂ Test.Fits f.fields f.tests := by
  apply fits_append _ (fits_nullTests f.isNull)
  exact fits_append (fits_compareTests .bool id .eq f.eq) (fits_compareTests .bool id .neq f.neq)

theorem RangeFilter.fits [PartialCompare α] {f : RangeFilter α} {rules : List (Rule α)} {column : String}
    {tests : List Test} (hf : f.findings rules = []) (ht : f.tests ⟨type, store⟩ column = .ok tests) :
    List.Forall₂ Test.Fits (f.fields type store) tests := by
  obtain ⟨hin, hnot⟩ := RangeFilter.lists_of_findings_eq_nil hf
  rw [RangeFilter.tests_eq_ok ht]
  apply fits_append _ (fits_nullTests f.isNull)
  apply fits_append _ (fits_arrayTests type store .notIn fun l hl => map_some_present_of_list_eq_nil (hl ▸ hnot))
  apply fits_append _ (fits_arrayTests type store .isIn fun l hl => map_some_present_of_list_eq_nil (hl ▸ hin))
  apply fits_append _ (fits_compareTests type store .lte f.lte)
  apply fits_append _ (fits_compareTests type store .lt f.lt)
  apply fits_append _ (fits_compareTests type store .gte f.gte)
  apply fits_append _ (fits_compareTests type store .gt f.gt)
  exact fits_append (fits_compareTests type store .eq f.eq) (fits_compareTests type store .neq f.neq)

/-- The tests of values that are told apart, whose lists passed their check. -/
theorem ChoiceFilter.fits [BEq α] {f : ChoiceFilter α} {rules : List (Rule α)} (hf : f.findings rules = []) :
    List.Forall₂ Test.Fits (f.fields type store)
      (compareTests ⟨type, store⟩ .eq f.eq ++ compareTests ⟨type, store⟩ .neq f.neq ++
        arrayTests ⟨type, store⟩ .isIn f.isIn ++ arrayTests ⟨type, store⟩ .notIn f.notIn ++ nullTests f.isNull) := by
  obtain ⟨hin, hnot⟩ := ChoiceFilter.lists_of_findings_eq_nil hf
  apply fits_append _ (fits_nullTests f.isNull)
  apply fits_append _ (fits_arrayTests type store .notIn fun l hl => map_some_present_of_list_eq_nil (hl ▸ hnot))
  apply fits_append _ (fits_arrayTests type store .isIn fun l hl => map_some_present_of_list_eq_nil (hl ▸ hin))
  exact fits_append (fits_compareTests type store .eq f.eq) (fits_compareTests type store .neq f.neq)

theorem FlagsFilter.fits [FlagSet α] (f : FlagsFilter α) : List.Forall₂ Test.Fits f.fields f.tests := by
  apply fits_append _ (fits_nullTests f.isNull)
  exact fits_append (fits_toList fun x _ _ _ => asks_flag .has (FlagSet.bits x))
    (fits_toList fun x _ _ _ => asks_flag .hasNot (FlagSet.bits x))

end

section

variable (cs : Bool)

private theorem fits_compareText (op : Comparison) (x : Option String) :
    List.Forall₂ Test.Fits (ofText cs op.sign x) (x.toList.map (.compareText op · cs)) := by
  refine fits_toList fun term _ column name => ?_
  cases cs <;> exact asks_comparison _ op _

private theorem fits_pattern (shape : Shape) (x : Option String) :
    List.Forall₂ Test.Fits (ofPattern cs shape.wrap x) (x.toList.map (.pattern shape · cs)) :=
  fits_toList fun term _ _ _ => asks_pattern shape term cs

private theorem fits_memberText (op : Membership) {xs : Option (List (Option String))}
    (h : ∀ l, xs = some l → (present l).map some = l) :
    List.Forall₂ Test.Fits (ofTexts cs (quantifier op) xs) (xs.toList.map fun l => .memberText op (present l) cs) := by
  refine fits_toList fun l hl column name => ?_
  have hall : l.map (Option.map (folded cs)) = ((present l).map (folded cs)).map some := by
    conv_lhs => rw [← h l hl]
    rw [List.map_map, List.map_map]
    rfl
  cases cs <;> exact asks_membership _ op hall

end

theorem TextFilter.fits {f : TextFilter} {rules : TextRules} (hf : f.findings rules = []) :
    List.Forall₂ Test.Fits f.fields f.tests := by
  simp only [findings, List.append_eq_nil_iff] at hf
  obtain ⟨⟨⟨⟨⟨⟨⟨⟨⟨-, hin⟩, hnot⟩, -⟩, -⟩, -⟩, -⟩, -⟩, -⟩, -⟩ := hf
  apply fits_append _ (fits_nullTests f.isNull)
  apply fits_append _ (fits_memberText _ .notIn fun l hl => map_some_present_of_list_eq_nil (hl ▸ hnot))
  apply fits_append _ (fits_memberText _ .isIn fun l hl => map_some_present_of_list_eq_nil (hl ▸ hin))
  apply fits_append _ (fits_pattern _ .endsWith f.endsWith)
  apply fits_append _ (fits_pattern _ .startsWith f.startsWith)
  apply fits_append _ (fits_pattern _ .contains f.contains)
  exact fits_append (fits_compareText _ .eq f.eq) (fits_compareText _ .neq f.neq)

/-- The tests of a call that binds a filter fit the fields of its filter. -/
theorem Call.exists_asked {c : Call} {b : Binding} {d : Action.Demand} {tests : List Test} (hb : c.binding? = some b)
    (hr : b.request = some ([], .ok d)) (ht : d.tests = .ok tests) :
    ∃ a, c.asked? = some a ∧ a.column = b.column ∧ a.type = d.type ∧ List.Forall₂ Test.Fits a.fields tests := by
  cases c with
  | selectAll | selectCount | selectColumns | search | searchFullText | paginate => cases hb
  | bindBoolean column f =>
    cases hb
    obtain ⟨f, rfl, hf, hd⟩ := Binding.exists_of_request hr
    cases hd
    cases ht
    exact ⟨_, rfl, rfl, rfl, f.fits⟩
  | bindNumeric t column f rules =>
    cases hb
    obtain ⟨f, rfl, hf, hd⟩ := Binding.exists_of_request hr
    cases t with
    | int8 | uint8 | uint16 | uint32 | uint64 => cases hd
    | int16 | int32 | int64 | single | double | decimal =>
      cases hd
      exact ⟨_, rfl, rfl, rfl, RangeFilter.fits _ _ hf ht⟩
  | bindDate t column f rules =>
    cases hb
    obtain ⟨f, rfl, hf, hd⟩ := Binding.exists_of_request hr
    cases hd
    cases t with
    | date | timestamp | instant => exact ⟨_, rfl, rfl, rfl, RangeFilter.fits _ _ hf ht⟩
  | bindEnum column f rules =>
    cases hb
    obtain ⟨⟨f, mode⟩, rfl, hf, hd⟩ := Binding.exists_of_request hr
    cases hd
    rw [EnumFilter.tests_eq_ok ht]
    cases mode with
    | byValue | byName | byValueAsText => exact ⟨_, rfl, rfl, rfl, ChoiceFilter.fits _ _ hf⟩
  | bindFlags column f rules =>
    cases hb
    obtain ⟨f, rfl, hf, hd⟩ := Binding.exists_of_request hr
    cases hd
    cases ht
    exact ⟨_, rfl, rfl, rfl, f.fits⟩
  | bindId column f rules =>
    cases hb
    obtain ⟨f, rfl, hf, hd⟩ := Binding.exists_of_request hr
    cases hd
    cases ht
    exact ⟨_, rfl, rfl, rfl, ChoiceFilter.fits _ _ hf⟩
  | bindText column f rules =>
    cases hb
    obtain ⟨f, rfl, hf, hd⟩ := Binding.exists_of_request hr
    cases hd
    cases ht
    exact ⟨_, rfl, rfl, rfl, TextFilter.fits hf⟩

/-! ### Conditions of bound filters -/

/-- Tests that fit fields give the conditions that the fields ask for, whatever names are given out. -/
theorem asks_conditions {fields : List SetField} {tests : List Test} (h : List.Forall₂ Test.Fits fields tests)
    (c : Column) (sql : String) (n : Namer) :
    List.Forall₂ (Asks sql) fields (n.conditions .postgres c sql tests).1 := by
  induction h generalizing n with
  | nil => exact .nil
  | @cons _ t _ _ hfit _ ih =>
    rw [Namer.conditions]
    cases t.tag? with
    | none => exact .cons (hfit sql "") (ih n)
    | some tag => exact .cons (hfit sql _) (ih _)

theorem Call.exists_binding {c : Call} (h : c.bindsPresent = true) :
    ∃ b, c.binding? = some b ∧ b.request ≠ none := by
  cases c with
  | selectAll | selectCount | selectColumns | search | searchFullText | paginate => cases h
  | bindBoolean | bindNumeric | bindDate | bindEnum | bindFlags | bindId | bindText =>
    obtain ⟨f, rfl⟩ := Option.isSome_iff_exists.1 h
    exact ⟨_, rfl, Option.some_ne_none _⟩

namespace Query

variable {q : Query}

/-- In PostgreSQL binding a filter that is there adds one condition for each field that is set, in the order of the
fields, and no other.  Each condition has the operator of its field on the resolved column and binds the value of its
field, for a list all its values in order; and the parameters come after those that were there. -/
theorem binding_drops_and_duplicates_nothing (h : q.Reachable) (hd : q.dialect = .postgres) {c : Call}
    (hc : c.bindsPresent = true) (hok : (c.perform q).1 = .ok ()) :
    ∃ a sql added, c.asked? = some a ∧ Dialect.postgres.resolve ⟨q.table, a.column⟩ a.type = .ok sql ∧
      List.Forall₂ (Asks sql) a.fields added ∧
      (c.perform q).2.conditions = q.conditions ++ added ∧
      (c.perform q).2.params.entries = q.params.entries ++ added.filterMap Condition.param := by
  obtain ⟨b, hb, hpresent⟩ := c.exists_binding hc
  have hafter : (c.perform q).2.Named := (h.step (.call c)).named
  rw [Call.perform_eq] at hok hafter ⊢
  cases ho : c.outcome q with
  | error e =>
    rw [ho] at hok
    cases hok
  | ok q' =>
    rw [ho] at hafter
    rcases Call.cases_of_binding hb ho with ⟨hnone, -⟩ | ⟨d, sql, tests, hr, -, hsql, ht, -, hq⟩
    · exact absurd hnone hpresent
    · obtain ⟨a, ha, hcolumn, htype, hfit⟩ := Call.exists_asked hb hr ht
      rw [hd, ← hcolumn, ← htype] at hsql
      have hconditions : q'.conditions =
          q.conditions ++ (q.namer.conditions .postgres ⟨q.table, b.column⟩ sql tests).1 := by
        obtain ⟨params, he⟩ := q.emitAll_eq ⟨q.table, b.column⟩ sql tests
        rw [hq, he, hd]
        cases d.sort <;> rfl
      refine ⟨a, sql, _, ha, hsql, asks_conditions hfit ⟨q.table, b.column⟩ sql q.namer, hconditions, ?_⟩
      -- the bag holds what the conditions bind, before and after the call
      have hbound : q'.params.entries = q'.bound := hafter.entries
      show q'.params.entries = _
      rw [hbound, h.named.entries, bound, hconditions, List.filterMap_append]
      rfl

/-- A filter without case on a path into a document, after another filter on it. -/
theorem binding_drops_and_duplicates_nothing_path :
    let q : Query := { table := "users", dialect := .postgres, settings := {} }
    let q' := q.run [.call (.bindText "meta->>'city'" (some { eq := some "Rome" }) {})]
    let c : Call := .bindText "meta->>'city'" (some {
      neq := some "Oslo", endsWith := some "50%", isIn := some [some "Turin", some "Bari"], isNull := some false }) {}
    q'.Reachable ∧ q'.dialect = .postgres ∧ c.bindsPresent = true ∧ (c.perform q').1 = .ok () ∧
      ∃ added, (c.perform q').2.conditions = q'.conditions ++ added ∧
        List.Forall₂ (Asks "(users.meta->>'city')::text") [.compare true "<>" (.text "oslo"),
          .like "ILIKE" "%50\\%", .list true "= ANY" .text [some "turin", some "bari"], .null false] added ∧
        (c.perform q').2.params.entries = q'.params.entries ++ added.filterMap Condition.param := by
  intro q q' c
  have hnew : Query.new "users" .postgres = .ok q := rfl
  have hq : q'.Reachable := (Reachable.created (.new hnew)).run _
  have hok : (c.perform q').1 = .ok () := by decide +kernel
  obtain ⟨a, sql, added, ha, hsql, hall, hconditions, hentries⟩ :=
    binding_drops_and_duplicates_nothing hq (q.dialect_run _) (c := c) rfl hok
  have hfields : c.asked?.map Asked.fields = some [.compare true "<>" (.text "oslo"),
      .like "ILIKE" "%50\\%", .list true "= ANY" .text [some "turin", some "bari"], .null false] := by decide +kernel
  have hcolumn : Dialect.postgres.resolve ⟨"users", "meta->>'city'"⟩ .text = .ok "(users.meta->>'city')::text" := by
    decide +kernel
  rw [ha] at hfields
  rw [Option.some.inj hfields] at hall
  cases ha
  have htable : q'.table = "users" := by decide +kernel
  rw [htable] at hsql
  cases hcolumn.symm.trans hsql
  exact ⟨hq, q.dialect_run _, rfl, hok, added, hconditions, hall, hentries⟩

end Query

end SqlFilter
