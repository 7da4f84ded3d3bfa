import Mathlib.Data.List.Forall2
import Mathlib.Data.Rat.Cast.Order
import SqlFilter.Proofs.ParamBag
import SqlFilter.Proofs.Positional
import SqlFilter.Proofs.Predicate
import SqlFilter.Proofs.Requirements

/-!
# Rows that are selected

A filter describes values of its column (`Description`), and the conditions that it adds in PostgreSQL select just the
rows with these values (`Query.conditions_select_what_is_described`).  The conditions are read as text and their
parameters are looked up in the bag as it is after any further steps.  Each test of a filter decides one field
(`Decides`), so its tests together decide all fields that are set.
-/

namespace SqlFilter

open Requirement (Less Same)

/-- The first value compares as greater. -/
def Greater {α : Type} [PartialCompare α] (a b : α) : Prop := PartialCompare.compare? a b = some .gt

/-! ### What a filter describes -/

/-- The truth values, or null, that a filter describes. -/
def BooleanFilter.Describes (f : BooleanFilter) : Option Bool → Prop
  | some v => (∀ x ∈ f.eq, v = x) ∧ (∀ x ∈ f.neq, v ≠ x) ∧ f.isNull ≠ some true
  | none => f.eq = none ∧ f.neq = none ∧ f.isNull ≠ some false

/-- The values, or null, that a filter on values with an order describes. -/
def RangeFilter.Describes {α : Type} [PartialCompare α] (f : RangeFilter α) : Option α → Prop
  | some v =>
    (∀ x ∈ f.eq, Same v x) ∧ (∀ x ∈ f.neq, ¬ Same v x) ∧
      (∀ x ∈ f.gt, Greater v x) ∧ (∀ x ∈ f.gte, Greater v x ∨ Same v x) ∧
      (∀ x ∈ f.lt, Less v x) ∧ (∀ x ∈ f.lte, Less v x ∨ Same v x) ∧
      (∀ l ∈ f.isIn, ∃ x, some x ∈ l ∧ Same v x) ∧ (∀ l ∈ f.notIn, ∀ x, some x ∈ l → ¬ Same v x) ∧
      f.isNull ≠ some true
  | none =>
    f.eq = none ∧ f.neq = none ∧ f.gt = none ∧ f.gte = none ∧ f.lt = none ∧ f.lte = none ∧ f.isIn = none ∧
      f.notIn = none ∧ f.isNull ≠ some false

/-- The values, or null, that a filter on values that are told apart describes; each stands for its key. -/
def ChoiceFilter.Describes {α β : Type} (key : α → β) (f : ChoiceFilter α) : Option β → Prop
  | some v =>
    (∀ x ∈ f.eq, v = key x) ∧ (∀ x ∈ f.neq, v ≠ key x) ∧ (∀ l ∈ f.isIn, ∃ x, some x ∈ l ∧ v = key x) ∧
      (∀ l ∈ f.notIn, ∀ x, some x ∈ l → v ≠ key x) ∧ f.isNull ≠ some true
  | none => f.eq = none ∧ f.neq = none ∧ f.isIn = none ∧ f.notIn = none ∧ f.isNull ≠ some false

/-- Some bit is set in both. -/
def ShareBit (a b : Int64) : Prop := ∃ i, a.toBitVec.getLsbD i = true ∧ b.toBitVec.getLsbD i = true

/-- The bits, or null, that a filter on bits describes. -/
def FlagsFilter.Describes {α : Type} [FlagSet α] (f : FlagsFilter α) : Option Int64 → Prop
  | some v =>
    (∀ x ∈ f.has, ShareBit v (FlagSet.bits x)) ∧ (∀ x ∈ f.hasNot, ¬ ShareBit v (FlagSet.bits x)) ∧
      f.isNull ≠ some true
  | none => f.has = none ∧ f.hasNot = none ∧ f.isNull ≠ some false

/-- The values of a column, or null, that are described. -/
structure Description where
  column : String
  type : ValueType
  Holds : Option type.Carrier → Prop

/-- The call binds a filter on truth values, integers, decimals, dates, members by number, bits or identifiers. -/
def Call.describes : Call → Bool
  | bindBoolean _ f => f.isSome
  | bindNumeric .single _ _ _ | bindNumeric .double _ _ _ => false
  | bindNumeric _ _ f _ => f.isSome
  | bindDate _ _ f _ => f.isSome
  | bindEnum _ (some f) _ => f.mode = .byValue
  | bindFlags _ f _ => f.isSome
  | bindId _ f _ => f.isSome
  | _ => false

/-- What a call describes.  No column has integers of 8 bits or without a sign, so such calls fail. -/
def Call.description? : Call → Option Description
  | bindBoolean column (some f) => some ⟨column, .bool, f.Describes⟩
  | bindNumeric .int16 column (some f) _ => some ⟨column, .int16, f.Describes⟩
  | bindNumeric .int32 column (some f) _ => some ⟨column, .int32, f.Describes⟩
  | bindNumeric .int64 column (some f) _ => some ⟨column, .int64, f.Describes⟩
  | bindNumeric .decimal column (some f) _ => some ⟨column, .decimal, f.Describes⟩
  | bindDate .date column (some f) _ => some ⟨column, .date, f.Describes⟩
  | bindDate .timestamp column (some f) _ => some ⟨column, .timestamp, f.Describes⟩
  | bindDate .instant column (some f) _ => some ⟨column, .instant, f.Describes⟩
  | bindEnum column (some f) _ =>
    match f.mode with
    | .byValue => some ⟨column, .int32, f.toChoiceFilter.Describes Enumeration.number⟩
    | _ => none
  | bindFlags column (some f) _ => some ⟨column, .int64, f.Describes⟩
  | bindId column (some f) _ => some ⟨column, .uuid, ChoiceFilter.Describes id f⟩
  | _ => none

/-! ### Columns that are read -/

/-- A column without a path can be read after its table. -/
private theorem isColumnRef_qualified {table x : String} (ht : Text.isIdentifier table = true)
    (hx : Text.isColumnExpression x = true) (hpath : (⟨table, x⟩ : Column).hasPath = false) :
    IsColumnRef (table ++ "." ++ x) := by
  have hword : ∀ c ∈ x.toList, Text.isWordChar c = true := by
    obtain ⟨w, hops, hw, -, hs⟩ := Text.exists_hops hx
    cases hops with
    | nil =>
      have hid : Text.isIdentifier x = true := by
        rw [Text.isIdentifier, hs]
        simpa using hw
      exact (Text.isWordChar_of_isIdentifier hid).2
    | cons hop hops =>
      have harrow : Text.hasArrow x.toList = true := by
        rw [hs, List.flatMap_cons, Text.Hop.chars]
        exact Text.hasArrow_append w _
      rw [Column.hasPath, harrow] at hpath
      cases hpath
  refine ⟨by simp, ?_⟩
  intro c hc
  simp only [String.toList_append, List.mem_append] at hc
  rcases hc with (hc | hc) | hc
  · exact .inl ((Text.isWordChar_of_isIdentifier ht).2 c hc)
  · exact .inr (List.mem_singleton.1 hc)
  · exact .inl (hword c hc)

/-! ### The truth of tests -/

open Predicate (comparison? bitTest?)

/-- What a test says of a value of its column, or null.  Tests of texts are not read. -/
def Test.truth? (x : Option Value) : Test → Option Truth
  | compare op (.scalar t y) => comparison? op.holds x t y
  | member .isIn (.array t ys) => (ys.mapM (comparison? Ordering.isEq x t)).map Truth.any
  | member .notIn (.array t ys) => (ys.mapM (comparison? Ordering.isNe x t)).map Truth.all
  | flag test b => bitTest? (Predicate.flagHolds test) x b
  | null isNull => some (.ofBool (x.isNone == isNull))
  | _ => none

/-- A condition is that of a test on a column, and the bag has its parameter. -/
def Test.Writes (column : String) (bag : Params) (t : Test) (c : Condition) : Prop :=
  ∃ name, c = t.condition .postgres column name ∧ (t.tag?.isSome → IsParamName name) ∧
    ∀ v, c.param = some (name, v) → bag.get? name = some v

section

variable {column : String} {row : String → Option Value} {bag : Params} {x : Option Value}

private theorem Test.Writes.truth? {t : Test} {c : Condition} {b : Truth} (hc : IsColumnRef column)
    (hrow : row column = x) (h : t.Writes column bag c) (ht : t.truth? x = some b) : c.truth? row bag = some b := by
  obtain ⟨name, rfl, hname, hbag⟩ := h
  unfold Condition.truth?
  cases t with
  | compareText | memberText | pattern => cases ht
  | compare op v =>
    have hget : bag.get? name = some v := hbag v rfl
    cases v with
    | array t ys => cases ht
    | scalar t y =>
      rw [Test.condition, Predicate.read_comparison hc (hname rfl), ← ht]
      simp [Predicate.truth?, Test.truth?, hget, hrow]
  | member op v =>
    have hget : bag.get? name = some v := hbag v rfl
    cases v with
    | scalar t y => cases op <;> cases ht
    | array t ys =>
      cases op with
      | isIn =>
        rw [Test.condition, Predicate.read_isIn hc (hname rfl), ← ht]
        simp [Predicate.truth?, Test.truth?, hget, hrow]
      | notIn =>
        rw [Test.condition, Predicate.read_notIn hc (hname rfl), ← ht]
        simp [Predicate.truth?, Test.truth?, hget, hrow]
  | flag test b =>
    have hget : bag.get? name = some (.int64 b) := hbag _ rfl
    rw [Test.condition, Predicate.read_flag hc (hname rfl), ← ht]
    simp [Predicate.truth?, Test.truth?, hget, hrow, Value.scalarOf?]
  | null isNull =>
    rw [Test.condition, Predicate.read_nullCheck hc, ← ht]
    simp [Predicate.truth?, Test.truth?, hrow]

/-- The conditions of tests say what the tests say, one by one. -/
private theorem truths_of_writes {tests : List Test} {cs : List Condition} {ts : List Truth} (hc : IsColumnRef column)
    (hrow : row column = x) (h : List.Forall₂ (Test.Writes column bag) tests cs)
    (ht : tests.mapM (Test.truth? x) = some ts) : cs.mapM (Condition.truth? row bag) = some ts := by
  induction h generalizing ts with
  | nil => exact ht
  | cons hw _ ih =>
    rw [List.mapM_cons] at ht ⊢
    obtain ⟨b, hb, ht⟩ := Option.bind_eq_some_iff.1 ht
    obtain ⟨bs, hbs, ht⟩ := Option.bind_eq_some_iff.1 ht
    rw [hw.truth? hc hrow hb, ih hbs]
    exact ht

end

/-! ### Tests decide fields -/

/-- Tests decide whether something holds of a value, or null: all that they say is true if and only if it does. -/
def Decides (x : Option Value) (tests : List Test) (p : Prop) : Prop :=
  ∃ ts, tests.mapM (Test.truth? x) = some ts ∧ (Truth.all ts = .yes ↔ p)

section

variable {x : Option Value} {tests tests' : List Test} {p p' : Prop}

private theorem Decides.append (h : Decides x tests p) (h' : Decides x tests' p') :
    Decides x (tests ++ tests') (p ∧ p') := by
  obtain ⟨ts, hts, hp⟩ := h
  obtain ⟨ts', hts', hp'⟩ := h'
  refine ⟨ts ++ ts', ?_, ?_⟩
  · rw [List.mapM_append, hts, hts']
    rfl
  · rw [← hp, ← hp', Truth.all_eq_yes, Truth.all_eq_yes, Truth.all_eq_yes, List.forall_mem_append]

/-- The test of a field that is set decides what is asked of the field. -/
private theorem decides_toList {α : Type} {o : Option α} {test : α → Test} {P : α → Prop}
    (h : ∀ a, o = some a → ∃ b, (test a).truth? x = some b ∧ (b = .yes ↔ P a)) :
    Decides x (o.toList.map test) (∀ a ∈ o, P a) := by
  cases o with
  | none => exact ⟨[], rfl, by simp [Truth.all]⟩
  | some a =>
    obtain ⟨b, hb, hp⟩ := h a rfl
    refine ⟨[b], ?_, ?_⟩
    · simp [hb]
    · simp [Truth.all_eq_yes, hp]

private theorem decides_nullTests (isNull : Option Bool) :
    Decides x (nullTests isNull) (∀ b ∈ isNull, x.isNone = b) :=
  decides_toList fun b _ => ⟨_, rfl, by simp⟩

end

section

variable {t : ValueType} (v : Option t.Carrier)

private theorem comparison?_map (holds : Ordering → Bool) (y : t.Carrier) :
    ∃ b, comparison? holds (v.map (.scalar t)) t y = some b ∧ (b = .yes ↔ ∃ a ∈ v, holds (t.order a y) = true) := by
  cases v with
  | none => exact ⟨.unknown, rfl, by simp⟩
  | some a => exact ⟨.ofBool (holds (t.order a y)), by simp [comparison?, Value.scalarOf?], by simp⟩

private theorem mapM_comparison? (holds : Ordering → Bool) (ys : List t.Carrier) :
    ∃ bs, ys.mapM (comparison? holds (v.map (.scalar t)) t) = some bs ∧
      (Truth.any bs = .yes ↔ ∃ y ∈ ys, ∃ a ∈ v, holds (t.order a y) = true) ∧
      (Truth.all bs = .yes ↔ ∀ y ∈ ys, ∃ a ∈ v, holds (t.order a y) = true) := by
  induction ys with
  | nil => exact ⟨[], rfl, by simp [Truth.any], by simp [Truth.all]⟩
  | cons y ys ih =>
    obtain ⟨b, hb, hy⟩ := comparison?_map v holds y
    obtain ⟨bs, hbs, hany, hall⟩ := ih
    refine ⟨b :: bs, by simp [hb, hbs], ?_, ?_⟩
    · simp only [Truth.any_cons_eq_yes, hy, hany, List.mem_cons, exists_eq_or_imp]
    · rw [Truth.all_cons_eq_yes, hy, hall, List.forall_mem_cons]

variable {α : Type} (store : α → t.Carrier)

private theorem decides_compareTests (op : Comparison) (o : Option α) :
    Decides (v.map (.scalar t)) (compareTests ⟨t, store⟩ op o)
      (∀ y ∈ o, ∃ a ∈ v, op.holds (t.order a (store y)) = true) :=
  decides_toList fun y _ => comparison?_map v op.holds (store y)

private theorem mem_present {l : List (Option α)} {y : α} : y ∈ present l ↔ some y ∈ l := by
  simp [present]

private theorem decides_isIn (xs : Option (List (Option α))) :
    Decides (v.map (.scalar t)) (arrayTests ⟨t, store⟩ .isIn xs)
      (∀ l ∈ xs, ∃ y, some y ∈ l ∧ ∃ a ∈ v, t.order a (store y) = .eq) := by
  refine decides_toList fun l _ => ?_
  obtain ⟨bs, hbs, hany, -⟩ := mapM_comparison? v Ordering.isEq ((present l).map store)
  refine ⟨.any bs, by simp [Test.truth?, Storage.array, hbs], ?_⟩
  simp [hany, mem_present]

private theorem decides_notIn (xs : Option (List (Option α))) :
    Decides (v.map (.scalar t)) (arrayTests ⟨t, store⟩ .notIn xs)
      (∀ l ∈ xs, ∀ y, some y ∈ l → ∃ a ∈ v, t.order a (store y) ≠ .eq) := by
  refine decides_toList fun l _ => ?_
  obtain ⟨bs, hbs, -, hall⟩ := mapM_comparison? v Ordering.isNe ((present l).map store)
  refine ⟨.all bs, by simp [Test.truth?, Storage.array, hbs], ?_⟩
  simp [hall, mem_present]

end

/-! ### Fields and nulls -/

section

variable {α β : Type} {R : β → α → Prop}

/-- Nothing that is asked of a value holds of null. -/
private theorem forall_exists_mem_none {o : Option α} : (∀ y ∈ o, ∃ a ∈ (none : Option β), R a y) ↔ o = none := by
  cases o <;> simp

private theorem isNone_none {isNull : Option Bool} :
    (∀ b ∈ isNull, (none : Option β).isNone = b) ↔ isNull ≠ some false := by
  cases isNull with
  | none => simp
  | some b => cases b <;> simp

private theorem isNone_some {isNull : Option Bool} {b : β} :
    (∀ c ∈ isNull, (some b).isNone = c) ↔ isNull ≠ some true := by
  cases isNull with
  | none => simp
  | some c => cases c <;> simp

private theorem exists_some_mem {same : α → α → Bool} {field : String} {l : List (Option α)}
    (h : Finding.list same field (some l) = []) : ∃ y, some y ∈ l := by
  obtain ⟨y, hy⟩ := List.exists_mem_of_ne_nil _ (present_ne_nil_of_list_eq_nil h)
  exact ⟨y, mem_present.1 hy⟩

private theorem isIn_none {xs : Option (List (Option α))} :
    (∀ l ∈ xs, ∃ y, some y ∈ l ∧ ∃ a ∈ (none : Option β), R a y) ↔ xs = none := by
  cases xs <;> simp

/-- Null is not outside a list that passed its check. -/
private theorem notIn_none {xs : Option (List (Option α))} {same : α → α → Bool} {field : String}
    (h : Finding.list same field xs = []) :
    (∀ l ∈ xs, ∀ y, some y ∈ l → ∃ a ∈ (none : Option β), R a y) ↔ xs = none := by
  cases xs with
  | none => simp
  | some l =>
    obtain ⟨y, hy⟩ := exists_some_mem h
    refine iff_of_false (fun hall => ?_) (Option.some_ne_none l)
    obtain ⟨a, ha, -⟩ := hall l rfl y hy
    cases ha

end

/-! ### Orders that agree -/

/-- A type whose values are compared in filters as PostgreSQL orders them. -/
def ValueType.Agrees (t : ValueType) [PartialCompare t.Carrier] : Prop :=
  ∀ a b : t.Carrier, PartialCompare.compare? a b = some (t.order a b)

private theorem compare_div {x y : Int} {p q : Nat} (hp : 0 < p) (hq : 0 < q) :
    compare (x * q) (y * p) = compare ((x : ℚ) / (p : ℚ)) ((y : ℚ) / (q : ℚ)) := by
  have hp' : (0 : ℚ) < p := by exact_mod_cast hp
  have hq' : (0 : ℚ) < q := by exact_mod_cast hq
  rcases lt_trichotomy (x * q) (y * p) with h | h | h
  · have hdiv : (x : ℚ) / p < y / q := by
      rw [div_lt_div_iff₀ hp' hq']
      exact_mod_cast h
    rw [compare_lt_iff_lt.2 h, compare_lt_iff_lt.2 hdiv]
  · have hdiv : (x : ℚ) / p = y / q := by
      rw [div_eq_div_iff hp'.ne' hq'.ne']
      exact_mod_cast h
    rw [compare_eq_iff_eq.2 h, compare_eq_iff_eq.2 hdiv]
  · have hdiv : (y : ℚ) / q < x / p := by
      rw [div_lt_div_iff₀ hq' hp']
      exact_mod_cast h
    rw [compare_gt_iff_gt.2 h, compare_gt_iff_gt.2 hdiv]

/-- Decimals are compared in filters by their coefficients, and by PostgreSQL as rational numbers. -/
theorem agrees_decimal : ValueType.decimal.Agrees := fun _ _ =>
  congrArg some (compare_div (Nat.pow_pos (by decide)) (Nat.pow_pos (by decide)))

/-- A type of which only equal values are alike in the order. -/
def ValueType.Separates (t : ValueType) : Prop := ∀ a b : t.Carrier, t.order a b = .eq ↔ a = b

private theorem separates_bool : ValueType.bool.Separates := by
  intro a b
  cases a <;> cases b <;> decide

private theorem separates_int32 : ValueType.int32.Separates := by
  intro a b
  unfold ValueType.order
  rw [compare_eq_iff_eq, Int32.toInt_inj]

private theorem separates_uuid : ValueType.uuid.Separates := by
  rintro ⟨a⟩ ⟨b⟩
  unfold ValueType.order
  rw [compare_eq_iff_eq, BitVec.toNat_inj, Uuid.mk.injEq]

/-! ### Filters decide what they describe -/

private theorem Decides.congr {x : Option Value} {tests : List Test} {p p' : Prop} (h : Decides x tests p)
    (hp : p ↔ p') : Decides x tests p' := by
  obtain ⟨ts, hts, hiff⟩ := h
  exact ⟨ts, hts, hiff.trans hp⟩

section

variable {t : ValueType}

theorem RangeFilter.decides [PartialCompare t.Carrier] (hagrees : t.Agrees) {f : RangeFilter t.Carrier}
    {rules : List (Rule t.Carrier)} {column : String} {tests : List Test} (hf : f.findings rules = [])
    (ht : f.tests (.self t) column = .ok tests) (v : Option t.Carrier) :
    Decides (v.map (.scalar t)) tests (f.Describes v) := by
  have hnot := (RangeFilter.lists_of_findings_eq_nil hf).2
  rw [RangeFilter.tests_eq_ok ht]
  have hcompare := decides_compareTests v (id : t.Carrier → t.Carrier)
  have hfields := ((((((((hcompare .eq f.eq).append (hcompare .neq f.neq)).append (hcompare .gt f.gt)).append
    (hcompare .gte f.gte)).append (hcompare .lt f.lt)).append (hcompare .lte f.lte)).append
    (decides_isIn v id f.isIn)).append (decides_notIn v id f.notIn)).append (decides_nullTests f.isNull)
  refine hfields.congr ?_
  -- for null, each field that is set asks for something that is unknown
  cases v with
  | none =>
    simp only [Describes, forall_exists_mem_none, isIn_none, notIn_none hnot, Option.map_none, isNone_none, and_assoc]
  | some a =>
    simp only [Describes, Option.map_some, isNone_some, and_assoc, Comparison.holds_iff, Same,
      Less, Greater, hagrees a, Option.some.injEq, Option.mem_some_iff, exists_eq_left', id, ne_eq]

theorem ChoiceFilter.decides {α : Type} [BEq α] (hseparates : t.Separates) (key : α → t.Carrier)
    {f : ChoiceFilter α} {rules : List (Rule α)} (hf : f.findings rules = []) (v : Option t.Carrier) :
    Decides (v.map (.scalar t)) (compareTests ⟨t, key⟩ .eq f.eq ++ compareTests ⟨t, key⟩ .neq f.neq ++
      arrayTests ⟨t, key⟩ .isIn f.isIn ++ arrayTests ⟨t, key⟩ .notIn f.notIn ++ nullTests f.isNull)
      (f.Describes key v) := by
  have hnot := (ChoiceFilter.lists_of_findings_eq_nil hf).2
  have hcompare := decides_compareTests v key
  have hfields := ((((hcompare .eq f.eq).append (hcompare .neq f.neq)).append (decides_isIn v key f.isIn)).append
    (decides_notIn v key f.notIn)).append (decides_nullTests f.isNull)
  refine hfields.congr ?_
  cases v with
  | none =>
    simp only [Describes, forall_exists_mem_none, isIn_none, notIn_none hnot, Option.map_none, isNone_none, and_assoc]
  | some a =>
    simp only [Describes, Option.map_some, isNone_some, and_assoc, Comparison.holds_iff, hseparates a,
      Option.mem_some_iff, exists_eq_left', ne_eq]

theorem BooleanFilter.decides (f : BooleanFilter) (v : Option Bool) :
    Decides (v.map (.scalar .bool)) f.tests (f.Describes v) := by
  have hcompare := decides_compareTests (t := .bool) v (id : Bool → Bool)
  refine (((hcompare .eq f.eq).append (hcompare .neq f.neq)).append (decides_nullTests f.isNull)).congr ?_
  cases v with
  | none => simp only [Describes, forall_exists_mem_none, Option.map_none, isNone_none, and_assoc]
  | some a =>
    simp only [Describes, Option.map_some, isNone_some, and_assoc, Comparison.holds_iff, separates_bool a,
      Option.mem_some_iff, exists_eq_left', id, ne_eq]

/-- Numbers share a bit if and only if their conjunction is not zero. -/
private theorem order_and_eq (a b : Int64) : ValueType.order .int64 (a &&& b) 0 = .eq ↔ ¬ ShareBit a b := by
  unfold ValueType.order ShareBit
  rw [compare_eq_iff_eq, Int64.toInt_inj]
  exact Requirement.and_eq_zero

private theorem decides_flag {α : Type} [FlagSet α] (v : Option Int64) (test : FlagTest) (o : Option α) :
    Decides (v.map (.scalar .int64)) (o.toList.map fun x => .flag test (FlagSet.bits x))
      (∀ x ∈ o, ∃ a ∈ v, Predicate.flagHolds test (ValueType.order .int64 (a &&& FlagSet.bits x) 0) = true) := by
  refine decides_toList fun x _ => ?_
  cases v with
  | none => exact ⟨.unknown, rfl, by simp⟩
  | some a => exact ⟨.ofBool _, rfl, by simp⟩

theorem FlagsFilter.decides {α : Type} [FlagSet α] (f : FlagsFilter α) (v : Option Int64) :
    Decides (v.map (.scalar .int64)) f.tests (f.Describes v) := by
  refine (((decides_flag v .has f.has).append (decides_flag v .hasNot f.hasNot)).append
    (decides_nullTests f.isNull)).congr ?_
  cases v with
  | none => simp only [Describes, forall_exists_mem_none, Option.map_none, isNone_none, and_assoc]
  | some a =>
    simp only [Describes, Option.map_some, isNone_some, and_assoc, Predicate.flagHolds, Ordering.isNe_iff_ne_eq,
      Ordering.isEq_iff_eq_eq, order_and_eq, Option.mem_some_iff, exists_eq_left', ne_eq, not_not]

end

/-! ### Calls decide what they describe -/

/-- The tests of a call decide what the call describes. -/
theorem Call.exists_description {c : Call} {b : Binding} {d : Action.Demand} {tests : List Test}
    (hc : c.describes = true) (hb : c.binding? = some b) (hr : b.request = some ([], .ok d))
    (ht : d.tests = .ok tests) :
    ∃ e, c.description? = some e ∧ e.column = b.column ∧ e.type = d.type ∧
      ∀ v : Option e.type.Carrier, Decides (v.map (.scalar e.type)) tests (e.Holds v) := by
  cases c with
  | selectAll | selectCount | selectColumns | search | searchFullText | paginate | bindText => cases hc
  | bindBoolean column f =>
    cases hb
    obtain ⟨f, rfl, -, hd⟩ := Binding.exists_of_request hr
    cases hd
    cases ht
    exact ⟨_, rfl, rfl, rfl, f.decides⟩
  | bindNumeric t column f rules =>
    cases hb
    obtain ⟨f, rfl, hf, hd⟩ := Binding.exists_of_request hr
    cases t with
    | single | double => cases hc
    | int8 | uint8 | uint16 | uint32 | uint64 => cases hd
    | int16 | int32 | int64 =>
      cases hd
      exact ⟨_, rfl, rfl, rfl, RangeFilter.decides (fun _ _ => rfl) hf ht⟩
    | decimal =>
      cases hd
      exact ⟨_, rfl, rfl, rfl, RangeFilter.decides agrees_decimal hf ht⟩
  | bindDate t column f rules =>
    cases hb
    obtain ⟨f, rfl, hf, hd⟩ := Binding.exists_of_request hr
    cases hd
    cases t with
    | date | timestamp | instant => exact ⟨_, rfl, rfl, rfl, RangeFilter.decides (fun _ _ => rfl) hf ht⟩
  | bindEnum column f rules =>
    cases hb
    obtain ⟨⟨f, mode⟩, rfl, hf, hd⟩ := Binding.exists_of_request hr
    cases hd
    rw [EnumFilter.tests_eq_ok ht]
    cases mode with
    | byName | byValueAsText => cases hc
    | byValue => exact ⟨_, rfl, rfl, rfl, ChoiceFilter.decides separates_int32 Enumeration.number hf⟩
  | bindFlags column f rules =>
    cases hb
    obtain ⟨f, rfl, -, hd⟩ := Binding.exists_of_request hr
    cases hd
    cases ht
    exact ⟨_, rfl, rfl, rfl, f.decides⟩
  | bindId column f rules =>
    cases hb
    obtain ⟨f, rfl, hf, hd⟩ := Binding.exists_of_request hr
    cases hd
    cases ht
    exact ⟨_, rfl, rfl, rfl, ChoiceFilter.decides separates_uuid id hf⟩

private theorem Call.exists_binding_of_describes {c : Call} (h : c.describes = true) :
    ∃ b, c.binding? = some b ∧ b.request ≠ none := by
  cases c with
  | selectAll | selectCount | selectColumns | search | searchFullText | paginate | bindText => cases h
  | bindBoolean _ f | bindNumeric t _ f _ | bindDate _ _ f _ | bindEnum _ f _ | bindFlags _ f _ | bindId _ f _ =>
    cases f with
    | none => first | cases h | cases t <;> cases h
    | some f => exact ⟨_, rfl, Option.some_ne_none _⟩

/-! ### Conditions select rows -/

/-- Conditions written for tests say what the tests say, as long as the bag has their parameters. -/
private theorem writes_of_names {column : String} {bag : Params} {tests : List Test} {cs : List Condition}
    (h : List.Forall₂ (Test.Names .postgres column) tests cs)
    (hbag : ∀ x ∈ cs, ∀ name v, x.param = some (name, v) → bag.get? name = some v) :
    List.Forall₂ (Test.Writes column bag) tests cs := by
  induction h with
  | nil => exact .nil
  | cons hx _ ih =>
    rw [List.forall_mem_cons] at hbag
    obtain ⟨name, rfl, hname⟩ := hx
    exact .cons ⟨name, rfl, hname, fun v => hbag.1 name v⟩ (ih hbag.2)

/-- Conditions, with the parameters of a bag, are all true of just those values of a column, or null, that are
described. -/
def Description.SelectedBy (e : Description) (column : String) (bag : Params) (cs : List Condition) : Prop :=
  ∀ (v : Option e.type.Carrier) (row : String → Option Value), row column = v.map (.scalar e.type) →
    ∃ t, conjunction? row bag cs = some t ∧ (t = .yes ↔ e.Holds v)

private theorem Description.selectedBy {e : Description} {column : String} {bag : Params} {tests : List Test}
    {cs : List Condition} (hc : IsColumnRef column)
    (hdecides : ∀ v : Option e.type.Carrier, Decides (v.map (.scalar e.type)) tests (e.Holds v))
    (h : List.Forall₂ (Test.Names .postgres column) tests cs)
    (hbag : ∀ x ∈ cs, ∀ name v, x.param = some (name, v) → bag.get? name = some v) :
    e.SelectedBy column bag cs := by
  intro v row hrow
  obtain ⟨ts, hts, hiff⟩ := hdecides v
  refine ⟨.all ts, ?_, hiff⟩
  rw [conjunction?, truths_of_writes hc hrow (writes_of_names h hbag) hts]
  rfl

namespace Query

variable {q : Query}

/-- The bag of a reachable query, and that of its statement, have the parameter of each condition. -/
private theorem Reachable.get?_of_mem (h : q.Reachable) {c : Condition} (hc : c ∈ q.conditions) {name : String}
    {v : Value} (hp : c.param = some (name, v)) : q.params.get? name = some v ∧ q.allParams.get? name = some v := by
  have hn := h.named
  have hmem : (name, v) ∈ q.bound := List.mem_filterMap.2 ⟨c, hc, hp⟩
  refine ⟨?_, ?_⟩
  · rw [Params.get?, hn.entries]
    exact Named.lookup_of_mem hn.nodup hmem
  · have hall : (name, v) ∈ q.allParams.entries := by
      rw [hn.entries_allParams]
      exact List.mem_append_left _ hmem
    exact Named.lookup_of_mem hn.nodup_allParams hall

/-- In PostgreSQL the conditions that a bound filter adds for a plain column are all true of just those values of the
column, or null, that the filter describes, whatever is done to the query later and with the bag as it is then. -/
theorem conditions_select_what_is_described (h : q.Reachable) (hd : q.dialect = .postgres) {c : Call}
    (hc : c.describes = true) (hok : (c.perform q).1 = .ok ()) :
    ∃ e added, c.description? = some e ∧ (c.perform q).2.conditions = q.conditions ++ added ∧
      ((⟨q.table, e.column⟩ : Column).hasPath = false → ∀ steps : List Step, ∃ rest,
        ((c.perform q).2.run steps).conditions = q.conditions ++ added ++ rest ∧
        e.SelectedBy (q.table ++ "." ++ e.column) ((c.perform q).2.run steps).params added ∧
        e.SelectedBy (q.table ++ "." ++ e.column) ((c.perform q).2.run steps).allParams added) := by
  obtain ⟨b, hb, hpresent⟩ := Call.exists_binding_of_describes hc
  have hafter : (c.perform q).2.Reachable := h.step (.call c)
  rw [Call.perform_eq] at hok hafter ⊢
  cases ho : c.outcome q with
  | error e =>
    rw [ho] at hok
    cases hok
  | ok q' =>
    rw [ho] at hafter
    rcases Call.cases_of_binding hb ho with ⟨hnone, -⟩ | ⟨d, sql, tests, hr, hcolumn, hsql, ht, -, hq⟩
    · exact absurd hnone hpresent
    obtain ⟨e, he, hec, -, hdecides⟩ := Call.exists_description hc hb hr ht
    have hconditions : q'.conditions =
        q.conditions ++ (q.namer.conditions .postgres ⟨q.table, b.column⟩ sql tests).1 := by
      rw [hq, q.conditions_bound, hd]
    refine ⟨e, _, he, hconditions, fun hplain steps => ?_⟩
    rw [hec] at hplain ⊢
    have hsql' : sql = q.table ++ "." ++ b.column := by
      rw [Dialect.resolve, if_neg (by rw [hplain]; exact Bool.false_ne_true)] at hsql
      exact (Except.ok.inj hsql).symm
    subst hsql'
    obtain ⟨rest, hrest⟩ := q'.exists_conditions_run steps
    rw [hconditions] at hrest
    have href := isColumnRef_qualified h.wellFormed.table hcolumn hplain
    have hnames := Namer.names_conditions .postgres ⟨q.table, b.column⟩ (q.table ++ "." ++ b.column) q.namer tests
    -- the conditions are still there after the steps, so the bag has their parameters
    have hbag : ∀ x ∈ (q.namer.conditions .postgres ⟨q.table, b.column⟩ (q.table ++ "." ++ b.column) tests).1,
        ∀ name v, x.param = some (name, v) → (q'.run steps).params.get? name = some v ∧
          (q'.run steps).allParams.get? name = some v := by
      intro x hx name v
      refine (hafter.run steps).get?_of_mem ?_
      show x ∈ (q'.run steps).conditions
      rw [hrest]
      exact List.mem_append_left _ (List.mem_append_right _ hx)
    refine ⟨rest, hrest, ?_, ?_⟩
    · exact Description.selectedBy href hdecides hnames fun x hx name v hp => (hbag x hx name v hp).1
    · exact Description.selectedBy href hdecides hnames fun x hx name v hp => (hbag x hx name v hp).2

/-- Ages from 18 on except for two, with null ruled out by the comparison alone, before another filter on ages, a page
and a query for the number of rows. -/
theorem conditions_select_what_is_described_ages :
    let q : Query := { table := "users", dialect := .postgres, settings := {} }
    let q' := q.run [.call (.bindNumeric .int32 "age" (some { lte := some 99 }) [])]
    let f : RangeFilter Int32 := { gte := some 18, notIn := some [some 30, some 40] }
    let c : Call := .bindNumeric .int32 "age" (some f) []
    let steps : List Step := [.call (.bindNumeric .int32 "age" (some { gte := some 7 }) []),
      .call (.paginate (some ⟨10, 1⟩) none), .count]
    let last := (c.perform q').2.run steps
    q'.Reachable ∧ q'.dialect = .postgres ∧ c.describes = true ∧ (c.perform q').1 = .ok () ∧
      ∃ added, (c.perform q').2.conditions = q'.conditions ++ added ∧ ∀ row : String → Option Value,
        (row "users.age" = some (.scalar .int32 25) → conjunction? row last.allParams added = some .yes) ∧
        (row "users.age" = some (.scalar .int32 30) ∨ row "users.age" = none →
          conjunction? row last.allParams added ≠ some .yes) := by
  intro q q' f c steps last
  have hnew : Query.new "users" .postgres = .ok q := rfl
  have hq : q'.Reachable := (Reachable.created (.new hnew)).run _
  have hok : (c.perform q').1 = .ok () := by decide +kernel
  obtain ⟨e, added, he, hconditions, hselect⟩ :=
    conditions_select_what_is_described hq (q.dialect_run _) (c := c) rfl hok
  cases he
  have htable : q'.table = "users" := by decide +kernel
  rw [htable] at hselect
  obtain ⟨-, -, -, hall⟩ := hselect (by decide +kernel) steps
  refine ⟨hq, q.dialect_run _, rfl, hok, added, hconditions, fun row => ⟨fun hrow => ?_, fun hrow => ?_⟩⟩
  · obtain ⟨t, ht, hiff⟩ := hall (some 25) row hrow
    have hfrom : Greater (25 : Int32) 18 := rfl
    have hnot : ¬ Same (25 : Int32) 30 ∧ ¬ Same (25 : Int32) 40 := ⟨nofun, nofun⟩
    have hholds : f.Describes (some 25) := by simpa [f, RangeFilter.Describes] using ⟨.inl hfrom, hnot⟩
    rw [ht, hiff.2 hholds]
  · intro hyes
    rcases hrow with hrow | hrow
    · obtain ⟨t, ht, hiff⟩ := hall (some 30) row hrow
      cases ht.symm.trans hyes
      obtain ⟨-, -, -, -, -, -, -, hnot, -⟩ : f.Describes (some 30) := hiff.1 rfl
      exact hnot _ rfl 30 (List.mem_cons_self ..) rfl
    · obtain ⟨t, ht, hiff⟩ := hall none row hrow
      cases ht.symm.trans hyes
      obtain ⟨-, -, -, hnone, -⟩ : f.Describes none := hiff.1 rfl
      cases hnone

end Query

end SqlFilter
