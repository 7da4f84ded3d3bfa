import Mathlib.Algebra.Field.Rat
import Mathlib.Data.List.TakeWhile
import SqlFilter.Params
import SqlFilter.Proofs.Emitted

/-!
# What conditions say of a row

The text of a condition is read back as PostgreSQL reads it, word by word and with no knowledge of what wrote it
(`Predicate.read`).  What was read is evaluated on a row and a bag of parameters, with three truth values: whatever is
compared with a null is unknown (`Predicate.truth?`).  Texts that are written for comparisons, lists, bits and nulls are
read as such.
-/

namespace SqlFilter

/-! ### Three truth values -/

/-- A truth value of SQL. -/
inductive Truth
  | yes
  | no
  | unknown
deriving DecidableEq, Repr

namespace Truth

def ofBool (b : Bool) : Truth := if b then yes else no

def and : Truth → Truth → Truth
  | no, _ | _, no => no
  | yes, b => b
  | unknown, _ => unknown

def or : Truth → Truth → Truth
  | yes, _ | _, yes => yes
  | no, b => b
  | unknown, _ => unknown

/-- The conjunction of truth values. -/
def all (l : List Truth) : Truth := l.foldr and yes

/-- The disjunction of truth values. -/
def any (l : List Truth) : Truth := l.foldr or no

theorem and_eq_yes {a b : Truth} : a.and b = yes ↔ a = yes ∧ b = yes := by
  cases a <;> cases b <;> simp [and]

theorem or_eq_yes {a b : Truth} : a.or b = yes ↔ a = yes ∨ b = yes := by
  cases a <;> cases b <;> simp [or]

theorem all_cons_eq_yes {a : Truth} {l : List Truth} : all (a :: l) = yes ↔ a = yes ∧ all l = yes := and_eq_yes

theorem any_cons_eq_yes {a : Truth} {l : List Truth} : any (a :: l) = yes ↔ a = yes ∨ any l = yes := or_eq_yes

theorem all_eq_yes {l : List Truth} : all l = yes ↔ ∀ t ∈ l, t = yes := by
  induction l with
  | nil => simp [all]
  | cons a l ih =>
    rw [all_cons_eq_yes, ih, List.forall_mem_cons]

@[simp]
theorem ofBool_eq_yes {b : Bool} : ofBool b = yes ↔ b = true := by
  cases b <;> simp [ofBool]

end Truth

/-! ### The order of values -/

/-- The rational number that a decimal is. -/
def Decimal.rational (d : Decimal) : ℚ := d.unscaled / (Nat.pow 10 d.scale : ℕ)

/-- How PostgreSQL orders values of a type: numbers by size, with all NaN alike and above the rest; texts by their
characters; times from early to late. -/
def ValueType.order : (t : ValueType) → t.Carrier → t.Carrier → Ordering
  | .bool, a, b => compare a b
  | .int16, a, b => compare a.toInt b.toInt
  | .int32, a, b => compare a.toInt b.toInt
  | .int64, a, b => compare a.toInt b.toInt
  | .single, a, b => (PartialCompare.compare? a b).getD (compare a.isNaN b.isNaN)
  | .double, a, b => (PartialCompare.compare? a b).getD (compare a.isNaN b.isNaN)
  | .decimal, a, b => compare a.rational b.rational
  | .text, a, b => compare a b
  | .date, a, b => compare a.day b.day
  | .timestamp, a, b => (compare a.second b.second).then (compare a.nanosecond b.nanosecond)
  | .instant, a, b => (compare a.second b.second).then (compare a.nanosecond b.nanosecond)
  | .uuid, a, b => compare a.bits.toNat b.bits.toNat

/-! ### Predicates -/

/-- What a column is compared with: a parameter, or some or all elements of one. -/
inductive Operand
  | param (name : String)
  | any (name : String)
  | all (name : String)
deriving DecidableEq, Repr

/-- What a condition says of its column. -/
inductive Predicate
  | compare (column : String) (holds : Ordering → Bool) (operand : Operand)
  /-- The bits that the column shares with a parameter, compared with zero. -/
  | bits (column param : String) (holds : Ordering → Bool)
  | null (column : String) (isNull : Bool)

namespace Predicate

/-- A value of a column, which may be null, compared with a value of a type; none if it is of another type. -/
def comparison? (holds : Ordering → Bool) (x : Option Value) (t : ValueType) (y : t.Carrier) : Option Truth :=
  match x with
  | none => some .unknown
  | some x => (x.scalarOf? t).map fun a => .ofBool (holds (t.order a y))

/-- The bits that a value of a column, which may be null, shares with others, compared with zero; none if the value has
no bits. -/
def bitTest? (holds : Ordering → Bool) (x : Option Value) (bits : Int64) : Option Truth :=
  match x with
  | none => some .unknown
  | some x => (x.scalarOf? .int64).map fun a => .ofBool (holds (ValueType.order .int64 (a &&& bits) 0))

/-- The truth value on a row, whose columns may be null, with the parameters of a bag; none if a parameter is missing or
of a type that does not fit. -/
def truth? (row : String → Option Value) (bag : Params) : Predicate → Option Truth
  | compare column holds (.param name) => do
    let .scalar t y ← bag.get? name | none
    comparison? holds (row column) t y
  | compare column holds (.any name) => do
    let .array t ys ← bag.get? name | none
    (ys.mapM (comparison? holds (row column) t)).map .any
  | compare column holds (.all name) => do
    let .array t ys ← bag.get? name | none
    (ys.mapM (comparison? holds (row column) t)).map .all
  | bits column param holds => do
    let bits ← (← bag.get? param).scalarOf? .int64
    bitTest? holds (row column) bits
  | null column isNull => some (.ofBool ((row column).isNone == isNull))

/-! ### Reading predicates -/

/-- The signs between values, and the orders for which they hold. -/
def signs : List (List Char × (Ordering → Bool)) :=
  [("=".toList, Ordering.isEq), ("<>".toList, Ordering.isNe), (">".toList, Ordering.isGT),
    (">=".toList, Ordering.isGE), ("<".toList, Ordering.isLT), ("<=".toList, Ordering.isLE)]

/-- A column, whose name may have points in it. -/
def column? (s : List Char) : Option String :=
  if s ≠ [] ∧ s.all (fun c => Text.isWordChar c || c = '.') then some (String.ofList s) else none

/-- The name of a parameter. -/
def param? : List Char → Option String
  | '@' :: r => if r ≠ [] ∧ r.all Text.isWordChar then some (String.ofList r) else none
  | _ => none

/-- The text in front of a closing bracket. -/
def closed? (s : List Char) : Option (List Char) := if s.getLast? = some ')' then some s.dropLast else none

def operand? : List Char → Option Operand
  | 'A' :: 'N' :: 'Y' :: '(' :: r => (closed? r >>= param?).map .any
  | 'A' :: 'L' :: 'L' :: '(' :: r => (closed? r >>= param?).map .all
  | s => (param? s).map .param

/-- The predicate that words make. -/
def ofWords : List (List Char) → Option Predicate
  | [a, b, c] => do
    let column ← column? a
    if b = "IS".toList then if c = "NULL".toList then some (null column true) else none
    else return compare column (← signs.lookup b) (← operand? c)
  | [a, b, c, d] => do
    let column ← column? a
    if b = "IS".toList ∧ c = "NOT".toList ∧ d = "NULL".toList then some (null column false) else none
  | ['(' :: a, b, c, d, e] => do
    let column ← column? a
    if b = "&".toList ∧ e = "0".toList then
      return bits column (← closed? c >>= param?) (← signs.lookup d)
    else none
  | _ => none

/-- The predicate that a text is, if it is one. -/
def read (s : String) : Option Predicate := ofWords (s.toList.splitOn ' ')

end Predicate

/-- The truth value of a condition. -/
def Condition.truth? (row : String → Option Value) (bag : Params) (c : Condition) : Option Truth :=
  Predicate.read c.sql >>= Predicate.truth? row bag

/-- The truth value of the conjunction of conditions. -/
def conjunction? (row : String → Option Value) (bag : Params) (cs : List Condition) : Option Truth :=
  (cs.mapM (Condition.truth? row bag)).map Truth.all

/-! ### Written predicates are read -/

/-- A text that can stand for a column. -/
def IsColumnRef (s : String) : Prop := s.toList ≠ [] ∧ ∀ c ∈ s.toList, Text.isWordChar c = true ∨ c = '.'

/-- The orders of a column and a value for which a comparison holds. -/
def Comparison.holds : Comparison → Ordering → Bool
  | eq => Ordering.isEq
  | neq => Ordering.isNe
  | gt => Ordering.isGT
  | gte => Ordering.isGE
  | lt => Ordering.isLT
  | lte => Ordering.isLE

theorem Comparison.holds_iff (op : Comparison) (o : Ordering) :
    op.holds o = true ↔ match op with
      | .eq => o = .eq
      | .neq => o ≠ .eq
      | .gt => o = .gt
      | .gte => o = .gt ∨ o = .eq
      | .lt => o = .lt
      | .lte => o = .lt ∨ o = .eq := by
  cases op <;> cases o <;> simp [holds]

namespace Predicate

variable {column name : String}

private theorem column?_toList (h : IsColumnRef column) : column? column.toList = some column := by
  have hall : column.toList.all (fun c => Text.isWordChar c || c = '.') = true := by
    rw [List.all_eq_true]
    intro c hc
    simpa using h.2 c hc
  rw [column?, if_pos ⟨h.1, hall⟩, String.ofList_toList]

private theorem param?_cons (h : IsParamName name) : param? ('@' :: name.toList) = some name := by
  have hall : name.toList.all Text.isWordChar = true := List.all_eq_true.2 h.2
  rw [param?, if_pos ⟨h.1, hall⟩, String.ofList_toList]

private theorem closed?_concat (s : List Char) : closed? (s ++ [')']) = some s := by
  simp [closed?]

private theorem blank_notMem_column (h : IsColumnRef column) : ' ' ∉ column.toList := by
  intro hblank
  rcases h.2 _ hblank with h | h
  · exact absurd h (by decide)
  · exact absurd h (by decide)

private theorem blank_notMem_param (h : IsParamName name) : ' ' ∉ name.toList := fun hblank =>
  absurd (h.2 _ hblank) (by decide)

/-- A text of words with blanks between them is read word by word. -/
private theorem read_of_words {s : String} {words : List (List Char)} (hs : s.toList = [' '].intercalate words)
    (hblank : ∀ w ∈ words, ' ' ∉ w) (hne : words ≠ []) : read s = ofWords words := by
  rw [read, hs, List.splitOn_intercalate ' ' hblank hne]

private theorem operand?_param (h : IsParamName name) : operand? ('@' :: name.toList) = some (.param name) := by
  show (param? ('@' :: name.toList)).map Operand.param = _
  rw [param?_cons h]
  rfl

private theorem operand?_any (h : IsParamName name) :
    operand? ("ANY(".toList ++ ('@' :: name.toList ++ [')'])) = some (.any name) := by
  show (closed? ('@' :: name.toList ++ [')']) >>= param?).map Operand.any = _
  rw [closed?_concat]
  show (param? ('@' :: name.toList)).map Operand.any = _
  rw [param?_cons h]
  rfl

private theorem operand?_all (h : IsParamName name) :
    operand? ("ALL(".toList ++ ('@' :: name.toList ++ [')'])) = some (.all name) := by
  show (closed? ('@' :: name.toList ++ [')']) >>= param?).map Operand.all = _
  rw [closed?_concat]
  show (param? ('@' :: name.toList)).map Operand.all = _
  rw [param?_cons h]
  rfl

/-- A column, a sign and an operand are read as a comparison. -/
private theorem ofWords_compare (hc : IsColumnRef column) {sign operand : List Char} {holds : Ordering → Bool}
    {o : Operand} (hsign : signs.lookup sign = some holds) (ho : operand? operand = some o) :
    ofWords [column.toList, sign, operand] = some (compare column holds o) := by
  -- the other words of this number are those of a test for null
  have his : sign ≠ ['I', 'S'] := by
    rintro rfl
    cases hsign
  simp [ofWords, column?_toList hc, his, hsign, ho]

theorem read_comparison (hc : IsColumnRef column) (hn : IsParamName name) (op : Comparison) (v : Value) :
    read (Dialect.postgres.comparison op column name v).sql = some (compare column op.holds (.param name)) := by
  have hwords : (Dialect.postgres.comparison op column name v).sql.toList =
      [' '].intercalate [column.toList, op.sign.toList, '@' :: name.toList] := by
    simp [Dialect.comparison, Dialect.placeholder, Dialect.postgres, List.intercalate]
  have hsign : ' ' ∉ op.sign.toList ∧ signs.lookup op.sign.toList = some op.holds := by
    cases op <;> exact ⟨by decide, rfl⟩
  rw [read_of_words hwords ?_ (List.cons_ne_nil _ _)]
  · exact ofWords_compare hc hsign.2 (operand?_param hn)
  · simp [blank_notMem_column hc, blank_notMem_param hn, hsign.1]

theorem read_isIn (hc : IsColumnRef column) (hn : IsParamName name) (v : Value) :
    read (Dialect.postgres.membership .isIn column name v).sql = some (compare column Ordering.isEq (.any name)) := by
  have hwords : (Dialect.postgres.membership .isIn column name v).sql.toList =
      [' '].intercalate [column.toList, "=".toList, "ANY(".toList ++ ('@' :: name.toList ++ [')'])] := by
    simp [Dialect.membership, Dialect.placeholder, Dialect.postgres, List.intercalate]
  rw [read_of_words hwords ?_ (List.cons_ne_nil _ _)]
  · exact ofWords_compare hc rfl (operand?_any hn)
  · simp [blank_notMem_column hc, blank_notMem_param hn]

theorem read_notIn (hc : IsColumnRef column) (hn : IsParamName name) (v : Value) :
    read (Dialect.postgres.membership .notIn column name v).sql = some (compare column Ordering.isNe (.all name)) := by
  have hwords : (Dialect.postgres.membership .notIn column name v).sql.toList =
      [' '].intercalate [column.toList, "<>".toList, "ALL(".toList ++ ('@' :: name.toList ++ [')'])] := by
    simp [Dialect.membership, Dialect.placeholder, Dialect.postgres, List.intercalate]
  rw [read_of_words hwords ?_ (List.cons_ne_nil _ _)]
  · exact ofWords_compare hc rfl (operand?_all hn)
  · simp [blank_notMem_column hc, blank_notMem_param hn]

/-- The orders of the shared bits and zero for which a test of bits holds. -/
def flagHolds : FlagTest → Ordering → Bool
  | .has => Ordering.isNe
  | .hasNot => Ordering.isEq

theorem read_flag (hc : IsColumnRef column) (hn : IsParamName name) (test : FlagTest) (b : Int64) :
    read (Dialect.postgres.flag test column name b).sql = some (bits column name (flagHolds test)) := by
  obtain ⟨sign, hsign⟩ : ∃ sign : String, sign = match test with | .has => "<>" | .hasNot => "=" := ⟨_, rfl⟩
  have hwords : (Dialect.postgres.flag test column name b).sql.toList = [' '].intercalate
      ['(' :: column.toList, "&".toList, '@' :: name.toList ++ [')'], sign.toList, "0".toList] := by
    cases test <;> simp [Dialect.flag, Dialect.placeholder, Dialect.postgres, List.intercalate, hsign]
  have hlookup : ' ' ∉ sign.toList ∧ signs.lookup sign.toList = some (flagHolds test) := by
    cases test <;> subst hsign <;> exact ⟨by decide, rfl⟩
  rw [read_of_words hwords ?_ (List.cons_ne_nil _ _)]
  · have hparam : (closed? ('@' :: name.toList ++ [')']) >>= param?) = some name := by
      rw [closed?_concat]
      exact param?_cons hn
    simp only [ofWords, column?_toList hc, hparam, hlookup.2]
    rfl
  · simp [blank_notMem_column hc, blank_notMem_param hn, hlookup.1]

theorem read_nullCheck (hc : IsColumnRef column) (isNull : Bool) :
    read (Dialect.nullCheck column isNull).sql = some (null column isNull) := by
  cases isNull with
  | true =>
    have hwords : (Dialect.nullCheck column true).sql.toList =
        [' '].intercalate [column.toList, "IS".toList, "NULL".toList] := by
      simp [Dialect.nullCheck, List.intercalate]
    rw [read_of_words hwords ?_ (List.cons_ne_nil _ _)]
    · simp [ofWords, column?_toList hc]
    · simp [blank_notMem_column hc]
  | false =>
    have hwords : (Dialect.nullCheck column false).sql.toList =
        [' '].intercalate [column.toList, "IS".toList, "NOT".toList, "NULL".toList] := by
      simp [Dialect.nullCheck, List.intercalate]
    rw [read_of_words hwords ?_ (List.cons_ne_nil _ _)]
    · simp [ofWords, column?_toList hc]
    · simp [blank_notMem_column hc]

end Predicate

end SqlFilter
