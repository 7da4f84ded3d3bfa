import SqlFilter.Query.Basic

/-!
# Tests

A test is one question that a filter puts to its column.  Every field that is set in a filter is one test, in a fixed
order, and every test becomes one condition.
-/

namespace SqlFilter

/-- A question to a column. -/
inductive Test
  | compare (op : Comparison) (v : Value)
  | compareText (op : Comparison) (term : String) (caseSensitive : Bool)
  | member (op : Membership) (v : Value)
  | memberText (op : Membership) (terms : List String) (caseSensitive : Bool)
  | pattern (shape : Shape) (term : String) (caseSensitive : Bool)
  | flag (test : FlagTest) (bits : Int64)
  | null (isNull : Bool)
deriving DecidableEq

namespace Test

/-- The tag of the operator; a test for null has no parameter and no tag. -/
def tag? : Test → Option String
  | compare op _ => some op.tag
  | compareText op _ _ => some op.tag
  | member op _ => some op.tag
  | memberText op _ _ => some op.tag
  | pattern shape _ _ => some shape.tag
  | flag test _ => some test.tag
  | null _ => none

/-- The condition of a test on a resolved column, with its parameter's name. -/
def condition (d : Dialect) (column param : String) : Test → Condition
  | compare op v => d.comparison op column param v
  | compareText op term cs => d.textComparison op column param term cs
  | member op v => d.membership op column param v
  | memberText op terms cs => d.textMembership op column param terms cs
  | pattern shape term cs => d.pattern shape column param term cs
  | flag test bits => d.flag test column param bits
  | null isNull => Dialect.nullCheck column isNull

end Test

/-- The test for null of a filter. -/
def nullTests (isNull : Option Bool) : List Test := isNull.toList.map .null

/-- The comparison of a field with its value. -/
def compareTests {α : Type} (s : Storage α) (op : Comparison) (x : Option α) : List Test :=
  x.toList.map fun x => .compare op (s.scalar x)

/-- Collects bound values into an array; refused if they are not single values of one type. -/
def arrayValue (column : String) (vs : List Value) : Except QueryError Value :=
  match Value.array? vs with
  | some v => .ok v
  | none => .error (.unsupportedType ((vs.head?.map fun v => v.type.name).getD "empty array") column)

/-- The test of a field against its list, whose values are bound one by one and then collected. -/
def memberTests {α : Type} (s : Storage α) (column : String) (op : Membership) (xs : Option (List (Option α))) :
    Except QueryError (List Test) :=
  match xs with
  | none => .ok []
  | some xs => (arrayValue column ((present xs).map s.scalar)).map fun v => [.member op v]

/-- The tests of a filter on truth values. -/
def BooleanFilter.tests (f : BooleanFilter) : List Test :=
  compareTests (Storage.self .bool) .eq f.eq ++ compareTests (Storage.self .bool) .neq f.neq ++ nullTests f.isNull

/-- The tests of a filter on values with an order. -/
def RangeFilter.tests {α : Type} (s : Storage α) (column : String) (f : RangeFilter α) :
    Except QueryError (List Test) := do
  let isIn ← memberTests s column .isIn f.isIn
  let notIn ← memberTests s column .notIn f.notIn
  return compareTests s .eq f.eq ++ compareTests s .neq f.neq ++ compareTests s .gt f.gt ++ compareTests s .gte f.gte ++
    compareTests s .lt f.lt ++ compareTests s .lte f.lte ++ isIn ++ notIn ++ nullTests f.isNull

/-- The tests of a filter on an enumeration. -/
def EnumFilter.tests {α : Type} [Enumeration α] (column : String) (f : EnumFilter α) :
    Except QueryError (List Test) := do
  let s : Storage α := f.mode.storage
  let isIn ← memberTests s column .isIn f.isIn
  let notIn ← memberTests s column .notIn f.notIn
  return compareTests s .eq f.eq ++ compareTests s .neq f.neq ++ isIn ++ notIn ++ nullTests f.isNull

/-- The tests of a filter on identifiers, whose lists are arrays as they are. -/
def IdFilter.tests (f : IdFilter) : List Test :=
  let s := Storage.self .uuid
  compareTests s .eq f.eq ++ compareTests s .neq f.neq ++
    f.isIn.toList.map (fun xs => .member .isIn (s.array (present xs))) ++
    f.notIn.toList.map (fun xs => .member .notIn (s.array (present xs))) ++ nullTests f.isNull

/-- The tests of a filter on bits. -/
def FlagsFilter.tests {α : Type} [FlagSet α] (f : FlagsFilter α) : List Test :=
  f.has.toList.map (fun x => .flag .has (FlagSet.bits x)) ++
    f.hasNot.toList.map (fun x => .flag .hasNot (FlagSet.bits x)) ++ nullTests f.isNull

/-- The tests of a filter on text. -/
def TextFilter.tests (f : TextFilter) : List Test :=
  let cs := f.caseSensitive
  f.eq.toList.map (.compareText .eq · cs) ++ f.neq.toList.map (.compareText .neq · cs) ++
    f.contains.toList.map (.pattern .contains · cs) ++ f.startsWith.toList.map (.pattern .startsWith · cs) ++
    f.endsWith.toList.map (.pattern .endsWith · cs) ++
    f.isIn.toList.map (fun xs => .memberText .isIn (present xs) cs) ++
    f.notIn.toList.map (fun xs => .memberText .notIn (present xs) cs) ++ nullTests f.isNull

end SqlFilter
