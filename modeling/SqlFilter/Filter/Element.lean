import SqlFilter.Value.Basic

/-!
# Elements of filters

The types of numbers and of dates that a filter can speak of, what the types of members and of flags provide, and how
each of them is bound.  Five widths of integers can be filtered for but not bound.
-/

namespace SqlFilter

/-- The types of numbers in filters. -/
inductive NumericType
  | int8
  | uint8
  | uint16
  | uint32
  | uint64
  | int16
  | int32
  | int64
  | single
  | double
  | decimal
deriving DecidableEq, Repr

namespace NumericType

abbrev Carrier : NumericType → Type
  | .int8 => Int8
  | .uint8 => UInt8
  | .uint16 => UInt16
  | .uint32 => UInt32
  | .uint64 => UInt64
  | .int16 => Int16
  | .int32 => Int32
  | .int64 => Int64
  | .single => Single
  | .double => Double
  | .decimal => Decimal

def name : NumericType → String
  | .int8 => "i8"
  | .uint8 => "u8"
  | .uint16 => "u16"
  | .uint32 => "u32"
  | .uint64 => "u64"
  | .int16 => ValueType.int16.name
  | .int32 => ValueType.int32.name
  | .int64 => ValueType.int64.name
  | .single => ValueType.single.name
  | .double => ValueType.double.name
  | .decimal => ValueType.decimal.name

/-- How the numbers of a type are bound; none for the types that cannot be. -/
def storage? : (t : NumericType) → Option (Storage t.Carrier)
  | .int16 => some (Storage.self .int16)
  | .int32 => some (Storage.self .int32)
  | .int64 => some (Storage.self .int64)
  | .single => some (Storage.self .single)
  | .double => some (Storage.self .double)
  | .decimal => some (Storage.self .decimal)
  | _ => none

instance partialCompare : (t : NumericType) → PartialCompare t.Carrier
  | .int8 => inferInstanceAs (PartialCompare Int8)
  | .uint8 => inferInstanceAs (PartialCompare UInt8)
  | .uint16 => inferInstanceAs (PartialCompare UInt16)
  | .uint32 => inferInstanceAs (PartialCompare UInt32)
  | .uint64 => inferInstanceAs (PartialCompare UInt64)
  | .int16 => inferInstanceAs (PartialCompare Int16)
  | .int32 => inferInstanceAs (PartialCompare Int32)
  | .int64 => inferInstanceAs (PartialCompare Int64)
  | .single => inferInstanceAs (PartialCompare Single)
  | .double => inferInstanceAs (PartialCompare Double)
  | .decimal => inferInstanceAs (PartialCompare Decimal)

end NumericType

/-- The types of dates in filters. -/
inductive DateType
  | date
  | timestamp
  | instant
deriving DecidableEq, Repr

namespace DateType

abbrev Carrier : DateType → Type
  | .date => Date
  | .timestamp => Timestamp
  | .instant => Timestamp

/-- Dates are bound as they are. -/
def storage : (t : DateType) → Storage t.Carrier
  | .date => Storage.self .date
  | .timestamp => Storage.self .timestamp
  | .instant => Storage.self .instant

instance partialCompare : (t : DateType) → PartialCompare t.Carrier
  | .date => inferInstanceAs (PartialCompare Date)
  | .timestamp => inferInstanceAs (PartialCompare Timestamp)
  | .instant => inferInstanceAs (PartialCompare Timestamp)

end DateType

/-- Types whose values are the members of an enumeration.  Members have names and numbers, and are told apart by an
equality of their own, of which nothing is asked. -/
class Enumeration (α : Type) extends BEq α where
  name : α → String
  number : α → Int32

/-- Types whose values stand for bits. -/
class FlagSet (α : Type) where
  bits : α → Int64

instance : FlagSet Int64 where
  bits n := n

/-- A member of an enumeration that is given by its names and numbers. -/
structure Member where
  name : String
  number : Int32
deriving DecidableEq, Repr

instance : Enumeration Member where
  name := Member.name
  number := Member.number

/-- How the members of an enumeration are stored in a column. -/
inductive EnumMode
  /-- By number. -/
  | byValue
  /-- By name. -/
  | byName
  /-- By number, written as text. -/
  | byValueAsText
deriving DecidableEq, Repr

namespace EnumMode

/-- The type of the values that are bound for members. -/
def type : EnumMode → ValueType
  | byValue => .int32
  | byName | byValueAsText => .text

/-- How the members of an enumeration are bound. -/
def storage {α : Type} [Enumeration α] : EnumMode → Storage α
  | byValue => ⟨.int32, Enumeration.number⟩
  | byName => ⟨.text, Enumeration.name⟩
  | byValueAsText => ⟨.text, fun m => Text.integer (Enumeration.number m).toInt⟩

end EnumMode

end SqlFilter
