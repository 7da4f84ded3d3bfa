import SqlFilter.Number.Decimal
import SqlFilter.Time.Timestamp
import SqlFilter.Uuid

/-!
# Bound values

There are twelve types of values.  A `Value` is one value of a type or a list of values of one type, so the elements of
an array agree by construction; `Value.array?` collects separate values into an array and refuses any other list.
-/

namespace SqlFilter

/-- The types of values that can be bound. -/
inductive ValueType
  | bool
  | int16
  | int32
  | int64
  | single
  | double
  | decimal
  | text
  | date
  | timestamp
  /-- A timestamp with a zone. -/
  | instant
  | uuid
deriving DecidableEq, Repr

namespace ValueType

/-- All types, in the order of their declaration. -/
def all : List ValueType :=
  [.bool, .int16, .int32, .int64, .single, .double, .decimal, .text, .date, .timestamp, .instant, .uuid]

def name : ValueType → String
  | .bool => "bool"
  | .int16 => "i16"
  | .int32 => "i32"
  | .int64 => "i64"
  | .single => "f32"
  | .double => "f64"
  | .decimal => "Decimal"
  | .text => "String"
  | .date => "NaiveDate"
  | .timestamp => "NaiveDateTime"
  | .instant => "DateTime<Utc>"
  | .uuid => "Uuid"

/-- The values of a type.  An instant is the timestamp that it has in UTC. -/
abbrev Carrier : ValueType → Type
  | .bool => Bool
  | .int16 => Int16
  | .int32 => Int32
  | .int64 => Int64
  | .single => Single
  | .double => Double
  | .decimal => Decimal
  | .text => String
  | .date => Date
  | .timestamp => Timestamp
  | .instant => Timestamp
  | .uuid => Uuid

instance decEqCarrier : (t : ValueType) → DecidableEq t.Carrier
  | .bool => inferInstanceAs (DecidableEq Bool)
  | .int16 => inferInstanceAs (DecidableEq Int16)
  | .int32 => inferInstanceAs (DecidableEq Int32)
  | .int64 => inferInstanceAs (DecidableEq Int64)
  | .single => inferInstanceAs (DecidableEq Single)
  | .double => inferInstanceAs (DecidableEq Double)
  | .decimal => inferInstanceAs (DecidableEq Decimal)
  | .text => inferInstanceAs (DecidableEq String)
  | .date => inferInstanceAs (DecidableEq Date)
  | .timestamp => inferInstanceAs (DecidableEq Timestamp)
  | .instant => inferInstanceAs (DecidableEq Timestamp)
  | .uuid => inferInstanceAs (DecidableEq Uuid)

end ValueType

/-- A value that can be bound to a parameter. -/
inductive Value
  | scalar (type : ValueType) (x : type.Carrier)
  | array (type : ValueType) (xs : List type.Carrier)
deriving DecidableEq

namespace Value

/-- The type of a single value, or of the elements of an array. -/
def type : Value → ValueType
  | scalar t _ => t
  | array t _ => t

def isArray : Value → Bool
  | scalar _ _ => false
  | array _ _ => true

/-- The single value of the given type that a value is. -/
def scalarOf? (t : ValueType) : Value → Option t.Carrier
  | scalar u x => if h : u = t then some (h ▸ x) else none
  | array _ _ => none

/-- Collects single values of one type, at least one, into an array. -/
def array? : List Value → Option Value
  | [] => none
  | array _ _ :: _ => none
  | scalar t x :: vs => (vs.mapM (scalarOf? t)).map fun xs => array t (x :: xs)

abbrev text (s : String) : Value := scalar .text s

abbrev int64 (n : Int64) : Value := scalar .int64 n

end Value

/-- How the elements of a type are bound: as values of one type. -/
structure Storage (α : Type) where
  type : ValueType
  store : α → type.Carrier

namespace Storage

variable {α : Type}

/-- The bound form of one element. -/
def scalar (s : Storage α) (x : α) : Value := .scalar s.type (s.store x)

/-- The bound form of a list of elements. -/
def array (s : Storage α) (xs : List α) : Value := .array s.type (xs.map s.store)

/-- The values of a type are bound as they are. -/
def self (t : ValueType) : Storage t.Carrier := ⟨t, id⟩

end Storage

end SqlFilter
