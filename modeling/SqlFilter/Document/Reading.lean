import SqlFilter.Document.Basic
import SqlFilter.Filter.Basic

/-!
# Reading documents

A `Reader` takes a value out of a document, or finds that the document has not the form it must have.  A record is a
table, or the list of its first fields in order; an optional field may be missing or null, a field with a default may
only be missing.
-/

namespace SqlFilter

/-- Takes a value of a type out of a document. -/
abbrev Reader (α : Type) := Document → Option α

namespace Reader

variable {α : Type}

def bool : Reader Bool
  | .bool b => some b
  | _ => none

def text : Reader String
  | .text s => some s
  | _ => none

def integerIn (least greatest : Int) (f : Int → α) : Reader α
  | .integer n => if least ≤ n ∧ n ≤ greatest then some (f n) else none
  | _ => none

/-- Reads an integer of 32 bits. -/
def int32 : Reader Int32 := integerIn Int32.minValue.toInt Int32.maxValue.toInt Int32.ofInt

/-- Reads an integer of 64 bits. -/
def int64 : Reader Int64 := integerIn Int64.minValue.toInt Int64.maxValue.toInt Int64.ofInt

/-- Reads a number of 64 bits: any number, or a text that names one. -/
def double : Reader Double
  | .integer n => some (Binary.ofDecimal (n < 0) n.natAbs 0)
  | .real x => some x
  | .text s => Binary.ofText? s
  | _ => none

/-- Reads a decimal: a text, or a number by its shortest digits. -/
def decimal : Reader Decimal
  | .integer n => Decimal.ofInt? n
  | .real x => Decimal.ofDouble? x
  | .text s => Decimal.ofText? s
  | _ => none

/-- Reads a text of a form of its own. -/
def textual (parse : String → Option α) : Reader α := fun d => (text d).bind parse

def nullable (r : Reader α) : Reader (Option α)
  | .null => some none
  | d => (r d).map some

def list (r : Reader α) : Reader (List α)
  | .list items => items.mapM r
  | _ => none

/-- Reads one of several names: a text, or a table with that one name and a content of `isNothing`. -/
def oneOfWith (isNothing : Document → Bool) (names : String → Option α) : Reader α
  | .text s => names s
  | .table [(s, d)] => if isNothing d then names s else none
  | _ => none

/-- Reads one of several names, where null stands for no content. -/
def oneOf (names : String → Option α) : Reader α := oneOfWith Document.isNull names

/-- The fields of a record by name.  A list gives the first of them in order. -/
def record (fields : List String) : Reader Document
  | .table entries => some (.table entries)
  | .list items => if items.length ≤ fields.length then some (.table (fields.zip items)) else none
  | _ => none

/-- Reads a field that may be missing or null. -/
def optional (name : String) (r : Reader α) : Reader (Option α) := fun d =>
  match d.entry? name with
  | some e => nullable r e
  | none => some none

/-- Reads a field that may be missing. -/
def defaulted (name : String) (default : α) (r : Reader α) : Reader α := fun d =>
  match d.entry? name with
  | some e => r e
  | none => some default

/-- Reads a field that must be there. -/
def required (name : String) (r : Reader α) : Reader α := fun d => (d.entry? name).bind r

/-- Reads one value of a type. -/
def ofType : (t : ValueType) → Reader t.Carrier
  | .bool => bool
  | .int16 => integerIn Int16.minValue.toInt Int16.maxValue.toInt Int16.ofInt
  | .int32 => int32
  | .int64 => int64
  | .single => fun d => (double d).map Binary.convert
  | .double => double
  | .decimal => decimal
  | .text => text
  | .date => textual Date.ofText?
  | .timestamp => textual Timestamp.ofText?
  | .instant => textual Timestamp.ofZonedText?
  | .uuid => textual Uuid.ofText?

/-- Reads a single value of a type, or an array of them. -/
def value (t : ValueType) (isArray : Bool) : Reader Value := fun d =>
  if isArray then (list (ofType t) d).map (.array t) else (ofType t d).map (.scalar t)

/-- Reads one number of a type. -/
def ofNumericType : (t : NumericType) → Reader t.Carrier
  | .int8 => integerIn Int8.minValue.toInt Int8.maxValue.toInt Int8.ofInt
  | .uint8 => integerIn 0 (UInt8.size - 1) UInt8.ofInt
  | .uint16 => integerIn 0 (UInt16.size - 1) UInt16.ofInt
  | .uint32 => integerIn 0 (UInt32.size - 1) UInt32.ofInt
  | .uint64 => integerIn 0 (UInt64.size - 1) UInt64.ofInt
  | .int16 => ofType .int16
  | .int32 => ofType .int32
  | .int64 => ofType .int64
  | .single => ofType .single
  | .double => ofType .double
  | .decimal => ofType .decimal

/-- Reads one date of a type. -/
def ofDateType : (t : DateType) → Reader t.Carrier
  | .date => ofType .date
  | .timestamp => ofType .timestamp
  | .instant => ofType .instant

end Reader

end SqlFilter
