import SqlFilter.Value.Basic

/-!
# Sending values

A value is sent to a column as the value inside it.  Which columns accept it and what is written for it is left to the
libraries that bring the types of the values inside, and to the library that speaks with the database (`Library`).
-/

namespace SqlFilter

/-- Why a value cannot be sent. -/
inductive SendError
  /-- The column is of a type that does not accept the value. -/
  | wrongType
  /-- A length does not fit into the number that is written for it. -/
  | tooLarge
deriving DecidableEq, Repr

/-- Whether a null was sent, whose bytes do not count. -/
inductive IsNull
  | yes
  | no
deriving DecidableEq, Repr

/-- Writes at the end of a buffer; a failure may leave a part of what was to be written. -/
abbrev Writer : Type := List UInt8 → Except SendError IsNull × List UInt8

/-- How the values of a type are sent: the column types that accept them, and what is written for such a column. -/
structure Encoder (Ty α : Type) where
  accepts : Ty → Bool
  write : α → Ty → Writer

/-- The column types that come with a database; extensions of it may bring others. -/
structure ColumnTypes (Ty : Type) where
  /-- The number by which the database knows a type. -/
  number : Ty → UInt32
  /-- The type of the elements, if the type is that of arrays. -/
  element? : Ty → Option Ty

/-- What is left to libraries: the list of column types, the encoders of single values and of lists, and the check that
comes before an encoder. -/
structure Library (Ty : Type) extends ColumnTypes Ty where
  single : (t : ValueType) → Encoder Ty t.Carrier
  list : (t : ValueType) → Encoder Ty (List t.Carrier)
  checked : {α : Type} → Encoder Ty α → α → Ty → Writer

namespace Value

variable {Ty : Type} (lib : Library Ty)

/-- The value inside, ready to be sent to a column. -/
def inner : Value → Ty → Writer
  | scalar t x => lib.checked (lib.single t) x
  | array t xs => lib.checked (lib.list t) xs

/-- A value accepts any column, since the value inside makes its own check. -/
def encoder : Encoder Ty Value where
  accepts _ := true
  write v type := v.inner lib type

/-- Sends a value to a column. -/
def send (v : Value) (type : Ty) : Writer := lib.checked (encoder lib) v type

end Value

end SqlFilter
