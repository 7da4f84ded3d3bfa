import SqlFilter.Value.Send

/-!
# Values on the wire

The binary form in which the database receives parameters, as its protocol describes it.  A column type accepts the
values of one value type; numbers are big-endian, dates and timestamps count from 1 January 2000, and a decimal is a
list of digits to the base 10000.  `Library.direct` writes just this.
-/

namespace SqlFilter

namespace Wire

/-- The value types with the numbers of the column types that accept their values. -/
def pairs : List (ValueType × UInt32) :=
  [(.bool, 16), (.int16, 21), (.int32, 23), (.int64, 20), (.single, 700), (.double, 701), (.decimal, 1700),
    -- `text`, `varchar`, `bpchar`, `name` and the type of what has no type yet
    (.text, 25), (.text, 1043), (.text, 1042), (.text, 19), (.text, 705),
    (.date, 1082), (.timestamp, 1114), (.instant, 1184), (.uuid, 2950)]

/-! ### Single values -/

/-- The last bytes of a number, most significant first. -/
def bytes : Nat → Nat → List UInt8
  | 0, _ => []
  | k + 1, n => UInt8.ofNat (n / Nat.pow 256 k) :: bytes k n

/-- The last bytes of an integer in two's complement, most significant first. -/
def intBytes (k : Nat) (n : Int) : List UInt8 := bytes k (n % Nat.pow 256 k).toNat

/-- The digits of a number to the base 10000, least significant first. -/
def groups (n : Nat) : List Nat := if n = 0 then [] else n % 10000 :: groups (n / 10000)

/-- Takes zeros off the front, at most so many. -/
def dropZeros : Nat → List Nat → List Nat
  | k + 1, 0 :: r => dropZeros k r
  | _, s => s

/-- A decimal: the number of digits, the weight of the first, the sign, the places, and the digits to the base 10000.
Zero has no digits and no places.  Zeros at the end behind the point are left out unless the number is below 1. -/
def decimalForm (d : Decimal) : List UInt8 :=
  if d.coefficient = 0 then bytes 8 0
  else
    let behind := (d.scale + 3) / 4
    let low := groups (d.coefficient * Nat.pow 10 (4 * behind - d.scale))
    let weight : Int := (low.length : Int) - behind - 1
    let kept := if 0 ≤ weight then dropZeros behind low else low
    bytes 2 kept.length ++ intBytes 2 weight ++ bytes 2 (if d.negative then 0x4000 else 0) ++
      bytes 2 d.scale ++ kept.reverse.flatMap (bytes 2)

/-- The bytes of a single value. -/
def form : (t : ValueType) → t.Carrier → List UInt8
  | .bool, b => [if b then 1 else 0]
  | .int16, n => intBytes 2 n.toInt
  | .int32, n => intBytes 4 n.toInt
  | .int64, n => intBytes 8 n.toInt
  | .single, x => bytes 4 x.bits.toNat
  | .double, x => bytes 8 x.bits.toNat
  | .decimal, d => decimalForm d
  | .text, s => s.toUTF8.data.toList
  | .date, d => intBytes 4 d.day
  | .timestamp, t => intBytes 8 t.microseconds
  | .instant, t => intBytes 8 t.microseconds
  | .uuid, u => bytes 16 u.bits.toNat

/-! ### Arrays -/

/-- What is counted has to be fewer than so many, as counts have 32 bits of which one is a sign. -/
def countLimit : Nat := 2147483648

/-- A list of bytes after their number. -/
def counted (s : List UInt8) : List UInt8 := bytes 4 s.length ++ s

/-- The index of the first element; two old types of arrays start with 0. -/
def firstIndex (number : UInt32) : Nat := if number = 22 ∨ number = 30 then 0 else 1

/-- An array of one dimension for a column type with elements of a type: its head, then every element after its number
of bytes. -/
def arrayForm (number element : UInt32) (elements : List (List UInt8)) : List UInt8 :=
  bytes 4 1 ++ bytes 4 0 ++ bytes 4 element.toNat ++ bytes 4 elements.length ++ bytes 4 (firstIndex number) ++
    elements.flatMap counted

/-- The number of elements and the numbers of their bytes can be counted. -/
abbrev Countable (elements : List (List UInt8)) : Prop :=
  elements.length < countLimit ∧ ∀ s ∈ elements, s.length < countLimit

/-- The types of the elements, by number, of those array types whose elements accept some value. -/
def elementNumber? : UInt32 → Option UInt32
  | 22 => some 21
  | 1000 => some 16
  | 1003 => some 19
  | 1005 => some 21
  | 1007 => some 23
  | 1009 => some 25
  | 1014 => some 1042
  | 1015 => some 1043
  | 1016 => some 20
  | 1021 => some 700
  | 1022 => some 701
  | 1115 => some 1114
  | 1182 => some 1082
  | 1185 => some 1184
  | 1231 => some 1700
  | 2951 => some 2950
  | _ => none

end Wire

namespace Writer

def put (s : List UInt8) : Writer := fun out => (.ok .no, out ++ s)

def fail (e : SendError) : Writer := fun out => (.error e, out)

end Writer

open Wire in
/-- Writes the forms that the protocol describes, for column types that are given by their numbers. -/
def Library.direct : Library UInt32 where
  number n := n
  element? := elementNumber?
  single t := ⟨fun n => decide ((t, n) ∈ pairs), fun x _ => Writer.put (form t x)⟩
  list t := {
    accepts n := (elementNumber? n).any fun e => decide ((t, e) ∈ pairs)
    write xs n :=
      let elements := xs.map (form t)
      if Countable elements then Writer.put (arrayForm n ((elementNumber? n).getD 0) elements)
      else Writer.fail .tooLarge }
  checked c x n := if c.accepts n then c.write x n else Writer.fail .wrongType

end SqlFilter
