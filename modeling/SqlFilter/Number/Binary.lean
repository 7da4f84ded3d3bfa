import SqlFilter.Number.Order
import SqlFilter.Number.Rounding

/-!
# Binary floating point

A number in a binary interchange format is its bits: a sign, an exponent field and a fraction field.  The bits below the
sign, read as a number, grow with the absolute value, so they carry the order; a magnitude above that of infinity is a
NaN, which is unrelated to every number.
-/

namespace SqlFilter

/-- The widths of the fields of a binary interchange format. -/
structure BinaryFormat where
  fractionBits : Nat
  exponentBits : Nat
deriving DecidableEq, Repr

namespace BinaryFormat

def single : BinaryFormat := ⟨23, 8⟩

def double : BinaryFormat := ⟨52, 11⟩

/-- The number of bits below the sign. -/
def magnitudeBits (f : BinaryFormat) : Nat := f.exponentBits + f.fractionBits

def width (f : BinaryFormat) : Nat := f.magnitudeBits + 1

/-- The magnitude of infinity: an exponent field of ones. -/
def infinity (f : BinaryFormat) : Nat := (Nat.pow 2 f.exponentBits - 1) * Nat.pow 2 f.fractionBits

/-- The magnitude of the NaN that a text or an operation yields. -/
def nan (f : BinaryFormat) : Nat := f.infinity + Nat.pow 2 (f.fractionBits - 1)

/-- The binary exponent of the last fraction bit of the smallest numbers. -/
def leastExponent (f : BinaryFormat) : Int := 2 - Nat.pow 2 (f.exponentBits - 1) - f.fractionBits

end BinaryFormat

/-- A number in a binary interchange format. -/
structure Binary (f : BinaryFormat) where
  bits : BitVec f.width
deriving DecidableEq, Repr

/-- A positive significand times a power of two. -/
structure Dyadic where
  significand : Nat
  exponent : Int
deriving DecidableEq, Repr

namespace Binary

variable {f : BinaryFormat}

/-- The number with the given sign and magnitude. -/
def ofFields (negative : Bool) (magnitude : Nat) : Binary f :=
  ⟨BitVec.ofNat _ ((if negative then Nat.pow 2 f.magnitudeBits else 0) + magnitude)⟩

def isNegative (x : Binary f) : Bool := Nat.pow 2 f.magnitudeBits ≤ x.bits.toNat

/-- The bits below the sign as a number. -/
def magnitude (x : Binary f) : Nat := x.bits.toNat % Nat.pow 2 f.magnitudeBits

/-- The value is not a number. -/
def isNaN (x : Binary f) : Bool := f.infinity < x.magnitude

/-- The value is neither infinite nor a NaN. -/
def isFinite (x : Binary f) : Bool := x.magnitude < f.infinity

/-- An integer that orders the numbers; both zeros have the key 0. -/
def key (x : Binary f) : Int := if x.isNegative then -x.magnitude else x.magnitude

instance : PartialCompare (Binary f) :=
  ⟨fun a b => if a.isNaN || b.isNaN then none else some (compare a.key b.key)⟩

/-- The absolute value of a finite number as a significand and an exponent. -/
def toDyadic (x : Binary f) : Dyadic :=
  let field := x.magnitude / Nat.pow 2 f.fractionBits
  let fraction := x.magnitude % Nat.pow 2 f.fractionBits
  if field = 0 then ⟨fraction, f.leastExponent⟩
  else ⟨Nat.pow 2 f.fractionBits + fraction, f.leastExponent + (field - 1)⟩

end Binary

namespace BinaryFormat

/-- The exponent of the last place when the quotient is written with a full significand. -/
private def fullExponent (f : BinaryFormat) (num den : Nat) : Int :=
  let e : Int := (num.log2 : Int) - den.log2 - f.fractionBits
  -- the quotient lies between `2 ^ (log2 num - log2 den - 1)` and `2 ^ (log2 num - log2 den + 1)`
  let below := num * Nat.pow 2 (-e).toNat < den * Nat.pow 2 e.toNat * Nat.pow 2 f.fractionBits
  if below then e - 1 else e

/-- The magnitude nearest to a quotient, a tie going to the even one, and infinity where the quotient is out of range.
The significand with its leading bit is added onto the exponent field one below, so a carry out of rounding needs no
care. -/
def nearest (f : BinaryFormat) (num den : Nat) : Nat :=
  if num = 0 then 0
  else
    let e := max (f.fullExponent num den) f.leastExponent
    let m := divNearest .even (num * Nat.pow 2 (-e).toNat) (den * Nat.pow 2 e.toNat)
    min f.infinity ((e - f.leastExponent).toNat * Nat.pow 2 f.fractionBits + m)

end BinaryFormat

namespace Binary

variable {f : BinaryFormat}

/-- The number nearest to a dyadic one. -/
def ofDyadic (negative : Bool) (d : Dyadic) : Binary f :=
  ofFields negative (f.nearest (d.significand * Nat.pow 2 d.exponent.toNat) (Nat.pow 2 (-d.exponent).toNat))

/-- The number nearest to `m * 10 ^ e`.  Exponents far out of range are settled by the number of digits alone. -/
def ofDecimal (negative : Bool) (m : Nat) (e : Int) : Binary f :=
  let digits : Int := (Nat.toDigits 10 m).length + e
  let reach : Int := Nat.pow 2 f.exponentBits + f.fractionBits
  if m = 0 ∨ digits < -reach then ofFields negative 0
  else if reach < digits then ofFields negative f.infinity
  else ofFields negative (f.nearest (m * Nat.pow 10 e.toNat) (Nat.pow 10 (-e).toNat))

/-- The number in another format: the nearest one, infinities and NaN kept. -/
def convert {g : BinaryFormat} (x : Binary f) : Binary g :=
  if x.isNaN then ofFields x.isNegative g.nan
  else if x.isFinite then ofDyadic x.isNegative x.toDyadic
  else ofFields x.isNegative g.infinity

end Binary

abbrev Single := Binary .single

abbrev Double := Binary .double

end SqlFilter
