import Mathlib.Algebra.Field.Rat
import Mathlib.Data.List.Forall2
import Mathlib.Tactic.Ring
import SqlFilter.Value.Wire

/-!
# Reading values from the wire

The binary form of values from the side of the database, written down without what is sent: the format that each column
type has (`ColumnTypes.format?`), what a column of this format holds, and how that is read from bytes
(`ColumnFormat.read?`).  A reader takes what it needs off the front of the bytes.  Readers are related to the bytes that
are sent by `Wire.Reads`: the bytes are what is taken off, whatever comes after them.
-/

namespace SqlFilter

/-- A decimal that the database holds: a value, and how many decimal places it is written with. -/
structure Numeric where
  value : ℚ
  scale : Nat
deriving DecidableEq

/-- The binary formats of single values. -/
inductive WireFormat
  | bool
  | int2
  | int4
  | int8
  | float4
  | float8
  | numeric
  | text
  | date
  | timestamp
  | timestamptz
  | uuid
deriving DecidableEq, Repr

/-- What a column of single values holds.  Timestamps are whole microseconds from 2000-01-01T00:00:00 on. -/
abbrev WireFormat.Datum : WireFormat → Type
  | .bool => Bool
  | .int2 | .int4 | .int8 => Int
  | .float4 => Single
  | .float8 => Double
  | .numeric => Numeric
  | .text => String
  | .date => Date
  | .timestamp | .timestamptz => Int
  | .uuid => Uuid

/-- The format of the column type that the database knows by a number; of the types that are not listed, none is a type
of columns that accept a value. -/
def WireFormat.ofNumber? : UInt32 → Option WireFormat
  | 16 => some .bool
  | 19 => some .text
  | 20 => some .int8
  | 21 => some .int2
  | 23 => some .int4
  | 25 => some .text
  | 700 => some .float4
  | 701 => some .float8
  | 705 => some .text
  | 1042 => some .text
  | 1043 => some .text
  | 1082 => some .date
  | 1114 => some .timestamp
  | 1184 => some .timestamptz
  | 1700 => some .numeric
  | 2950 => some .uuid
  | _ => none

/-- The formats of columns: of single values, and of arrays with elements of a column type, given by its number. -/
inductive ColumnFormat
  | single (w : WireFormat)
  | array (element : UInt32) (w : WireFormat)

abbrev ColumnFormat.Datum : ColumnFormat → Type
  | single w => w.Datum
  | array _ w => List w.Datum

/-- The format of the columns of a type. -/
def ColumnTypes.format? {Ty : Type} (types : ColumnTypes Ty) (type : Ty) : Option ColumnFormat :=
  match types.element? type with
  | some e => (WireFormat.ofNumber? (types.number e)).map (.array (types.number e))
  | none => (WireFormat.ofNumber? (types.number type)).map .single

namespace Wire

/-- Takes something off the front of bytes. -/
abbrev Reader (α : Type) : Type := List UInt8 → Option (α × List UInt8)

variable {α : Type}

/-- The number that bytes stand for, the most significant one first. -/
def number (s : List UInt8) : Nat := s.foldl (fun n b => 256 * n + b.toNat) 0

def take? (k : Nat) : Reader (List UInt8) := fun s => if k ≤ s.length then some (s.take k, s.drop k) else none

/-- A number of so many bytes. -/
def natural? (k : Nat) : Reader Nat := fun s => (take? k s).map fun (own, r) => (number own, r)

/-- A number of so many bytes in two's complement. -/
def integer? (k : Nat) : Reader Int := fun s => (natural? k s).map fun (n, r) => ((n : Int).bmod (256 ^ k), r)

/-- So many things, one after the other. -/
def times? (item : Reader α) : Nat → Reader (List α)
  | 0, s => some ([], s)
  | k + 1, s => do
    let (x, s) ← item s
    let (xs, s) ← times? item k s
    some (x :: xs, s)

/-- Something that takes up all bytes. -/
def whole? (item : Reader α) (s : List UInt8) : Option α :=
  match item s with
  | some (x, []) => some x
  | _ => none

/-! ### Single values -/

/-- A digit to the base 10000. -/
def digit? : Reader Nat := fun s => do
  let (d, s) ← natural? 2 s
  if d < 10000 then some (d, s) else none

/-- The sum of digits to the base 10000, the first of which counts `10000 ^ weight`. -/
def digitSum : Int → List Nat → ℚ
  | _, [] => 0
  | weight, d :: r => d * 10000 ^ weight + digitSum (weight - 1) r

/-- A number without what is behind so many decimal places. -/
def truncated (scale : Nat) (x : ℚ) : ℚ := (x * 10 ^ scale).floor / 10 ^ scale

/-- The number of digits, the weight of the first, the sign, the decimal places, and the digits, of which those behind
the places are ignored.  Signs other than those of numbers stand for infinities and for what is no number. -/
def numeric? : Reader Numeric := fun s => do
  let (count, s) ← natural? 2 s
  let (weight, s) ← integer? 2 s
  let (sign, s) ← natural? 2 s
  let (scale, s) ← natural? 2 s
  let (digits, s) ← times? digit? count s
  if 0x3FFF < scale then none
  else if sign = 0 then some (⟨truncated scale (digitSum weight digits), scale⟩, s)
  else if sign = 0x4000 then some (⟨-truncated scale (digitSum weight digits), scale⟩, s)
  else none

end Wire

open Wire in
/-- Reads the bytes of a single value. -/
def WireFormat.read? : (w : WireFormat) → List UInt8 → Option w.Datum
  | .bool, s => (whole? (natural? 1) s).map fun n => n ≠ 0
  | .int2, s => whole? (integer? 2) s
  | .int4, s => whole? (integer? 4) s
  | .int8, s => whole? (integer? 8) s
  | .float4, s => (whole? (natural? 4) s).map fun n => ⟨BitVec.ofNat _ n⟩
  | .float8, s => (whole? (natural? 8) s).map fun n => ⟨BitVec.ofNat _ n⟩
  | .numeric, s => whole? numeric? s
  | .text, s => String.fromUTF8? ⟨s.toArray⟩
  | .date, s => (whole? (integer? 4) s).bind Date.ofDay?
  | .timestamp, s => whole? (integer? 8) s
  | .timestamptz, s => whole? (integer? 8) s
  | .uuid, s => (whole? (natural? 16) s).map fun n => ⟨BitVec.ofNat _ n⟩

/-! ### Arrays -/

namespace Wire

variable {α : Type}

/-- An element after its number of bytes; a negative number stands for null, which no element is read from. -/
def element? (read : List UInt8 → Option α) : Reader α := fun s => do
  let (size, s) ← integer? 4 s
  let (own, s) ← if 0 ≤ size then take? size.toNat s else none
  let x ← read own
  some (x, s)

/-- The elements of an array, which are of a column type and have its format: the number of dimensions, a flag for
nulls, the type of the elements, and for one dimension its length, the index of its first element and its elements.
Without a dimension it has none. -/
def array? (element : UInt32) (w : WireFormat) : Reader (List w.Datum) := fun s => do
  let (dimensions, s) ← integer? 4 s
  let (flags, s) ← integer? 4 s
  let (type, s) ← natural? 4 s
  if (flags = 0 ∨ flags = 1) ∧ type = element.toNat then
    if dimensions = 0 then some ([], s)
    else if dimensions = 1 then
      let (length, s) ← integer? 4 s
      let (_, s) ← integer? 4 s
      if 0 ≤ length then times? (element? w.read?) length.toNat s else none
    else none
  else none

end Wire

/-- Reads the bytes of a value for a column. -/
def ColumnFormat.read? : (f : ColumnFormat) → List UInt8 → Option f.Datum
  | single w, s => w.read? s
  | array element w, s => Wire.whole? (Wire.array? element w) s

/-! ### What bytes are read as -/

namespace Wire

variable {α β : Type} {item : Reader α} {s : List UInt8} {x : α}

/-- The reader takes just these bytes off, whatever follows them. -/
def Reads (item : Reader α) (s : List UInt8) (x : α) : Prop := ∀ r, item (s ++ r) = some (x, r)

theorem Reads.whole? (h : Reads item s x) : whole? item s = some x := by
  have hend := h []
  rw [List.append_nil] at hend
  rw [Wire.whole?, hend]

theorem reads_times {ss : List (List UInt8)} {xs : List α} (h : List.Forall₂ (Reads item) ss xs) :
    Reads (times? item xs.length) ss.flatten xs := by
  induction h with
  | nil => exact fun _ => rfl
  | @cons s x ss xs hx _ ih =>
    intro r
    rw [List.flatten_cons, List.append_assoc, List.length_cons, times?, hx, Option.bind_eq_bind, Option.bind_some]
    dsimp only
    rw [ih r]
    rfl

theorem reads_take (s : List UInt8) : Reads (take? s.length) s s := by
  intro r
  rw [take?, if_pos (by rw [List.length_append]; omega), List.take_left, List.drop_left]

theorem length_bytes (k n : Nat) : (bytes k n).length = k := by
  induction k with
  | zero => rfl
  | succ k ih => rw [bytes, List.length_cons, ih]

/-- The last bytes of a number are the number without what is above them. -/
theorem number_bytes (k n : Nat) : number (bytes k n) = n % 256 ^ k := by
  have hacc : ∀ k a, (bytes k n).foldl (fun n b => 256 * n + b.toNat) a = a * 256 ^ k + n % 256 ^ k := by
    intro k
    induction k with
    | zero => simp [bytes, Nat.mod_one]
    | succ k ih =>
      intro a
      have hbyte : (UInt8.ofNat (n / Nat.pow 256 k)).toNat = n / 256 ^ k % 256 := UInt8.toNat_ofNat'
      rw [bytes, List.foldl_cons, ih, hbyte, Nat.mod_pow_succ, Nat.pow_succ]
      ring
  have hzero := hacc k 0
  rwa [Nat.zero_mul, Nat.zero_add] at hzero

theorem reads_natural {k n : Nat} (h : n < 256 ^ k) : Reads (natural? k) (bytes k n) n := by
  intro r
  have htake := reads_take (bytes k n) r
  rw [length_bytes] at htake
  have hn : number (bytes k n) = n := by rw [number_bytes, Nat.mod_eq_of_lt h]
  rw [natural?, htake, Option.map_some]
  dsimp only
  rw [hn]

theorem reads_integer {k : Nat} {n : Int} (hlow : -((256 ^ k : Nat) : Int) ≤ 2 * n)
    (hhigh : 2 * n < (256 ^ k : Nat)) : Reads (integer? k) (intBytes k n) n := by
  intro r
  have hpos : (0 : Int) < (256 ^ k : Nat) := by exact_mod_cast Nat.pow_pos (by decide)
  have hnonneg := Int.emod_nonneg n hpos.ne'
  have hlt : (n % (256 ^ k : Nat)).toNat < 256 ^ k := by
    have := Int.emod_lt_of_pos n hpos
    omega
  have hbytes : intBytes k n = bytes k (n % (256 ^ k : Nat)).toNat := rfl
  have hn : ((n % (256 ^ k : Nat)).toNat : Int).bmod (256 ^ k) = n := by
    rw [Int.toNat_of_nonneg hnonneg, Int.emod_bmod]
    exact Int.bmod_eq_of_le (by omega) (by omega)
  rw [integer?, hbytes, reads_natural hlt r, Option.map_some]
  dsimp only
  rw [hn]

/-- A number that is small enough has the same bytes with a sign. -/
theorem intBytes_natCast {k n : Nat} (h : n < 256 ^ k) : intBytes k n = bytes k n := by
  have hn : ((n : Int) % (256 ^ k : Nat)).toNat = n := by
    rw [Int.emod_eq_of_lt (Int.natCast_nonneg n) (by exact_mod_cast h), Int.toNat_natCast]
  exact congrArg (bytes k) hn

end Wire

end SqlFilter
