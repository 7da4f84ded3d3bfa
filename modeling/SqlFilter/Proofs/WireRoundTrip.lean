import SqlFilter.Proofs.WireDecimal
import SqlFilter.Proofs.WireLibrary

/-!
# Values arrive as they were sent

With libraries that are as documented, each column type accepts the values of one type and no others, and reading the
bytes that are sent gives the value back: all but decimals and timestamps as they are, decimals as the same number with
the same places, and timestamps to the microsecond (`ValueType.Arrives`).  Arrays arrive element by element, unless one
of their counts is too great to be sent (`Value.sending_is_lossless`).
-/

namespace SqlFilter

/-! ### What is to arrive -/

/-- The nanoseconds from 2000-01-01T00:00:00 on. -/
def Timestamp.nanoseconds (t : Timestamp) : Int := t.second * 1000000000 + t.nanosecond

/-- The whole microseconds of a timestamp, without the part of a microsecond that is farthest from
2000-01-01T00:00:00. -/
structure Timestamp.Truncated (t : Timestamp) (n : Int) : Prop where
  after : 0 ≤ t.nanoseconds → 1000 * n ≤ t.nanoseconds ∧ t.nanoseconds < 1000 * (n + 1)
  before : t.nanoseconds ≤ 0 → 1000 * (n - 1) < t.nanoseconds ∧ t.nanoseconds ≤ 1000 * n

/-- What a column holds after a value was sent to it: the value itself, for a decimal the same number with its places,
unless it is zero, and for a timestamp its whole microseconds. -/
inductive ValueType.Arrives : (t : ValueType) → t.Carrier → (w : WireFormat) → w.Datum → Prop
  | bool (b : Bool) : Arrives .bool b .bool b
  | int2 (n : Int16) : Arrives .int16 n .int2 n.toInt
  | int4 (n : Int32) : Arrives .int32 n .int4 n.toInt
  | int8 (n : Int64) : Arrives .int64 n .int8 n.toInt
  | float4 (x : Single) : Arrives .single x .float4 x
  | float8 (x : Double) : Arrives .double x .float8 x
  | numeric (d : Decimal) (n : Numeric) : n.value = d.rational → (d.coefficient ≠ 0 → n.scale = d.scale) →
    Arrives .decimal d .numeric n
  | text (s : String) : Arrives .text s .text s
  | date (d : Date) : Arrives .date d .date d
  | timestamp (t : Timestamp) (n : Int) : t.Truncated n → Arrives .timestamp t .timestamp n
  | timestamptz (t : Timestamp) (n : Int) : t.Truncated n → Arrives .instant t .timestamptz n
  | uuid (u : Uuid) : Arrives .uuid u .uuid u

/-- What a column holds after a value was sent to it; of an array all elements, in order. -/
inductive Value.Arrives : Value → (f : ColumnFormat) → f.Datum → Prop
  | scalar {t : ValueType} {x : t.Carrier} {w : WireFormat} {y : w.Datum} : t.Arrives x w y →
    Arrives (scalar t x) (.single w) y
  | array {t : ValueType} {xs : List t.Carrier} {element : UInt32} {w : WireFormat} {ys : List w.Datum} :
    List.Forall₂ (fun x y => t.Arrives x w y) xs ys → Arrives (array t xs) (.array element w) ys

/-- The type of the values that are sent in a format. -/
def WireFormat.valueType : WireFormat → ValueType
  | .bool => .bool
  | .int2 => .int16
  | .int4 => .int32
  | .int8 => .int64
  | .float4 => .single
  | .float8 => .double
  | .numeric => .decimal
  | .text => .text
  | .date => .date
  | .timestamp => .timestamp
  | .timestamptz => .instant
  | .uuid => .uuid

/-- A column type that accepts the values of a type has the format in which they are sent. -/
theorem WireFormat.exists_ofNumber? {t : ValueType} {n : UInt32} (h : (t, n) ∈ Wire.pairs) :
    ∃ w, ofNumber? n = some w ∧ w.valueType = t := by
  have hall : ∀ p ∈ Wire.pairs, (ofNumber? p.2).map valueType = some p.1 := by decide
  exact Option.map_eq_some_iff.1 (hall _ h)

/-! ### Single values -/

open Wire

theorem Timestamp.truncated_microseconds (t : Timestamp) : t.Truncated t.microseconds := by
  have hns : t.microseconds = t.nanoseconds.tdiv 1000 := rfl
  refine ⟨fun h => ?_, fun h => ?_⟩
  · rw [hns, Int.tdiv_eq_ediv_of_nonneg h]
    omega
  · have hneg : t.nanoseconds.tdiv 1000 = -(-t.nanoseconds / 1000) := by
      rw [← Int.tdiv_eq_ediv_of_nonneg (by omega), Int.neg_tdiv, Int.neg_neg]
    rw [hns, hneg]
    omega

theorem Timestamp.reads_microseconds (t : Timestamp) :
    Reads (integer? 8) (intBytes 8 t.microseconds) t.microseconds := by
  have htruncated := t.truncated_microseconds
  have hns : t.nanoseconds = t.second * 1000000000 + t.nanosecond := rfl
  have hleast := t.least_le
  have hlimit := t.lt_limit
  have hnano := t.nanosecond_lt
  rcases Int.le_total 0 t.nanoseconds with h | h
  · obtain ⟨hlow, hhigh⟩ := htruncated.after h
    exact reads_integer (by omega) (by omega)
  · obtain ⟨hlow, hhigh⟩ := htruncated.before h
    exact reads_integer (by omega) (by omega)

/-- What is kept as bits is sent as the number of these bits. -/
theorem Wire.whole?_bits {α : Type} {width k : Nat} (h : 2 ^ width = 256 ^ k) (make : BitVec width → α)
    (b : BitVec width) :
    (whole? (natural? k) (bytes k b.toNat)).map (fun n => make (BitVec.ofNat width n)) = some (make b) := by
  have hlt := b.isLt
  rw [h] at hlt
  rw [(reads_natural hlt).whole?, Option.map_some, BitVec.ofNat_toNat, BitVec.setWidth_eq]

theorem Wire.fromUTF8?_bytes (s : String) : String.fromUTF8? ⟨s.toUTF8.data.toList.toArray⟩ = some s := by
  rw [Array.toArray_toList]
  exact dif_pos s.isValidUTF8

/-- The bytes of a single value are read back, one case for each format. -/
theorem WireFormat.exists_read (w : WireFormat) (x : w.valueType.Carrier) :
    ∃ y, w.read? (form w.valueType x) = some y ∧ w.valueType.Arrives x w y := by
  cases w with
  | bool =>
    refine ⟨x, ?_, .bool x⟩
    cases x <;> rfl
  | int2 =>
    have hlow := Int16.le_toInt x
    have hhigh := Int16.toInt_lt x
    have hread : Reads (integer? 2) (intBytes 2 (Int16.toInt x)) _ := reads_integer (by omega) (by omega)
    exact ⟨_, hread.whole?, .int2 x⟩
  | int4 =>
    have hlow := Int32.le_toInt x
    have hhigh := Int32.toInt_lt x
    have hread : Reads (integer? 4) (intBytes 4 (Int32.toInt x)) _ := reads_integer (by omega) (by omega)
    exact ⟨_, hread.whole?, .int4 x⟩
  | int8 =>
    have hlow := Int64.le_toInt x
    have hhigh := Int64.toInt_lt x
    have hread : Reads (integer? 8) (intBytes 8 (Int64.toInt x)) _ := reads_integer (by omega) (by omega)
    exact ⟨_, hread.whole?, .int8 x⟩
  | float4 =>
    obtain ⟨b⟩ := x
    exact ⟨⟨b⟩, whole?_bits (k := 4) rfl Binary.mk b, .float4 ⟨b⟩⟩
  | float8 =>
    obtain ⟨b⟩ := x
    exact ⟨⟨b⟩, whole?_bits (k := 8) rfl Binary.mk b, .float8 ⟨b⟩⟩
  | numeric =>
    obtain ⟨n, hread, hvalue, hscale⟩ := Decimal.exists_reads x
    exact ⟨n, hread.whole?, .numeric x n hvalue hscale⟩
  | text => exact ⟨x, fromUTF8?_bytes x, .text x⟩
  | date =>
    obtain ⟨day, hleast, hgreatest⟩ := x
    have hread : Reads (integer? 4) (intBytes 4 day) day := reads_integer (by omega) (by omega)
    refine ⟨⟨day, hleast, hgreatest⟩, ?_, .date _⟩
    show (whole? (integer? 4) (intBytes 4 day)).bind Date.ofDay? = _
    rw [hread.whole?, Option.bind_some, Date.ofDay?, dif_pos ⟨hleast, hgreatest⟩]
  | timestamp => exact ⟨_, (Timestamp.reads_microseconds x).whole?, .timestamp x _ x.truncated_microseconds⟩
  | timestamptz => exact ⟨_, (Timestamp.reads_microseconds x).whole?, .timestamptz x _ x.truncated_microseconds⟩
  | uuid =>
    obtain ⟨b⟩ := x
    exact ⟨⟨b⟩, whole?_bits (k := 16) rfl Uuid.mk b, .uuid ⟨b⟩⟩

/-! ### Arrays -/

theorem Wire.reads_count {n : Nat} (h : n < 2 ^ 31) : Reads (integer? 4) (bytes 4 n) n := by
  rw [← intBytes_natCast (by omega)]
  exact reads_integer (by omega) (by omega)

/-- An element whose bytes can be counted is read after their number. -/
theorem Wire.reads_element {α : Type} {read : List UInt8 → Option α} {s : List UInt8} {y : α} (hread : read s = some y)
    (hs : s.length < 2 ^ 31) : Reads (element? read) (counted s) y := by
  intro r
  rw [element?, counted, List.append_assoc, reads_count hs, Option.bind_eq_bind, Option.bind_some]
  dsimp only
  rw [if_pos (Int.natCast_nonneg _), Int.toNat_natCast, reads_take s r, Option.bind_eq_bind, Option.bind_some]
  dsimp only
  rw [hread]
  rfl

/-- An array is read if its elements are. -/
theorem Wire.reads_array {w : WireFormat} {ss : List (List UInt8)} {ys : List w.Datum} (number element : UInt32)
    (hread : List.Forall₂ (fun s y => w.read? s = some y) ss ys) (hcounts : Countable ss) :
    Reads (array? element w) (arrayForm number element ss) ys := by
  obtain ⟨hlength, hcounts⟩ := hcounts
  have hone : Reads (integer? 4) (bytes 4 1) 1 := reads_count (by decide)
  have hflags : Reads (integer? 4) (bytes 4 0) 0 := reads_count (by decide)
  have htype : Reads (natural? 4) (bytes 4 element.toNat) element.toNat := reads_natural element.toNat_lt
  have hfirst : Reads (integer? 4) (bytes 4 (firstIndex number)) (firstIndex number) := by
    refine reads_count ?_
    rw [firstIndex]
    split <;> decide
  have helements : Reads (times? (element? w.read?) ys.length) (ss.flatMap counted) ys := by
    rw [List.flatMap_def]
    refine reads_times (List.forall₂_map_left_iff.2 ?_)
    exact (List.forall₂_and_left _ _ |>.2 ⟨hcounts, hread⟩).imp fun s y h => reads_element h.2 h.1
  rw [← hread.length_eq] at helements
  intro r
  simp only [array?, arrayForm, List.append_assoc, hone _, hflags _, htype _, reads_count hlength _, hfirst _,
    helements r, Option.bind_eq_bind, Option.bind_some, true_or, and_self, if_true, one_ne_zero, if_false,
    if_pos (Int.natCast_nonneg _), Int.toNat_natCast]

/-! ### All values -/

/-- The elements of an array are read back one by one. -/
theorem WireFormat.exists_read_elements (w : WireFormat) (xs : List w.valueType.Carrier) :
    ∃ ys, List.Forall₂ (fun s y => w.read? s = some y) (xs.map (form w.valueType)) ys ∧
      List.Forall₂ (fun x y => w.valueType.Arrives x w y) xs ys := by
  induction xs with
  | nil => exact ⟨[], .nil, .nil⟩
  | cons x xs ih =>
    obtain ⟨y, hread, harrives⟩ := w.exists_read x
    obtain ⟨ys, hreads, harrive⟩ := ih
    exact ⟨y :: ys, .cons hread hreads, .cons harrives harrive⟩

/-- The bytes for a value are read in the format of its column. -/
theorem Value.exists_read {Ty : Type} {lib : Library Ty} (h : lib.Documented) {v : Value} {type : Ty}
    (hm : v.Matches lib.toColumnTypes type) (hc : v.Countable) :
    ∃ f x, lib.format? type = some f ∧ f.read? (v.form lib.toColumnTypes type) = some x ∧ v.Arrives f x := by
  cases v with
  | scalar t x =>
    obtain ⟨w, hw, rfl⟩ := WireFormat.exists_ofNumber? hm
    obtain ⟨y, hread, harrives⟩ := w.exists_read x
    refine ⟨.single w, y, ?_, hread, .scalar harrives⟩
    rw [ColumnTypes.format?, h.element?_eq_none _ type hm]
    dsimp only
    rw [hw]
    rfl
  | array t xs =>
    obtain ⟨e, he, hpair⟩ := hm
    obtain ⟨w, hw, rfl⟩ := WireFormat.exists_ofNumber? hpair
    obtain ⟨ys, hreads, harrive⟩ := w.exists_read_elements xs
    have hread := reads_array (lib.number type) (lib.number e) hreads hc
    refine ⟨.array (lib.number e) w, ys, ?_, ?_, .array harrive⟩
    · rw [ColumnTypes.format?, he]
      dsimp only
      rw [hw]
      rfl
    · rw [form, he]
      exact hread.whole?

end SqlFilter
