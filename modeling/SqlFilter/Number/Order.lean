/-!
# Partial comparison

Values are compared by an order that need not relate every two of them: `compare? a b` is none where neither is less
and they are not equal, as with a NaN.
-/

namespace SqlFilter

/-- A comparison that may leave two values unrelated. -/
class PartialCompare (α : Type) where
  /-- How the first value stands to the second, if they are related. -/
  compare? : α → α → Option Ordering

namespace PartialCompare

variable {α : Type} [PartialCompare α]

/-- The first value is less. -/
def lt (a b : α) : Bool := compare? a b = some .lt

def same (a b : α) : Bool := compare? a b = some .eq

/-- The first value is less or compares as equal. -/
def le (a b : α) : Bool := lt a b || same a b

/-- The comparison of the images under a map into a linear order. -/
def on {β : Type} [Ord β] (f : α → β) (a b : α) : Option Ordering := some (compare (f a) (f b))

end PartialCompare

instance : PartialCompare Int8 := ⟨PartialCompare.on Int8.toInt⟩
instance : PartialCompare Int16 := ⟨PartialCompare.on Int16.toInt⟩
instance : PartialCompare Int32 := ⟨PartialCompare.on Int32.toInt⟩
instance : PartialCompare Int64 := ⟨PartialCompare.on Int64.toInt⟩
instance : PartialCompare UInt8 := ⟨PartialCompare.on UInt8.toNat⟩
instance : PartialCompare UInt16 := ⟨PartialCompare.on UInt16.toNat⟩
instance : PartialCompare UInt32 := ⟨PartialCompare.on UInt32.toNat⟩
instance : PartialCompare UInt64 := ⟨PartialCompare.on UInt64.toNat⟩

end SqlFilter
