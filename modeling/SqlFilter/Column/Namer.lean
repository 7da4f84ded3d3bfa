import SqlFilter.Column.Basic

/-!
# Names of parameters

A parameter is named after its column, the tag of its operator, and the number of names given before for columns of
that prefix; `count_next` says that giving a name counts for this prefix only.
-/

namespace SqlFilter

/-- How many names were given for each prefix. -/
structure Namer where
  counts : List (String × Nat) := []
deriving DecidableEq, Repr

namespace Namer

/-- The number of names given for a prefix. -/
def count (n : Namer) (stem : String) : Nat := (n.counts.lookup stem).getD 0

/-- Adds one to the number under a prefix. -/
def bump (stem : String) : List (String × Nat) → List (String × Nat)
  | [] => [(stem, 1)]
  | (s, k) :: r => if s = stem then (s, k + 1) :: r else (s, k) :: bump stem r

/-- The name of a number of a prefix and a tag. -/
def nameOf (stem tag : String) (k : Nat) : String := stem ++ "_" ++ tag ++ "_" ++ toString k

/-- The next name for a column and a tag. -/
def next (n : Namer) (c : Column) (tag : String) : String × Namer :=
  (nameOf c.paramPrefix tag (n.count c.paramPrefix), ⟨bump c.paramPrefix n.counts⟩)

/-- One more is counted under the prefix, nothing else changes. -/
theorem lookup_bump (stem k : String) (counts : List (String × Nat)) :
    ((bump stem counts).lookup k).getD 0 =
      if k = stem then (counts.lookup k).getD 0 + 1 else (counts.lookup k).getD 0 := by
  induction counts with
  | nil => grind [bump]
  | cons e r ih => grind [bump]

/-- Giving a name counts for the prefix of its column only. -/
theorem count_next (n : Namer) (c : Column) (tag stem : String) :
    (n.next c tag).2.count stem = if stem = c.paramPrefix then n.count stem + 1 else n.count stem :=
  lookup_bump c.paramPrefix stem n.counts

end Namer

end SqlFilter
