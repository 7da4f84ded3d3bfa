import Mathlib.Algebra.Order.Field.Basic
import SqlFilter.Proofs.SelectedRows

/-!
# Bounds of a range

The check of a range compares each lower bound with each upper bound and never looks for a value between them.  Where
comparison is transitive it still finds nothing wrong with a range that has a value in it, since the bounds are then
related through this value; all types of numbers and dates are of this kind, also those with a NaN.  In a dense total
order that goes on in both directions the check misses one case only, that of an open lower bound and a closed upper
bound that are equal (`RangeFilter.range_check_is_nearly_exact`).
-/

namespace SqlFilter

open Requirement (Less Same)

variable {α : Type}

/-! ### Laws of comparison -/

/-- The first value compares as less or as equal. -/
def AtMost [PartialCompare α] (a b : α) : Prop := Less a b ∨ Same a b

/-- A comparison that is the same from both sides and transitive.  A value need not be related to others or itself. -/
class TransitiveCompare (α : Type) [PartialCompare α] : Prop where
  swap : ∀ a b : α, PartialCompare.compare? a b = (PartialCompare.compare? b a).map Ordering.swap
  atMost_trans : ∀ {a b c : α}, AtMost a b → AtMost b c → AtMost a c

/-- A comparison of all values of a type that has some, between any two of which and beyond each of which there are
others. -/
class DenseCompare (α : Type) [PartialCompare α] : Prop extends TransitiveCompare α where
  total : ∀ a b : α, AtMost a b ∨ AtMost b a
  between : ∀ {a b : α}, Less a b → ∃ x, Less a x ∧ Less x b
  below : ∀ a : α, ∃ x, Less x a
  above : ∀ a : α, ∃ x, Less a x
  nonempty : Nonempty α

section

variable [PartialCompare α] [TransitiveCompare α] {a b c : α}

theorem greater_iff_less : Greater a b ↔ Less b a := by
  unfold Greater Less
  rw [TransitiveCompare.swap a b]
  cases PartialCompare.compare? b a with
  | none => simp
  | some o => cases o <;> simp

private theorem Same.symm (h : Same a b) : Same b a := by
  unfold Same at h ⊢
  rw [TransitiveCompare.swap, h]
  rfl

private theorem not_atMost_of_less (h : Less a b) : ¬ AtMost b a := by
  have hgreater : PartialCompare.compare? b a = some .gt := greater_iff_less.2 h
  rintro (hba | hba)
  · cases hgreater.symm.trans hba
  · cases hgreater.symm.trans hba

private theorem less_of_atMost_of_less (hab : AtMost a b) (hbc : Less b c) : Less a c := by
  rcases TransitiveCompare.atMost_trans hab (.inl hbc) with hac | hac
  · exact hac
  · exact absurd (TransitiveCompare.atMost_trans (.inr (Same.symm hac)) hab) (not_atMost_of_less hbc)

private theorem less_of_less_of_atMost (hab : Less a b) (hbc : AtMost b c) : Less a c := by
  rcases TransitiveCompare.atMost_trans (.inl hab) hbc with hac | hac
  · exact hac
  · exact absurd (TransitiveCompare.atMost_trans hbc (.inr (Same.symm hac))) (not_atMost_of_less hab)

end

section

variable [PartialCompare α] [DenseCompare α] {a b : α}

private theorem same_self (a : α) : Same a a := by
  rcases or_self_iff.1 (DenseCompare.total a a) with h | h
  · exact absurd (.inl h) (not_atMost_of_less h)
  · exact h

private theorem atMost_of_not_less (h : ¬ Less a b) : AtMost b a := by
  rcases DenseCompare.total a b with (hab | hab) | hba
  · exact absurd hab h
  · exact .inr (Same.symm hab)
  · exact hba

/-- Between open bounds that are in order, and beyond a bound that is alone, there is a value. -/
private theorem exists_between_bounds {gt lt : Option α} (h : ∀ a ∈ gt, ∀ b ∈ lt, Less a b) :
    ∃ x, (∀ a ∈ gt, Less a x) ∧ ∀ b ∈ lt, Less x b := by
  cases gt with
  | none =>
    cases lt with
    | none =>
      obtain ⟨x⟩ := DenseCompare.nonempty (α := α)
      exact ⟨x, nofun, nofun⟩
    | some b =>
      obtain ⟨x, hx⟩ := DenseCompare.below b
      exact ⟨x, nofun, by rintro _ ⟨⟩; exact hx⟩
  | some a =>
    cases lt with
    | none =>
      obtain ⟨x, hx⟩ := DenseCompare.above a
      exact ⟨x, by rintro _ ⟨⟩; exact hx, nofun⟩
    | some b =>
      obtain ⟨x, hax, hxb⟩ := DenseCompare.between (h a rfl b rfl)
      exact ⟨x, by rintro _ ⟨⟩; exact hax, by rintro _ ⟨⟩; exact hxb⟩

end

/-! ### Types of numbers and dates -/

/-- Values that are related as their images under a transitive comparison, apart from some that are not related. -/
private theorem TransitiveCompare.of_cmp [PartialCompare α] (cmp : α → α → Ordering) [Std.TransCmp cmp]
    (related : α → Bool)
    (h : ∀ a b : α, PartialCompare.compare? a b = if related a && related b then some (cmp a b) else none) :
    TransitiveCompare α := by
  have hatMost : ∀ a b : α, AtMost a b ↔ related a = true ∧ related b = true ∧ (cmp a b).isLE = true := by
    intro a b
    unfold AtMost Less Same
    rw [h]
    cases related a <;> cases related b <;> cases cmp a b <;> simp
  refine ⟨fun a b => ?_, ?_⟩
  · have hswap : cmp a b = (cmp b a).swap := Std.OrientedCmp.eq_swap
    rw [h, h, hswap]
    cases related a <;> cases related b <;> rfl
  · intro a b c hab hbc
    rw [hatMost] at hab hbc ⊢
    exact ⟨hab.1, hbc.2.1, Std.TransCmp.isLE_trans hab.2.2 hbc.2.2⟩

private theorem Binary.transitiveCompare (f : BinaryFormat) : TransitiveCompare (Binary f) := by
  refine .of_cmp (compareOn Binary.key) (fun a => !a.isNaN) fun a b => ?_
  show (if a.isNaN || b.isNaN then none else some (compare a.key b.key)) = _
  cases a.isNaN <;> cases b.isNaN <;> rfl

private theorem Timestamp.transitiveCompare : TransitiveCompare Timestamp :=
  .of_cmp (compareLex (compareOn Timestamp.second) (compareOn Timestamp.nanosecond)) (fun _ => true) fun _ _ => rfl

instance NumericType.transitiveCompare (t : NumericType) : TransitiveCompare t.Carrier := by
  cases t with
  | int8 => exact .of_cmp (compareOn Int8.toInt) (fun _ => true) fun _ _ => rfl
  | int16 => exact .of_cmp (compareOn Int16.toInt) (fun _ => true) fun _ _ => rfl
  | int32 => exact .of_cmp (compareOn Int32.toInt) (fun _ => true) fun _ _ => rfl
  | int64 => exact .of_cmp (compareOn Int64.toInt) (fun _ => true) fun _ _ => rfl
  | uint8 => exact .of_cmp (compareOn UInt8.toNat) (fun _ => true) fun _ _ => rfl
  | uint16 => exact .of_cmp (compareOn UInt16.toNat) (fun _ => true) fun _ _ => rfl
  | uint32 => exact .of_cmp (compareOn UInt32.toNat) (fun _ => true) fun _ _ => rfl
  | uint64 => exact .of_cmp (compareOn UInt64.toNat) (fun _ => true) fun _ _ => rfl
  | single => exact Binary.transitiveCompare _
  | double => exact Binary.transitiveCompare _
  | decimal => exact .of_cmp (compareOn Decimal.rational) (fun _ => true) agrees_decimal

instance DateType.transitiveCompare (t : DateType) : TransitiveCompare t.Carrier := by
  cases t with
  | date => exact .of_cmp (compareOn Date.day) (fun _ => true) fun _ _ => rfl
  | timestamp => exact Timestamp.transitiveCompare
  | instant => exact Timestamp.transitiveCompare

/-! ### Pairs of bounds -/

/-- A value within all bounds that are set. -/
structure RangeFilter.InBounds [PartialCompare α] (f : RangeFilter α) (x : α) : Prop where
  gt : ∀ a ∈ f.gt, Greater x a
  gte : ∀ a ∈ f.gte, Greater x a ∨ Same x a
  lt : ∀ b ∈ f.lt, Less x b
  lte : ∀ b ∈ f.lte, Less x b ∨ Same x b

/-- A lower and an upper bound. -/
inductive BoundPair
  | gtLt
  | gtLte
  | gteLt
  | gteLte

namespace BoundPair

/-- All pairs, in the order in which they are checked. -/
def all : List BoundPair := [gtLt, gtLte, gteLt, gteLte]

def finding : BoundPair → Finding
  | gtLt => ⟨"gt/lt", "gt must be less than lt"⟩
  | gtLte => ⟨"gt/lte", "gt must be less than or equal to lte"⟩
  | gteLt => ⟨"gte/lt", "gte must be less than lt"⟩
  | gteLte => ⟨"gte/lte", "gte must be less than or equal to lte"⟩

/-- How the lower bound has to stand to the upper one. -/
def Ordered [PartialCompare α] : BoundPair → α → α → Prop
  | gtLt, a, b | gteLt, a, b => Less a b
  | gtLte, a, b | gteLte, a, b => AtMost a b

def lower (f : RangeFilter α) : BoundPair → Option α
  | gtLt | gtLte => f.gt
  | gteLt | gteLte => f.gte

def upper (f : RangeFilter α) : BoundPair → Option α
  | gtLt | gteLt => f.lt
  | gtLte | gteLte => f.lte

/-- Both bounds are set but not as they have to be. -/
def Violated [PartialCompare α] (f : RangeFilter α) (p : BoundPair) : Prop :=
  ∃ a ∈ p.lower f, ∃ b ∈ p.upper f, ¬ p.Ordered a b

end BoundPair

/-! ### The findings of a range -/

section

variable [PartialCompare α] (f : RangeFilter α)

open Classical in
private theorem unmet_map {ι : Type} (l : List ι) (violated : ι → Prop) (finding : ι → Finding) :
    Requirement.unmet (l.map fun i => ⟨¬ violated i, finding i⟩) =
      (l.filter fun i => violated i).map finding := by
  induction l with
  | nil => rfl
  | cons i l ih =>
    rw [Requirement.unmet] at ih ⊢
    by_cases h : violated i <;> simp [h, ih]

/-- The findings are those of the violated pairs, in order. -/
private theorem exists_violated_pairs :
    ∃ pairs : List BoundPair, pairs.Sublist BoundPair.all ∧ (∀ p, p ∈ pairs ↔ p.Violated f) ∧
      Finding.range f.gt f.gte f.lt f.lte = pairs.map BoundPair.finding := by
  classical
  have hbounds : Requirement.bounds f.gt f.gte f.lt f.lte =
      BoundPair.all.map fun p => ⟨¬ p.Violated f, p.finding⟩ := by
    simp [Requirement.bounds, BoundPair.all, BoundPair.Violated, BoundPair.Ordered, BoundPair.lower,
      BoundPair.upper, BoundPair.finding, AtMost]
  have hall : ∀ p : BoundPair, p ∈ BoundPair.all := by
    intro p
    cases p <;> simp [BoundPair.all]
  refine ⟨BoundPair.all.filter fun p => p.Violated f, List.filter_sublist, fun p => ?_, ?_⟩
  · simp [hall]
  · rw [← Requirement.unmet_bounds, hbounds, unmet_map]

private theorem range_eq_nil_iff : Finding.range f.gt f.gte f.lt f.lte = [] ↔ ∀ p : BoundPair, ¬ p.Violated f := by
  obtain ⟨pairs, -, hpairs, hrange⟩ := exists_violated_pairs f
  rw [hrange, List.map_eq_nil_iff, List.eq_nil_iff_forall_not_mem]
  exact forall_congr' fun p => not_congr (hpairs p)

/-- The finding is not about a pair of bounds. -/
private def IsOther (x : Finding) : Prop := ∀ p : BoundPair, x.field ≠ p.finding.field

omit [PartialCompare α] in
private theorem isOther_of_mem_exclusive {eq neq : Option α} : ∀ x ∈ Finding.exclusive eq neq, IsOther x := by
  intro x hx
  unfold Finding.exclusive at hx
  split at hx
  · rw [List.mem_singleton.1 hx]
    rintro ⟨⟩ <;> decide
  · cases hx

omit [PartialCompare α] in
private theorem field_of_mem_list {same : α → α → Bool} {field : String} {xs : Option (List (Option α))} :
    ∀ x ∈ Finding.list same field xs, x.field = field := by
  intro x hx
  unfold Finding.list at hx
  grind

omit [PartialCompare α] in
private theorem field_of_mem_custom {field : String} {rules : List (Rule α)} {o : Option α} :
    ∀ x ∈ Finding.custom field rules o, x.field = field := by
  intro x hx
  obtain ⟨v, -, hx⟩ := List.mem_flatMap.1 hx
  obtain ⟨r, -, rfl⟩ := List.mem_map.1 hx
  rfl

private theorem isOther_of_field {field : String} {l : List Finding} (hl : ∀ x ∈ l, x.field = field)
    (h : field ∈ ["in", "not_in", "eq", "neq", "gt", "gte", "lt", "lte"]) : ∀ x ∈ l, IsOther x := by
  intro x hx p
  rw [hl x hx]
  clear hl
  cases p <;> revert field <;> decide

/-- No other check of a filter reports a pair of bounds. -/
private theorem exists_others (rules : List (Rule α)) :
    ∃ before after, f.findings rules = before ++ Finding.range f.gt f.gte f.lt f.lte ++ after ∧
      ∀ x ∈ before ++ after, IsOther x := by
  refine ⟨Finding.exclusive f.eq f.neq, _, by simp only [RangeFilter.findings, List.append_assoc]; rfl, ?_⟩
  simp only [List.forall_mem_append]
  refine ⟨isOther_of_mem_exclusive, isOther_of_field field_of_mem_list ?_, isOther_of_field field_of_mem_list ?_,
    isOther_of_field field_of_mem_custom ?_, isOther_of_field field_of_mem_custom ?_,
    isOther_of_field field_of_mem_custom ?_, isOther_of_field field_of_mem_custom ?_,
    isOther_of_field field_of_mem_custom ?_, isOther_of_field field_of_mem_custom ?_⟩
  all_goals simp

end

/-! ### Values within the bounds -/

section

variable [PartialCompare α] {f : RangeFilter α} {x : α}

/-- Bounds are related through any value between them. -/
private theorem RangeFilter.InBounds.not_violated [TransitiveCompare α] (h : f.InBounds x) (p : BoundPair) :
    ¬ p.Violated f := by
  rintro ⟨a, ha, b, hb, hab⟩
  refine hab ?_
  have hgt : ∀ a ∈ f.gt, Less a x := fun a ha => greater_iff_less.1 (h.gt a ha)
  have hgte : ∀ a ∈ f.gte, AtMost a x := fun a ha => (h.gte a ha).imp greater_iff_less.1 Same.symm
  cases p with
  | gtLt => exact less_of_less_of_atMost (hgt a ha) (.inl (h.lt b hb))
  | gtLte => exact .inl (less_of_less_of_atMost (hgt a ha) (h.lte b hb))
  | gteLt => exact less_of_atMost_of_less (hgte a ha) (h.lt b hb)
  | gteLte => exact TransitiveCompare.atMost_trans (hgte a ha) (h.lte b hb)

/-- Without violated pairs there is a value within the bounds, unless it would have to lie both above and not above the
same bound. -/
private theorem exists_inBounds [DenseCompare α] (h : ∀ p : BoundPair, ¬ p.Violated f) :
    (∃ x, f.InBounds x) ∨ ∃ a ∈ f.gt, ∃ b ∈ f.lte, Same a b := by
  have hordered : ∀ p : BoundPair, ∀ a ∈ p.lower f, ∀ b ∈ p.upper f, p.Ordered a b := by
    intro p a ha b hb
    by_contra hab
    exact h p ⟨a, ha, b, hb, hab⟩
  by_cases hequal : ∃ a ∈ f.gt, ∃ b ∈ f.lte, Same a b
  · exact .inr hequal
  refine .inl ?_
  push Not at hequal
  have hgtlte : ∀ a ∈ f.gt, ∀ b ∈ f.lte, Less a b := fun a ha b hb =>
    (hordered .gtLte a ha b hb).resolve_right (hequal a ha b hb)
  by_cases hlow : ∃ b ∈ f.gte, ∀ a ∈ f.gt, Less a b
  · -- the closed lower bound is the greater one of the lower bounds
    obtain ⟨b, hb, hgt⟩ := hlow
    refine ⟨b, fun a ha => greater_iff_less.2 (hgt a ha), ?_, hordered .gteLt b hb, hordered .gteLte b hb⟩
    intro a ha
    cases Option.mem_unique ha hb
    exact .inr (same_self _)
  by_cases hhigh : ∃ d ∈ f.lte, ∀ c ∈ f.lt, Less d c
  · -- the closed upper bound is the lesser one of the upper bounds
    obtain ⟨d, hd, hlt⟩ := hhigh
    refine ⟨d, fun a ha => greater_iff_less.2 (hgtlte a ha d hd), fun b hb => ?_, hlt, ?_⟩
    · exact (hordered .gteLte b hb d hd).imp greater_iff_less.2 Same.symm
    · intro c hc
      cases Option.mem_unique hc hd
      exact .inr (same_self _)
  · -- the open bounds are the tighter ones, if there are any on their side
    push Not at hlow hhigh
    obtain ⟨x, hgt, hlt⟩ := exists_between_bounds (hordered .gtLt)
    refine ⟨x, fun a ha => greater_iff_less.2 (hgt a ha), fun b hb => ?_, hlt, fun d hd => ?_⟩
    · obtain ⟨a, ha, hab⟩ := hlow b hb
      exact .inl (greater_iff_less.2 (less_of_atMost_of_less (atMost_of_not_less hab) (hgt a ha)))
    · obtain ⟨c, hc, hcd⟩ := hhigh d hd
      exact .inl (less_of_less_of_atMost (hlt c hc) (atMost_of_not_less hcd))

end

/-- All types of numbers and dates have a transitive comparison.  With such a comparison, the check of a range finds
nothing if some value lies within the bounds.  Where the comparison is dense, it misses at most an open lower bound and
a closed upper bound that are equal.  What it finds are the violated pairs of bounds, each once and in order, and no
other check of a filter reports a pair of bounds. -/
theorem RangeFilter.range_check_is_nearly_exact :
    (∀ t : NumericType, TransitiveCompare t.Carrier) ∧ (∀ t : DateType, TransitiveCompare t.Carrier) ∧
      ∀ {α : Type} [PartialCompare α] [TransitiveCompare α] (f : RangeFilter α) (rules : List (Rule α)),
        ((∃ x, f.InBounds x) → Finding.range f.gt f.gte f.lt f.lte = []) ∧
        (DenseCompare α → Finding.range f.gt f.gte f.lt f.lte = [] →
          (∃ x, f.InBounds x) ∨ ∃ a ∈ f.gt, ∃ b ∈ f.lte, Same a b) ∧
        (∃ pairs : List BoundPair, pairs.Sublist BoundPair.all ∧ (∀ p, p ∈ pairs ↔ p.Violated f) ∧
          Finding.range f.gt f.gte f.lt f.lte = pairs.map BoundPair.finding) ∧
        ∃ before after, f.findings rules = before ++ Finding.range f.gt f.gte f.lt f.lte ++ after ∧
          ∀ x ∈ before ++ after, ∀ p : BoundPair, x.field ≠ p.finding.field := by
  refine ⟨inferInstance, inferInstance, ?_⟩
  intro α _ _ f rules
  refine ⟨?_, fun _ hrange => ?_, exists_violated_pairs f, exists_others f rules⟩
  · rintro ⟨x, hx⟩
    exact (range_eq_nil_iff f).2 hx.not_violated
  · exact exists_inBounds ((range_eq_nil_iff f).1 hrange)

instance : PartialCompare ℚ := ⟨PartialCompare.on id⟩

/-- The rational numbers are compared densely. -/
private theorem denseCompare_rat : DenseCompare ℚ := by
  have hless : ∀ a b : ℚ, Less a b ↔ a < b := fun a b => by
    unfold Less
    exact Option.some_inj.trans compare_lt_iff_lt
  have hsame : ∀ a b : ℚ, Same a b ↔ a = b := fun a b => by
    unfold Same
    exact Option.some_inj.trans compare_eq_iff_eq
  have htransitive : TransitiveCompare ℚ := .of_cmp (compareOn id) (fun _ => true) fun _ _ => rfl
  refine { htransitive with total := fun a b => ?_, between := fun h => ?_, below := fun a => ?_, above := fun a => ?_,
                            nonempty := ⟨0⟩ }
  · unfold AtMost
    rw [hless, hless, hsame, hsame]
    grind
  · rw [hless] at h
    simp only [hless]
    exact exists_between h
  · simp only [hless]
    exact exists_lt a
  · simp only [hless]
    exact exists_gt a

/-- A range of rational numbers with a value between its open bounds, and one that passes although its open lower bound
is its closed upper one. -/
theorem RangeFilter.range_check_is_nearly_exact_rationals :
    let f : RangeFilter ℚ := { gt := some 1, gte := some 1, lt := some 2, lte := some 2 }
    let g : RangeFilter ℚ := { gt := some 1, gte := some 0, lt := some 2, lte := some 1 }
    DenseCompare ℚ ∧ f.InBounds (3 / 2) ∧ Finding.range f.gt f.gte f.lt f.lte = [] ∧
      Finding.range g.gt g.gte g.lt g.lte = [] ∧ (¬ ∃ x, g.InBounds x) ∧ (∃ a ∈ g.gt, ∃ b ∈ g.lte, Same a b) := by
  intro f g
  have hdense := denseCompare_rat
  have hf : f.InBounds (3 / 2) := by
    have hlow : Greater (3 / 2 : ℚ) 1 := by
      unfold Greater
      decide +kernel
    have hhigh : Less (3 / 2 : ℚ) 2 := by
      unfold Less
      decide +kernel
    refine ⟨?_, ?_, ?_, ?_⟩
    · rintro _ ⟨⟩
      exact hlow
    · rintro _ ⟨⟩
      exact .inl hlow
    · rintro _ ⟨⟩
      exact hhigh
    · rintro _ ⟨⟩
      exact .inl hhigh
  have hg : Finding.range g.gt g.gte g.lt g.lte = [] := by decide +kernel
  have hnone : ¬ ∃ x, g.InBounds x := by
    rintro ⟨x, hx⟩
    have hlow : Less 1 x := greater_iff_less.1 (hx.gt 1 rfl)
    exact not_atMost_of_less hlow (hx.lte 1 rfl)
  obtain ⟨-, -, hall⟩ := range_check_is_nearly_exact
  refine ⟨hdense, hf, (hall f []).1 ⟨_, hf⟩, hg, hnone, ?_⟩
  exact ((hall g []).2.1 hdense hg).resolve_left hnone

/-- A bound that is not a number is not related to any other. -/
example :
    let nan : Double := ⟨0x7ff8000000000000⟩
    let one : Double := ⟨0x3ff0000000000000⟩
    Finding.range (some nan) none none (some one) = [⟨"gt/lte", "gt must be less than or equal to lte"⟩] := by
  decide +kernel

end SqlFilter
