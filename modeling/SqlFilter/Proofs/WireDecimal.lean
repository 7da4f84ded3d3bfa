import Mathlib.Data.Nat.Digits.Lemmas
import Mathlib.Tactic.FieldSimp
import SqlFilter.Proofs.Predicate
import SqlFilter.Proofs.WireReader

/-!
# Decimals on the wire

A decimal is sent as digits to the base 10000.  Its places are filled up to whole digits, which the weight of the first
digit takes back, and leaving out zeros at the end changes neither this weight nor the sum of the digits
(`Wire.digitSum_dropZeros`).  So what is read is the number that was sent, with the places that it was sent with
(`Decimal.exists_reads`).
-/

namespace SqlFilter.Wire

/-! ### Digits to the base 10000 -/

theorem groups_eq_digits (n : Nat) : groups n = Nat.digits 10000 n := by
  fun_induction groups n with
  | case1 => rfl
  | case2 n hn ih => rw [Nat.digits_def' (by decide) (Nat.pos_of_ne_zero hn), ih]

theorem digitSum_append (weight : Int) (l l' : List Nat) :
    digitSum weight (l ++ l') = digitSum weight l + digitSum (weight - l.length) l' := by
  induction l generalizing weight with
  | nil => simp [digitSum]
  | cons d l ih =>
    have hweight : weight - 1 - (l.length : Int) = weight - ((d :: l).length : Nat) := by
      rw [List.length_cons]
      omega
    rw [List.cons_append, digitSum, digitSum, ih, hweight, add_assoc]

/-- A sum of digits is the number that they write, less the weight of the last one. -/
theorem digitSum_reverse (weight : Int) (l : List Nat) :
    digitSum weight l.reverse = (Nat.ofDigits 10000 l : ℕ) * 10000 ^ (weight + 1 - l.length) := by
  induction l with
  | nil => simp [digitSum]
  | cons d l ih =>
    have hweight : weight + 1 - (l.length : Int) = weight - l.length + 1 := by omega
    have hlast : weight + 1 - ((d :: l).length : Nat) = weight - (l.length : Int) := by
      rw [List.length_cons]
      omega
    rw [List.reverse_cons, digitSum_append, ih, List.length_reverse, digitSum, digitSum, Nat.ofDigits_cons, hlast,
      hweight, zpow_add_one₀ (by norm_num)]
    push_cast
    ring

theorem exists_replicate_dropZeros (k : Nat) (l : List Nat) : ∃ j, l = List.replicate j 0 ++ dropZeros k l := by
  fun_induction dropZeros k l with
  | case1 k l ih =>
    obtain ⟨j, hj⟩ := ih
    exact ⟨j + 1, congrArg (0 :: ·) hj⟩
  | case2 k l => exact ⟨0, rfl⟩

/-- Without zeros at the end, digits with so many of them behind the point are still the same number. -/
theorem digitSum_dropZeros (k behind : Nat) (l : List Nat) :
    digitSum (l.length - behind - 1) (dropZeros k l).reverse = (Nat.ofDigits 10000 l : ℕ) / 10000 ^ behind := by
  obtain ⟨j, hj⟩ := exists_replicate_dropZeros k l
  have hlength : l.length = j + (dropZeros k l).length := by
    conv_lhs => rw [hj, List.length_append, List.length_replicate]
  have hvalue : Nat.ofDigits 10000 l = 10000 ^ j * Nat.ofDigits 10000 (dropZeros k l) := by
    conv_lhs => rw [hj, Nat.ofDigits_append, Nat.ofDigits_replicate_zero, List.length_replicate, Nat.zero_add]
  have hweight : (l.length : Int) - behind - 1 + 1 - (dropZeros k l).length = j - behind := by omega
  rw [digitSum_reverse, hweight, hvalue, zpow_sub₀ (by norm_num), zpow_natCast, zpow_natCast]
  push_cast
  ring

theorem truncated_div (c scale : Nat) : truncated scale (c / 10 ^ scale) = c / 10 ^ scale := by
  have hfloor : (c : ℚ).floor = c := Rat.floor_intCast c
  rw [truncated, div_mul_cancel₀ _ (by positivity), hfloor, Int.cast_natCast]

/-! ### Reading digits -/

theorem reads_digits {ds : List Nat} (h : ∀ d ∈ ds, d < 10000) :
    Reads (times? digit? ds.length) (ds.flatMap (bytes 2)) ds := by
  rw [List.flatMap_def]
  refine reads_times (List.forall₂_map_left_iff.2 (List.forall₂_same.2 fun d hd r => ?_))
  have hdigit := h d hd
  have hread := reads_natural (k := 2) (n := d) (by omega) r
  rw [digit?, hread, Option.bind_eq_bind, Option.bind_some]
  dsimp only
  rw [if_pos hdigit]

/-- Digits are read after the four numbers in front of them. -/
theorem reads_numeric {ds : List Nat} {weight : Int} {scale : Nat} (hds : ∀ d ∈ ds, d < 10000)
    (hlength : ds.length < 256 ^ 2) (hlow : -((256 ^ 2 : Nat) : Int) ≤ 2 * weight)
    (hhigh : 2 * weight < (256 ^ 2 : Nat)) (hscale : scale ≤ 0x3FFF) (negative : Bool) :
    Reads numeric?
      (bytes 2 ds.length ++ intBytes 2 weight ++ bytes 2 (if negative then 0x4000 else 0) ++ bytes 2 scale ++
        ds.flatMap (bytes 2))
      ⟨if negative then -truncated scale (digitSum weight ds) else truncated scale (digitSum weight ds), scale⟩ := by
  intro r
  have hsign : (if negative then 0x4000 else 0) < 256 ^ 2 := by cases negative <;> decide
  have hplaces : scale < 256 ^ 2 := Nat.lt_of_le_of_lt hscale (by decide)
  simp only [numeric?, List.append_assoc, reads_natural hlength _, reads_integer hlow hhigh _, reads_natural hsign _,
    reads_natural hplaces _, reads_digits hds r, Option.bind_eq_bind, Option.bind_some, if_neg (Nat.not_lt.2 hscale)]
  cases negative <;> rfl

end SqlFilter.Wire

namespace SqlFilter.Decimal

open Wire

/-- The number of digits to the base 10000 that the places take up. -/
def groupsBehind (d : Decimal) : Nat := (d.scale + 3) / 4

/-- The digits to the base 10000, least significant first, with the places filled up to whole digits. -/
def filled (d : Decimal) : List Nat := groups (d.coefficient * 10 ^ (4 * d.groupsBehind - d.scale))

/-- The power of 10000 for which the first digit counts. -/
def weight (d : Decimal) : Int := d.filled.length - d.groupsBehind - 1

theorem length_filled_le (d : Decimal) : d.filled.length ≤ 8 := by
  have hcoefficient := d.coefficient_lt
  rw [limit] at hcoefficient
  have hpad : (10 : Nat) ^ (4 * d.groupsBehind - d.scale) ≤ 10 ^ 3 := by
    refine Nat.pow_le_pow_right (by decide) ?_
    rw [groupsBehind]
    omega
  rw [filled, groups_eq_digits, Nat.digits_length_le_iff (by decide)]
  calc d.coefficient * 10 ^ (4 * d.groupsBehind - d.scale) ≤ d.coefficient * 10 ^ 3 := Nat.mul_le_mul_left _ hpad
    _ < 10000 ^ 8 := by omega

/-- The filled digits are the absolute value, when those of the places are taken back behind the point. -/
theorem ofDigits_filled (d : Decimal) :
    ((Nat.ofDigits 10000 d.filled : ℕ) : ℚ) / 10000 ^ d.groupsBehind = d.coefficient / 10 ^ d.scale := by
  obtain ⟨pad, hpad⟩ := Nat.exists_eq_add_of_le (show d.scale ≤ 4 * d.groupsBehind by rw [groupsBehind]; omega)
  have hbase : (10000 : ℚ) ^ d.groupsBehind = 10 ^ d.scale * 10 ^ pad := by
    rw [← pow_add, ← hpad, pow_mul]
    norm_num
  rw [filled, groups_eq_digits, Nat.ofDigits_digits, hbase, hpad, Nat.add_sub_cancel_left]
  push_cast
  field_simp

variable {d : Decimal}

theorem lt_of_mem_filled {g : Nat} (hg : g ∈ d.filled) : g < 10000 := by
  rw [filled, groups_eq_digits] at hg
  exact Nat.digits_lt_base (by decide) hg

/-- The digits that are sent are those of the absolute value, without some zeros at the end. -/
theorem exists_decimalForm (h : d.coefficient ≠ 0) :
    ∃ ds : List Nat, ds.length ≤ 8 ∧ (∀ g ∈ ds, g < 10000) ∧
      digitSum d.weight ds = d.coefficient / 10 ^ d.scale ∧
      decimalForm d = bytes 2 ds.length ++ intBytes 2 d.weight ++ bytes 2 (if d.negative then 0x4000 else 0) ++
        bytes 2 d.scale ++ ds.flatMap (bytes 2) := by
  obtain ⟨k, hk⟩ : ∃ k, (if 0 ≤ d.weight then dropZeros d.groupsBehind d.filled else d.filled) =
      dropZeros k d.filled := by
    by_cases hweight : 0 ≤ d.weight
    · exact ⟨d.groupsBehind, if_pos hweight⟩
    · refine ⟨0, ?_⟩
      rw [if_neg hweight, dropZeros]
      exact fun _ _ hzero => nomatch hzero
  obtain ⟨j, hj⟩ := exists_replicate_dropZeros k d.filled
  have hsuffix : dropZeros k d.filled <:+ d.filled := ⟨_, hj.symm⟩
  refine ⟨(dropZeros k d.filled).reverse, ?_, fun g hg => ?_, ?_, ?_⟩
  · rw [List.length_reverse]
    exact Nat.le_trans hsuffix.length_le d.length_filled_le
  · exact lt_of_mem_filled (hsuffix.subset (List.mem_reverse.1 hg))
  · rw [weight, digitSum_dropZeros, ofDigits_filled]
  · rw [← hk, List.length_reverse, decimalForm, if_neg h]
    rfl

/-- What is read for a decimal is the same number, and unless it is zero it has as many places. -/
theorem exists_reads (d : Decimal) :
    ∃ n, Reads numeric? (decimalForm d) n ∧ n.value = d.rational ∧ (d.coefficient ≠ 0 → n.scale = d.scale) := by
  by_cases hzero : d.coefficient = 0
  · have hread : Reads numeric? (bytes 2 0 ++ intBytes 2 0 ++ bytes 2 0 ++ bytes 2 0 ++ []) ⟨truncated 0 0, 0⟩ :=
      reads_numeric (List.forall_mem_nil _) (by decide) (by decide) (by decide) (by decide) false
    refine ⟨⟨truncated 0 0, 0⟩, ?_, ?_, fun h => absurd hzero h⟩
    · rw [decimalForm, if_pos hzero]
      exact hread
    · have hnone := truncated_div 0 0
      rw [Nat.cast_zero, zero_div] at hnone
      cases hn : d.negative <;> simp [rational, unscaled, hzero, hn, hnone]
  · obtain ⟨ds, hlength, hdigits, hsum, hbytes⟩ := exists_decimalForm hzero
    have hfilled := d.length_filled_le
    have hplaces := d.scale_le
    have hweight : -8 ≤ d.weight ∧ d.weight ≤ 8 := by
      rw [weight, groupsBehind]
      omega
    have hread := reads_numeric hdigits (by omega) (by omega : _ ≤ 2 * d.weight) (by omega)
      (by omega : d.scale ≤ 0x3FFF) d.negative
    rw [← hbytes, hsum, truncated_div] at hread
    refine ⟨_, hread, ?_, fun _ => rfl⟩
    cases hn : d.negative <;> simp [rational, unscaled, hn, neg_div]

end SqlFilter.Decimal
