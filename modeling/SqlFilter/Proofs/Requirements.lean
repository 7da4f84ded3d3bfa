import Mathlib.Data.List.TakeWhile
import Mathlib.Tactic.MkIffOfInductiveProp
import SqlFilter.Proofs.Checks

/-!
# Requirements on filters

A filter passes its check if and only if it is consistent.  What is checked is a list of requirements, each on some
fields of the filter and with a finding of its own.  The faults of a filter are the findings of just those requirements
that are not met, in order, so that no fault hides another (`Submission.filters_pass_iff_consistent`).  Two
requirements look away on purpose: a list that is too long is not looked into, and only a page with a number and a
length has an offset.
-/

namespace SqlFilter

/-! ### Requirements that are not met -/

/-- A requirement on a filter, with what is found where it is not met. -/
structure Requirement where
  Holds : Prop
  finding : Finding

namespace Requirement

open Classical in
/-- The findings of the requirements that are not met, in order. -/
noncomputable def unmet (rs : List Requirement) : List Finding :=
  rs.filterMap fun r => if r.Holds then none else some r.finding

theorem unmet_append (rs rs' : List Requirement) : unmet (rs ++ rs') = unmet rs ++ unmet rs' :=
  List.filterMap_append

private theorem unmet_cons (r : Requirement) (rs : List Requirement) : unmet (r :: rs) = unmet [r] ++ unmet rs :=
  unmet_append [r] rs

/-- A requirement that a test refutes is not met if and only if the test succeeds. -/
theorem unmet_refuted {P : Prop} {test : Prop} [Decidable test] (h : P ↔ ¬ test) (finding : Finding) :
    unmet [⟨P, finding⟩] = if test then [finding] else [] := by
  by_cases htest : test <;> simp [unmet, h, htest]

theorem unmet_eq_nil {rs : List Requirement} : unmet rs = [] ↔ ∀ r ∈ rs, r.Holds := by
  unfold unmet
  rw [List.filterMap_eq_nil_iff]
  refine forall₂_congr fun r _ => ?_
  by_cases h : r.Holds <;> simp [h]

theorem unmet_flatMap {α : Type} (l : List α) (f : α → List Requirement) :
    unmet (l.flatMap f) = l.flatMap fun x => unmet (f x) :=
  List.filterMap_flatMap

/-! ### What is required of fields -/

variable {α : Type}

/-- No value is asked for and another one excluded. -/
def exclusive (eq neq : Option α) : List Requirement :=
  [⟨¬ (eq.isSome ∧ neq.isSome), "eq/neq", "eq and neq are mutually exclusive"⟩]

/-- The first value compares as less. -/
def Less [PartialCompare α] (a b : α) : Prop := PartialCompare.compare? a b = some .lt

/-- The two values compare as equal. -/
def Same [PartialCompare α] (a b : α) : Prop := PartialCompare.compare? a b = some .eq

/-- Every lower bound agrees with every upper bound; bounds that are not related do not agree. -/
def bounds [PartialCompare α] (gt gte lt lte : Option α) : List Requirement :=
  [⟨∀ a ∈ gt, ∀ b ∈ lt, Less a b, "gt/lt", "gt must be less than lt"⟩,
    ⟨∀ a ∈ gt, ∀ b ∈ lte, Less a b ∨ Same a b, "gt/lte", "gt must be less than or equal to lte"⟩,
    ⟨∀ a ∈ gte, ∀ b ∈ lt, Less a b, "gte/lt", "gte must be less than lt"⟩,
    ⟨∀ a ∈ gte, ∀ b ∈ lte, Less a b ∨ Same a b, "gte/lte", "gte must be less than or equal to lte"⟩]

/-- The two values are equal by the equality of their type. -/
def Equal [BEq α] (a b : α) : Prop := (a == b) = true

/-- Two values that are both present are not the same. -/
def Distinct (same : α → α → Prop) (x y : Option α) : Prop := ∀ a ∈ x, ∀ b ∈ y, ¬ same a b

/-- A list that is set has 1 to 1000 values, no null and no value twice.  One that is too long is not looked into. -/
def list (same : α → α → Prop) (field : String) (xs : Option (List (Option α))) : List Requirement :=
  [⟨∀ l ∈ xs, l ≠ [], field, "must not be empty"⟩,
    ⟨∀ l ∈ xs, l.length ≤ 1000, field, "must not contain more than 1000 values"⟩,
    ⟨∀ l ∈ xs, l.length ≤ 1000 → none ∉ l, field, "must not contain null values"⟩,
    ⟨∀ l ∈ xs, l.length ≤ 1000 → l.Pairwise (Distinct same), field, "must not contain duplicate values"⟩]

/-- A value that is set obeys the rules that the caller adds. -/
def rules (field : String) (rs : List (Rule α)) (x : Option α) : List Requirement :=
  rs.map fun r => ⟨∀ v ∈ x, r.accepts v = true, field, r.message⟩

/-- Every text of a list that is set obeys the rules for texts, and the texts together those for lists. -/
def textRules (field : String) (rs : TextRules) (xs : Option (List (Option String))) : List Requirement :=
  xs.toList.flatMap (fun l => l.flatMap (rules field rs.each)) ++ rules field rs.list (xs.map present)

/-- Bits that are tested for are not empty. -/
def someBit [FlagSet α] (field : String) (x : Option α) : List Requirement :=
  [⟨∀ a ∈ x, FlagSet.bits a ≠ 0, field, "flag must have at least one bit set"⟩]

/-- A bit of the first number that the second has not. -/
def BitLeft (a b : Int64) : Prop := ∃ i, a.toBitVec.getLsbD i = true ∧ b.toBitVec.getLsbD i = false

/-- Some bit is to be set that is not to be clear. -/
def bitLeft [FlagSet α] (has hasNot : Option α) : List Requirement :=
  [⟨∀ a ∈ has, ∀ b ∈ hasNot, BitLeft (FlagSet.bits a) (FlagSet.bits b),
    "has_flag/not_has_flag", "every has_flag bit is excluded by not_has_flag"⟩]

/-- A term is not empty when white space is trimmed from its ends. -/
def term (s : String) : List Requirement :=
  [⟨Text.dropBlanks (Text.dropBlanks s.toList).reverse ≠ [], "term", "must not be empty"⟩]

/-- A text search configuration that is set has the form that names have. -/
def config (c : Option String) : List Requirement :=
  [⟨∀ n ∈ c, Text.isIdentifier n = true, "config", "must be a valid text search configuration name"⟩]

/-- An integer is one of 64 bits. -/
def Fits (n : Int) : Prop := Int64.minValue.toInt ≤ n ∧ n ≤ Int64.maxValue.toInt

/-- A page has a length within the cap and a number, and the number of rows before it fits into 64 bits. -/
def paging (f : PageFilter) (maxLimit : Option Int64) : List Requirement :=
  [⟨0 < f.limit, "limit", "must be greater than 0"⟩,
    ⟨0 < f.page, "page", "must be greater than 0"⟩,
    ⟨0 < f.limit → 0 < f.page → Fits (f.limit.toInt * (f.page.toInt - 1)), "page",
      "offset does not fit in a 64-bit integer"⟩] ++
    maxLimit.toList.map fun m => ⟨f.limit ≤ m, "limit", "must not exceed " ++ Text.integer m.toInt⟩

/-! ### The findings of fields -/

private theorem unmet_exclusive (eq neq : Option α) : unmet (exclusive eq neq) = Finding.exclusive eq neq := by
  cases eq <;> cases neq <;> simp [exclusive, unmet, Finding.exclusive]

private theorem unmet_bound (field message : String) {holds : α → α → Bool} {Holds : α → α → Prop}
    (h : ∀ a b, holds a b = true ↔ Holds a b) (x y : Option α) :
    unmet [⟨∀ a ∈ x, ∀ b ∈ y, Holds a b, field, message⟩] = Finding.unordered field message holds x y := by
  cases x with
  | none => simp [unmet, Finding.unordered]
  | some a =>
    cases y with
    | none => simp [unmet, Finding.unordered]
    | some b =>
      have hab : Holds a b ↔ holds a b = true := (h a b).symm
      by_cases hholds : holds a b = true <;> simp [unmet, Finding.unordered, hab, hholds]

private theorem lt_iff [PartialCompare α] (a b : α) : PartialCompare.lt a b = true ↔ Less a b := by
  simp [PartialCompare.lt, Less]

private theorem same_iff [PartialCompare α] (a b : α) : PartialCompare.same a b = true ↔ Same a b := by
  simp [PartialCompare.same, Same]

private theorem le_iff [PartialCompare α] (a b : α) : PartialCompare.le a b = true ↔ Less a b ∨ Same a b := by
  rw [PartialCompare.le, Bool.or_eq_true, lt_iff, same_iff]

theorem unmet_bounds [PartialCompare α] (gt gte lt lte : Option α) :
    unmet (bounds gt gte lt lte) = Finding.range gt gte lt lte := by
  unfold Finding.range
  rw [← unmet_bound _ _ lt_iff, ← unmet_bound _ _ le_iff, ← unmet_bound _ _ lt_iff, ← unmet_bound _ _ le_iff,
    ← unmet_append, ← unmet_append, ← unmet_append]
  rfl

private theorem hasDuplicate_eq_false {same : α → α → Bool} {l : List α} :
    Finding.hasDuplicate same l = false ↔ l.Pairwise fun a b => same a b = false := by
  induction l with
  | nil => simp [Finding.hasDuplicate]
  | cons a l ih => simp [Finding.hasDuplicate, ih]

private theorem pairwise_present {Same : α → α → Prop} {l : List (Option α)} :
    (present l).Pairwise (fun a b => ¬ Same a b) ↔ l.Pairwise (Distinct Same) := by
  unfold present
  rw [List.pairwise_filterMap]
  rfl

private theorem unmet_list {same : α → α → Bool} {Same : α → α → Prop} (h : ∀ a b, same a b = true ↔ Same a b)
    (field : String) (xs : Option (List (Option α))) : unmet (list Same field xs) = Finding.list same field xs := by
  cases xs with
  | none => simp [list, unmet, Finding.list]
  | some l =>
    have hnull : none ∈ l ↔ l.any Option.isNone = true := by simp [List.any_eq_true]
    have hdup : l.Pairwise (Distinct Same) ↔ Finding.hasDuplicate same (present l) = false := by
      rw [← pairwise_present, hasDuplicate_eq_false]
      simp only [← h, Bool.not_eq_true]
    -- the check stops at a list that is empty or too long, where the later requirements say nothing
    by_cases hempty : l = []
    · subst hempty
      simp [list, unmet, Finding.list]
    · by_cases hlong : 1000 < l.length
      · have hnot : ¬ l.length ≤ 1000 := Nat.not_le_of_lt hlong
        have hmessage : "must not contain more than " ++ toString Finding.maxListLength ++ " values" =
            "must not contain more than 1000 values" := by decide +kernel
        simp [list, unmet, Finding.list, Finding.maxListLength, hempty, hlong, hnot]
        exact hmessage.symm
      · have hle : l.length ≤ 1000 := Nat.le_of_not_lt hlong
        simp only [list, Finding.list, Finding.maxListLength, List.isEmpty_iff, hempty, hlong]
        cases hn : l.any Option.isNone <;> cases hd : Finding.hasDuplicate same (present l) <;>
          simp [unmet, hempty, hle, hnull, hn, hdup, hd]

private theorem unmet_rules (field : String) (rs : List (Rule α)) (x : Option α) :
    unmet (rules field rs x) = Finding.custom field rs x := by
  cases x with
  | none => simp [unmet_eq_nil, rules, Finding.custom]
  | some v =>
    have hbroken : unmet (rules field rs (some v)) = Finding.broken field rs v := by
      induction rs with
      | nil => rfl
      | cons r rs ih =>
        have hcons : rules field (r :: rs) (some v) = rules field [r] (some v) ++ rules field rs (some v) := rfl
        rw [hcons, unmet_append, ih]
        cases hr : r.accepts v <;> simp [rules, unmet, Finding.broken, hr]
    rw [hbroken]
    simp [Finding.custom]

private theorem unmet_textRules (field : String) (rs : TextRules) (xs : Option (List (Option String))) :
    unmet (textRules field rs xs) = Finding.customList field rs xs := by
  unfold textRules
  rw [unmet_append, unmet_rules, unmet_flatMap]
  cases xs with
  | none => rfl
  | some l =>
    have heach : unmet (l.flatMap (rules field rs.each)) = (present l).flatMap (Finding.broken field rs.each) := by
      rw [unmet_flatMap]
      simp only [unmet_rules]
      induction l with
      | nil => rfl
      | cons x l ih => cases x <;> simp_all [present, Finding.custom]
    simp [heach, Finding.customList, Finding.custom]

private theorem unmet_someBit [FlagSet α] (field : String) (x : Option α) :
    unmet (someBit field x) = Finding.noBits field x := by
  cases x with
  | none => simp [someBit, unmet, Finding.noBits]
  | some b => exact unmet_refuted (by simp) _

/-- The conjunction of two numbers is zero if and only if no bit is set in both. -/
theorem and_eq_zero {a b : Int64} :
    a &&& b = 0 ↔ ¬ ∃ i, a.toBitVec.getLsbD i = true ∧ b.toBitVec.getLsbD i = true := by
  rw [← Int64.toBitVec_inj, Int64.toBitVec_and, BitVec.eq_of_getLsbD_eq_iff]
  constructor
  · rintro h ⟨i, ha, hb⟩
    have hand := h i (BitVec.lt_of_getLsbD ha)
    simp [ha, hb] at hand
  · intro h i _
    have hbits : ¬ (a.toBitVec.getLsbD i = true ∧ b.toBitVec.getLsbD i = true) := fun hab => h ⟨i, hab⟩
    simpa using hbits

/-- Some bit is left if and only if taking the others away leaves a number that is not zero. -/
private theorem and_not_eq_zero {a b : Int64} : a &&& ~~~b = 0 ↔ ¬ BitLeft a b := by
  rw [and_eq_zero, Int64.toBitVec_not]
  refine not_congr (exists_congr fun i => and_congr_right fun ha => ?_)
  simp [BitVec.lt_of_getLsbD ha]

private theorem unmet_bitLeft [FlagSet α] (has hasNot : Option α) :
    unmet (bitLeft has hasNot) = Finding.allExcluded has hasNot := by
  cases has with
  | none => simp [bitLeft, unmet, Finding.allExcluded]
  | some a =>
    cases hasNot with
    | none => simp [bitLeft, unmet, Finding.allExcluded]
    | some b => exact unmet_refuted (by simp [and_not_eq_zero]) _

private theorem trimmed_eq_nil {s : String} :
    Text.dropBlanks (Text.dropBlanks s.toList).reverse = [] ↔ Text.isBlank s = true := by
  unfold Text.dropBlanks Text.isBlank
  rw [List.dropWhile_eq_nil_iff, List.all_eq_true]
  simp only [List.mem_reverse]
  constructor
  · intro h c hc
    -- what the first trimming drops is blank, and so is what it leaves, since the second drops it
    rw [← List.takeWhile_append_dropWhile (p := Text.isBlankChar) (l := s.toList), List.mem_append] at hc
    rcases hc with hc | hc
    · exact List.mem_takeWhile_imp hc
    · exact h c hc
  · intro h c hc
    exact h c ((List.dropWhile_sublist _).subset hc)

private theorem unmet_term (s : String) : unmet (term s) = Finding.blankTerm s :=
  unmet_refuted (not_congr trimmed_eq_nil) _

private theorem unmet_config (c : Option String) :
    unmet (config c) = match c with
      | some n => if Text.isIdentifier n then [] else [⟨"config", "must be a valid text search configuration name"⟩]
      | none => [] := by
  cases c with
  | none => simp [config, unmet]
  | some n => by_cases h : Text.isIdentifier n = true <;> simp [config, unmet, h]

private theorem int64?_eq_none {n : Int} : int64? n = none ↔ ¬ Fits n := by
  unfold int64? Fits
  split <;> simp_all

/-- The number of pages before a page fits, so the offset fails to fit if and only if its product does. -/
private theorem checkedOffset_eq_none {f : PageFilter} (hpage : 0 < f.page) :
    f.checkedOffset = none ↔ ¬ Fits (f.limit.toInt * (f.page.toInt - 1)) := by
  have hlow : 0 < f.page.toInt := by simpa using Int64.lt_iff_toInt_lt.mp hpage
  have hhigh : f.page.toInt ≤ Int64.maxValue.toInt := Int64.toInt_le f.page
  have hbefore : Fits (f.page.toInt - 1) := by
    unfold Fits
    have hmin : Int64.minValue.toInt ≤ 0 := by decide
    omega
  have hint : int64? (f.page.toInt - 1) = some (Int64.ofInt (f.page.toInt - 1)) := if_pos hbefore
  have hvalue : (Int64.ofInt (f.page.toInt - 1)).toInt = f.page.toInt - 1 :=
    Int64.toInt_ofInt_of_le hbefore.1 (Int.lt_add_one_of_le hbefore.2)
  simp only [PageFilter.checkedOffset, hint, Option.bind_eq_bind, Option.bind_some, hvalue]
  exact int64?_eq_none

private theorem unmet_paging (f : PageFilter) (maxLimit : Option Int64) :
    unmet (paging f maxLimit) = f.findings maxLimit := by
  have hlimit : unmet [⟨0 < f.limit, "limit", "must be greater than 0"⟩] =
      if f.limit ≤ 0 then [⟨"limit", "must be greater than 0"⟩] else [] :=
    unmet_refuted Int64.not_le.symm _
  have hpage : unmet [⟨0 < f.page, "page", "must be greater than 0"⟩,
      ⟨0 < f.limit → 0 < f.page → Fits (f.limit.toInt * (f.page.toInt - 1)), "page",
        "offset does not fit in a 64-bit integer"⟩] =
      if f.page ≤ 0 then [⟨"page", "must be greater than 0"⟩]
      else if 0 < f.limit ∧ f.checkedOffset = none then [⟨"page", "offset does not fit in a 64-bit integer"⟩]
      else [] := by
    by_cases h : f.page ≤ 0
    · simp [unmet, h, Int64.not_lt.mpr h]
    · have hpos : 0 < f.page := Int64.not_le.mp h
      have hoffset : (0 < f.limit → 0 < f.page → Fits (f.limit.toInt * (f.page.toInt - 1))) ↔
          ¬ (0 < f.limit ∧ f.checkedOffset = none) := by
        simp [checkedOffset_eq_none hpos, hpos]
      rw [unmet_cons, unmet_refuted Int64.not_le.symm, if_neg h, if_neg h]
      exact unmet_refuted hoffset _
  unfold paging PageFilter.findings
  rw [unmet_append, unmet_cons, hlimit, hpage]
  refine congrArg _ ?_
  cases maxLimit with
  | none => rfl
  | some m => exact unmet_refuted Int64.not_lt.symm _

end Requirement

/-! ### Filters that are checked -/

open Requirement

/-- What is required of a filter on values with an order. -/
def RangeFilter.requirements {α : Type} [PartialCompare α] (f : RangeFilter α) (rs : List (Rule α)) :
    List Requirement :=
  exclusive f.eq f.neq ++ bounds f.gt f.gte f.lt f.lte ++ list Same "in" f.isIn ++ list Same "not_in" f.notIn ++
    rules "eq" rs f.eq ++ rules "neq" rs f.neq ++ rules "gt" rs f.gt ++ rules "gte" rs f.gte ++
    rules "lt" rs f.lt ++ rules "lte" rs f.lte

/-- What is required of a filter on values that are told apart, where `same` says which of them are the same. -/
def ChoiceFilter.requirements {α : Type} (same : α → α → Prop) (f : ChoiceFilter α) (rs : List (Rule α)) :
    List Requirement :=
  exclusive f.eq f.neq ++ list same "in" f.isIn ++ list same "not_in" f.notIn ++ rules "eq" rs f.eq ++
    rules "neq" rs f.neq

/-- What is required of a filter on bits. -/
def FlagsFilter.requirements {α : Type} [FlagSet α] (f : FlagsFilter α) (rs : List (Rule α)) : List Requirement :=
  someBit "has_flag" f.has ++ rules "has_flag" rs f.has ++ someBit "not_has_flag" f.hasNot ++
    rules "not_has_flag" rs f.hasNot ++ bitLeft f.has f.hasNot

/-- What is required of a filter on text. -/
def TextFilter.requirements (f : TextFilter) (rs : TextRules) : List Requirement :=
  exclusive f.eq f.neq ++ list Eq "in" f.isIn ++ list Eq "not_in" f.notIn ++
    rules "eq" rs.each f.eq ++ rules "neq" rs.each f.neq ++ rules "contains" rs.each f.contains ++
    rules "starts_with" rs.each f.startsWith ++ rules "ends_with" rs.each f.endsWith ++
    textRules "in" rs f.isIn ++ textRules "not_in" rs f.notIn

private theorem RangeFilter.unmet_requirements {α : Type} [PartialCompare α] (f : RangeFilter α)
    (rs : List (Rule α)) : unmet (f.requirements rs) = f.findings rs := by
  simp only [requirements, findings, unmet_append, unmet_exclusive, unmet_bounds, unmet_list same_iff, unmet_rules]

private theorem ChoiceFilter.unmet_requirements {α : Type} [BEq α] {same : α → α → Prop}
    (h : ∀ a b : α, (a == b) = true ↔ same a b) (f : ChoiceFilter α) (rs : List (Rule α)) :
    unmet (f.requirements same rs) = f.findings rs := by
  simp only [requirements, findings, unmet_append, unmet_exclusive, unmet_list h, unmet_rules]

private theorem FlagsFilter.unmet_requirements {α : Type} [FlagSet α] (f : FlagsFilter α) (rs : List (Rule α)) :
    unmet (f.requirements rs) = f.findings rs := by
  simp only [requirements, findings, unmet_append, unmet_someBit, unmet_bitLeft, unmet_rules]

private theorem TextFilter.unmet_requirements (f : TextFilter) (rs : TextRules) :
    unmet (f.requirements rs) = f.findings rs := by
  simp only [requirements, findings, unmet_append, unmet_exclusive,
    unmet_list (fun _ _ => beq_iff_eq), unmet_rules, unmet_textRules]

/-! ### Consistent filters -/

/-- A list that can be asked for: it has 1 to 1000 values, no null and no value twice. -/
structure Proper {α : Type} (same : α → α → Prop) (l : List (Option α)) : Prop where
  length : 1 ≤ l.length ∧ l.length ≤ 1000
  no_null : none ∉ l
  distinct : l.Pairwise (Distinct same)

theorem Proper.nodup_present {α : Type} {l : List (Option α)} (h : Proper Eq l) : (present l).Nodup :=
  pairwise_present.2 h.distinct

/-- The values that are set obey the rules. -/
def Obey {α : Type} (rs : List (Rule α)) (xs : List (Option α)) : Prop :=
  ∀ x ∈ xs, ∀ v ∈ x, ∀ r ∈ rs, r.accepts v = true

/-- The filter can be met, and obeys the rules. -/
@[mk_iff]
structure RangeFilter.Consistent {α : Type} [PartialCompare α] (f : RangeFilter α) (rs : List (Rule α)) : Prop where
  exclusive : ¬ (f.eq.isSome ∧ f.neq.isSome)
  gt_lt : ∀ a ∈ f.gt, ∀ b ∈ f.lt, Less a b
  gt_lte : ∀ a ∈ f.gt, ∀ b ∈ f.lte, Less a b ∨ Same a b
  gte_lt : ∀ a ∈ f.gte, ∀ b ∈ f.lt, Less a b
  gte_lte : ∀ a ∈ f.gte, ∀ b ∈ f.lte, Less a b ∨ Same a b
  isIn : ∀ l ∈ f.isIn, Proper Same l
  notIn : ∀ l ∈ f.notIn, Proper Same l
  obeyed : Obey rs [f.eq, f.neq, f.gt, f.gte, f.lt, f.lte]

/-- The choice can be made, and obeys the rules. -/
@[mk_iff]
structure ChoiceFilter.Consistent {α : Type} (same : α → α → Prop) (f : ChoiceFilter α) (rs : List (Rule α)) :
    Prop where
  exclusive : ¬ (f.eq.isSome ∧ f.neq.isSome)
  isIn : ∀ l ∈ f.isIn, Proper same l
  notIn : ∀ l ∈ f.notIn, Proper same l
  obeyed : Obey rs [f.eq, f.neq]

/-- There are bits to test for, and they obey the rules. -/
@[mk_iff]
structure FlagsFilter.Consistent {α : Type} [FlagSet α] (f : FlagsFilter α) (rs : List (Rule α)) : Prop where
  has : ∀ a ∈ f.has, FlagSet.bits a ≠ 0
  has_obeyed : Obey rs [f.has]
  hasNot : ∀ b ∈ f.hasNot, FlagSet.bits b ≠ 0
  hasNot_obeyed : Obey rs [f.hasNot]
  left : ∀ a ∈ f.has, ∀ b ∈ f.hasNot, BitLeft (FlagSet.bits a) (FlagSet.bits b)

/-- The filter can be met; its texts, also those in lists, and its lists obey the rules. -/
@[mk_iff]
structure TextFilter.Consistent (f : TextFilter) (rs : TextRules) : Prop where
  exclusive : ¬ (f.eq.isSome ∧ f.neq.isSome)
  isIn : ∀ l ∈ f.isIn, Proper Eq l
  notIn : ∀ l ∈ f.notIn, Proper Eq l
  obeyed : Obey rs.each [f.eq, f.neq, f.contains, f.startsWith, f.endsWith]
  isIn_members : ∀ l ∈ f.isIn, Obey rs.each l
  isIn_obeyed : Obey rs.list [f.isIn.map present]
  notIn_members : ∀ l ∈ f.notIn, Obey rs.each l
  notIn_obeyed : Obey rs.list [f.notIn.map present]

/-- There is something left of the term once it is trimmed. -/
def Searchable (term : String) : Prop := Text.dropBlanks (Text.dropBlanks term.toList).reverse ≠ []

/-- The page has a number and a length within the cap, and the rows before it can be counted in 64 bits. -/
@[mk_iff]
structure PageFilter.Consistent (f : PageFilter) (maxLimit : Option Int64) : Prop where
  limit : 0 < f.limit
  page : 0 < f.page
  offset : Fits (f.limit.toInt * (f.page.toInt - 1))
  cap : ∀ m ∈ maxLimit, f.limit ≤ m

section

variable {α : Type}

private theorem met_bounds [PartialCompare α] {gt gte lt lte : Option α} :
    (∀ r ∈ bounds gt gte lt lte, r.Holds) ↔ (∀ a ∈ gt, ∀ b ∈ lt, Less a b) ∧
      (∀ a ∈ gt, ∀ b ∈ lte, Less a b ∨ Same a b) ∧ (∀ a ∈ gte, ∀ b ∈ lt, Less a b) ∧
      ∀ a ∈ gte, ∀ b ∈ lte, Less a b ∨ Same a b := by
  simp [bounds]

private theorem met_list {same : α → α → Prop} {field : String} {xs : Option (List (Option α))} :
    (∀ r ∈ list same field xs, r.Holds) ↔ ∀ l ∈ xs, Proper same l := by
  cases xs with
  | none => simp [list]
  | some l =>
    simp only [list, List.forall_mem_cons, Option.mem_some_iff, forall_eq']
    constructor
    · rintro ⟨hne, hlen, hnull, hdistinct, -⟩
      exact ⟨⟨List.length_pos_iff.mpr hne, hlen⟩, hnull hlen, hdistinct hlen⟩
    · intro h
      exact ⟨List.length_pos_iff.mp h.length.1, h.length.2, fun _ => h.no_null, fun _ => h.distinct, by simp⟩

private theorem met_rules (field : String) {rs : List (Rule α)} {x : Option α} :
    (∀ r ∈ rules field rs x, r.Holds) ↔ Obey rs [x] := by
  simp only [rules, Obey, List.forall_mem_map, List.forall_mem_singleton]
  exact ⟨fun h v hv r hr => h r hr v hv, fun h r hr v hv => h v hv r hr⟩

private theorem met_textRules {field : String} {rs : TextRules} {xs : Option (List (Option String))} :
    (∀ r ∈ textRules field rs xs, r.Holds) ↔ (∀ l ∈ xs, Obey rs.each l) ∧ Obey rs.list [xs.map present] := by
  unfold textRules
  rw [List.forall_mem_append, met_rules]
  refine and_congr_left' ?_
  cases xs with
  | none => simp
  | some l =>
    simp only [Option.toList_some, List.flatMap_singleton, Option.mem_some_iff, forall_eq']
    constructor
    · intro h x hx
      exact (met_rules field).mp (fun r hr => h r (List.mem_flatMap.mpr ⟨x, hx, hr⟩)) x (List.mem_singleton_self x)
    · intro h r hr
      obtain ⟨x, hx, hr⟩ := List.mem_flatMap.mp hr
      exact (met_rules field).mpr (List.forall_mem_singleton.mpr (h x hx)) r hr

private theorem RangeFilter.met_requirements [PartialCompare α] (f : RangeFilter α) (rs : List (Rule α)) :
    (∀ r ∈ f.requirements rs, r.Holds) ↔ f.Consistent rs := by
  simp only [requirements, List.forall_mem_append, exclusive, List.forall_mem_singleton, met_bounds, met_list,
    met_rules, consistent_iff, Obey, List.forall_mem_cons, and_assoc]

private theorem ChoiceFilter.met_requirements (same : α → α → Prop) (f : ChoiceFilter α) (rs : List (Rule α)) :
    (∀ r ∈ f.requirements same rs, r.Holds) ↔ f.Consistent same rs := by
  simp only [requirements, List.forall_mem_append, exclusive, List.forall_mem_singleton, met_list,
    met_rules, consistent_iff, Obey, List.forall_mem_cons, and_assoc]

private theorem FlagsFilter.met_requirements [FlagSet α] (f : FlagsFilter α) (rs : List (Rule α)) :
    (∀ r ∈ f.requirements rs, r.Holds) ↔ f.Consistent rs := by
  simp only [requirements, List.forall_mem_append, someBit, bitLeft, List.forall_mem_singleton,
    met_rules, consistent_iff, Obey, and_assoc]

private theorem TextFilter.met_requirements (f : TextFilter) (rs : TextRules) :
    (∀ r ∈ f.requirements rs, r.Holds) ↔ f.Consistent rs := by
  simp only [requirements, List.forall_mem_append, exclusive, List.forall_mem_singleton, met_list, met_rules,
    met_textRules, consistent_iff, Obey, List.forall_mem_cons, and_assoc]

private theorem PageFilter.met_requirements (f : PageFilter) (maxLimit : Option Int64) :
    (∀ r ∈ paging f maxLimit, r.Holds) ↔ f.Consistent maxLimit := by
  simp only [paging, List.forall_mem_append, List.forall_mem_cons, List.forall_mem_map, consistent_iff]
  constructor
  · rintro ⟨⟨hlimit, hpage, hoffset, -⟩, hcap⟩
    exact ⟨hlimit, hpage, hoffset hlimit hpage, fun m hm => hcap m (Option.mem_toList.mpr hm)⟩
  · rintro ⟨hlimit, hpage, hoffset, hcap⟩
    exact ⟨⟨hlimit, hpage, fun _ _ => hoffset, by simp⟩, fun m hm => hcap m (Option.mem_toList.mp hm)⟩

end

theorem FlagsFilter.findings_eq_nil {α : Type} [FlagSet α] (f : FlagsFilter α) (rs : List (Rule α)) :
    f.findings rs = [] ↔ f.Consistent rs := by
  rw [← unmet_requirements, unmet_eq_nil, met_requirements]

theorem TextFilter.findings_eq_nil (f : TextFilter) (rs : TextRules) : f.findings rs = [] ↔ f.Consistent rs := by
  rw [← unmet_requirements, unmet_eq_nil, met_requirements]

theorem PageFilter.findings_eq_nil (f : PageFilter) (maxLimit : Option Int64) :
    f.findings maxLimit = [] ↔ f.Consistent maxLimit := by
  rw [← unmet_paging, unmet_eq_nil, met_requirements]

/-- A filter with what it is checked against.  Enumerations and flags are of any type. -/
inductive Submission
  | boolean (f : BooleanFilter)
  | numeric (t : NumericType) (f : RangeFilter t.Carrier) (rules : List (Rule t.Carrier))
  | date (t : DateType) (f : RangeFilter t.Carrier) (rules : List (Rule t.Carrier))
  | enum {α : Type} [Enumeration α] (f : EnumFilter α) (rules : List (Rule α))
  | flags {α : Type} [FlagSet α] (f : FlagsFilter α) (rules : List (Rule α))
  | id (f : IdFilter) (rules : List (Rule Uuid))
  | text (f : TextFilter) (rules : TextRules)
  | search (f : SearchFilter)
  | fullText (f : FullTextFilter)
  | page (f : PageFilter) (maxLimit : Option Int64)

namespace Submission

/-- The faults that checking finds. -/
def findings : Submission → List Finding
  | boolean f => f.findings
  | numeric _ f rules => f.findings rules
  | date _ f rules => f.findings rules
  | enum f rules => f.toChoiceFilter.findings rules
  | flags f rules => f.findings rules
  | id f rules => ChoiceFilter.findings f rules
  | text f rules => f.findings rules
  | search f => f.findings
  | fullText f => f.findings
  | page f maxLimit => f.findings maxLimit

/-- What is required, with what is to be found where it is not met. -/
def requirements : Submission → List Requirement
  | boolean f => exclusive f.eq f.neq
  | numeric _ f rules => f.requirements rules
  | date _ f rules => f.requirements rules
  | enum f rules => f.toChoiceFilter.requirements Equal rules
  | flags f rules => f.requirements rules
  | id f rules => ChoiceFilter.requirements Eq f rules
  | text f rules => f.requirements rules
  | search f => term f.term
  | fullText f => term f.term ++ config f.config
  | page f maxLimit => paging f maxLimit

/-- The filter can be met, and obeys the rules that the caller adds. -/
def Consistent : Submission → Prop
  | boolean f => ¬ (f.eq.isSome ∧ f.neq.isSome)
  | numeric _ f rules => f.Consistent rules
  | date _ f rules => f.Consistent rules
  | enum f rules => f.toChoiceFilter.Consistent Equal rules
  | flags f rules => f.Consistent rules
  | id f rules => ChoiceFilter.Consistent Eq f rules
  | text f rules => f.Consistent rules
  | search f => Searchable f.term
  | fullText f => Searchable f.term ∧ ∀ c ∈ f.config, Text.isIdentifier c = true
  | page f maxLimit => f.Consistent maxLimit

private theorem unmet_requirements (s : Submission) : unmet s.requirements = s.findings := by
  cases s with
  | boolean f => exact unmet_exclusive _ _
  | numeric t f rules => exact f.unmet_requirements rules
  | date t f rules => exact f.unmet_requirements rules
  | enum f rules => exact ChoiceFilter.unmet_requirements (fun _ _ => Iff.rfl) f.toChoiceFilter rules
  | flags f rules => exact f.unmet_requirements rules
  | id f rules => exact ChoiceFilter.unmet_requirements (fun _ _ => beq_iff_eq) f rules
  | text f rules => exact f.unmet_requirements rules
  | search f => exact unmet_term _
  | fullText f =>
    rw [requirements, unmet_append, unmet_term]
    exact congrArg _ (unmet_config f.config)
  | page f maxLimit => exact unmet_paging f maxLimit

private theorem met_requirements (s : Submission) : (∀ r ∈ s.requirements, r.Holds) ↔ s.Consistent := by
  cases s with
  | boolean f => exact List.forall_mem_singleton
  | numeric t f rules => exact f.met_requirements rules
  | date t f rules => exact f.met_requirements rules
  | enum f rules => exact f.toChoiceFilter.met_requirements Equal rules
  | flags f rules => exact f.met_requirements rules
  | id f rules => exact ChoiceFilter.met_requirements Eq f rules
  | text f rules => exact f.met_requirements rules
  | search f => exact List.forall_mem_singleton
  | fullText f =>
    simp only [requirements, Consistent, List.forall_mem_append, term, config, List.forall_mem_singleton, Searchable]
  | page f maxLimit => exact f.met_requirements maxLimit

/-- Checking finds nothing if and only if the filter is consistent.  What it finds otherwise is, in order, the finding
of each requirement that is not met, whichever other ones are not met either. -/
theorem filters_pass_iff_consistent (s : Submission) :
    (s.findings = [] ↔ s.Consistent) ∧ s.findings = unmet s.requirements := by
  refine ⟨?_, s.unmet_requirements.symm⟩
  rw [← unmet_requirements, unmet_eq_nil, met_requirements]

/-- A filter with faults in two places has both of them found. -/
example : findings (.numeric .int32 { eq := some 1, neq := some 2, gt := some 5, lte := some 4 } []) =
    [⟨"eq/neq", "eq and neq are mutually exclusive"⟩, ⟨"gt/lte", "gt must be less than or equal to lte"⟩] := by
  decide

end Submission

end SqlFilter
