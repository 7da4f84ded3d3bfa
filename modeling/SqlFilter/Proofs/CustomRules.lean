import Mathlib.Data.List.Basic
import Mathlib.Data.List.Flatten
import SqlFilter.Proofs.Requirements

/-!
# Rules that a caller adds

A rule that a caller adds can only make a check stricter.  The rules that apply to a filter are written down as
verdicts, one for each rule and each value that it looks at (`Submission.verdicts`).  What checking finds is what it
finds without the rules, interleaved with the findings of the verdicts that reject: after it for most filters, flag by
flag for a filter on bits.  A rule that comes after the others brings further verdicts and takes none away.
-/

namespace SqlFilter

/-! ### Interleaved lists -/

/-- The third list has the elements of the other two, each in its order. -/
inductive Interleaved {α : Type} : List α → List α → List α → Prop
  | nil : Interleaved [] [] []
  | left {a : α} {l r t : List α} : Interleaved l r t → Interleaved (a :: l) r (a :: t)
  | right {a : α} {l r t : List α} : Interleaved l r t → Interleaved l (a :: r) (a :: t)

namespace Interleaved

variable {α : Type} {l l' r r' t t' : List α}

theorem append (h : Interleaved l r t) (h' : Interleaved l' r' t') : Interleaved (l ++ l') (r ++ r') (t ++ t') := by
  induction h with
  | nil => exact h'
  | left _ ih => exact .left ih
  | right _ ih => exact .right ih

theorem only_left (l : List α) : Interleaved l [] l := by
  induction l with
  | nil => exact .nil
  | cons a l ih => exact .left ih

theorem only_right (r : List α) : Interleaved [] r r := by
  induction r with
  | nil => exact .nil
  | cons a r ih => exact .right ih

theorem one_after_other (l r : List α) : Interleaved l r (l ++ r) := by
  have h := (only_left l).append (only_right r)
  rwa [List.append_nil] at h

theorem sublist (h : Interleaved l r t) : l.Sublist t := by
  induction h with
  | nil => exact .slnil
  | left _ ih => exact ih.cons_cons _
  | right _ ih => exact ih.cons _

theorem length_eq (h : Interleaved l r t) : t.length = l.length + r.length := by
  induction h with
  | nil => rfl
  | left _ ih | right _ ih =>
    simp only [List.length_cons, ih]
    omega

theorem eq_left_iff (h : Interleaved l r t) : t = l ↔ r = [] := by
  rw [← List.length_eq_zero_iff, eq_comm]
  constructor
  · rintro rfl
    have := h.length_eq
    omega
  · intro hr
    refine h.sublist.eq_of_length ?_
    rw [h.length_eq, hr, Nat.add_zero]

end Interleaved

/-! ### Verdicts -/

/-- What becomes of a value under a rule: the field of the value with the message of the rule, and whether the rule
accepts the value. -/
structure Verdict where
  finding : Finding
  accepted : Bool

namespace Verdict

variable {α : Type}

/-- The verdicts on a value, in the order of the rules. -/
def onValue (field : String) (rules : List (Rule α)) (x : α) : List Verdict :=
  rules.map fun r => ⟨⟨field, r.message⟩, r.accepts x⟩

/-- The verdicts on the fields that are set. -/
def onFields (rules : List (Rule α)) (fields : List (String × Option α)) : List Verdict :=
  fields.flatMap fun (field, x) => x.toList.flatMap (onValue field rules)

/-- The verdicts on the lists that are set: on the texts of each list one by one, then on the list. -/
def onLists (rules : TextRules) (fields : List (String × Option (List (Option String)))) : List Verdict :=
  fields.flatMap fun (field, xs) => xs.toList.flatMap fun l =>
    (present l).flatMap (onValue field rules.each) ++ onValue field rules.list (present l)

/-- The findings of the verdicts that reject, in order. -/
def rejections (vs : List Verdict) : List Finding := (vs.filter fun v => !v.accepted).map finding

theorem rejections_append (vs vs' : List Verdict) : rejections (vs ++ vs') = rejections vs ++ rejections vs' := by
  rw [rejections, List.filter_append, List.map_append]
  rfl

theorem rejections_flatMap {β : Type} (l : List β) (f : β → List Verdict) :
    rejections (l.flatMap f) = l.flatMap fun x => rejections (f x) := by
  rw [rejections, List.filter_flatMap, List.map_flatMap]
  rfl

theorem rejections_eq_nil {vs : List Verdict} : rejections vs = [] ↔ ∀ v ∈ vs, v.accepted = true := by
  simp [rejections]

theorem rejections_sublist {vs vs' : List Verdict} (h : vs.Sublist vs') :
    (rejections vs).Sublist (rejections vs') :=
  (h.filter _).map _

theorem rejections_onValue (field : String) (rules : List (Rule α)) (x : α) :
    rejections (onValue field rules x) = Finding.broken field rules x := by
  rw [rejections, onValue, List.filter_map, List.map_map]
  rfl

theorem rejections_onFields (rules : List (Rule α)) (fields : List (String × Option α)) :
    rejections (onFields rules fields) = fields.flatMap fun (field, x) => Finding.custom field rules x := by
  simp only [onFields, rejections_flatMap, rejections_onValue, Finding.custom]

theorem rejections_onLists (rules : TextRules) (fields : List (String × Option (List (Option String)))) :
    rejections (onLists rules fields) = fields.flatMap fun (field, xs) => Finding.customList field rules xs := by
  rw [onLists, rejections_flatMap]
  refine List.flatMap_congr fun (field, xs) _ => ?_
  cases xs with
  | none => rfl
  | some l =>
    simp only [Option.toList_some, List.flatMap_singleton, rejections_append, rejections_flatMap, rejections_onValue,
      Finding.customList]

/-! ### Further rules -/

variable {rules rules' : List (Rule α)}

theorem onValue_sublist (h : rules.Sublist rules') (field : String) (x : α) :
    (onValue field rules x).Sublist (onValue field rules' x) :=
  h.map _

theorem onFields_sublist (h : rules.Sublist rules') (fields : List (String × Option α)) :
    (onFields rules fields).Sublist (onFields rules' fields) :=
  List.Sublist.flatMap_right _ fun _ _ => List.Sublist.flatMap_right _ fun x _ => onValue_sublist h _ x

theorem onLists_sublist {rules rules' : TextRules} (heach : rules.each.Sublist rules'.each)
    (hlist : rules.list.Sublist rules'.list) (fields : List (String × Option (List (Option String)))) :
    (onLists rules fields).Sublist (onLists rules' fields) := by
  refine List.Sublist.flatMap_right _ fun _ _ => List.Sublist.flatMap_right _ fun l _ => ?_
  exact (List.Sublist.flatMap_right _ fun x _ => onValue_sublist heach _ x).append (onValue_sublist hlist _ (present l))

end Verdict

open Verdict

/-! ### Findings with rules and without -/

/-- The verdicts on a filter on values with an order; its lists are left alone. -/
def RangeFilter.verdicts {α : Type} (f : RangeFilter α) (rules : List (Rule α)) : List Verdict :=
  onFields rules [("eq", f.eq), ("neq", f.neq), ("gt", f.gt), ("gte", f.gte), ("lt", f.lt), ("lte", f.lte)]

/-- The verdicts on a filter on values that are told apart; its lists are left alone. -/
def ChoiceFilter.verdicts {α : Type} (f : ChoiceFilter α) (rules : List (Rule α)) : List Verdict :=
  onFields rules [("eq", f.eq), ("neq", f.neq)]

/-- The verdicts on a filter on bits. -/
def FlagsFilter.verdicts {α : Type} (f : FlagsFilter α) (rules : List (Rule α)) : List Verdict :=
  onFields rules [("has_flag", f.has), ("not_has_flag", f.hasNot)]

/-- The verdicts on a filter on text. -/
def TextFilter.verdicts (f : TextFilter) (rules : TextRules) : List Verdict :=
  onFields rules.each [("eq", f.eq), ("neq", f.neq), ("contains", f.contains), ("starts_with", f.startsWith),
    ("ends_with", f.endsWith)] ++
    onLists rules [("in", f.isIn), ("not_in", f.notIn)]

theorem Finding.custom_nil {α : Type} (field : String) (x : Option α) : Finding.custom field [] x = [] := by
  cases x <;> rfl

theorem Finding.customList_nil (field : String) (xs : Option (List (Option String))) :
    Finding.customList field {} xs = [] := by
  cases xs with
  | none => rfl
  | some l => simp [Finding.customList, Finding.broken]

theorem RangeFilter.findings_eq {α : Type} [PartialCompare α] (f : RangeFilter α) (rules : List (Rule α)) :
    f.findings rules = f.findings [] ++ rejections (f.verdicts rules) := by
  simp only [findings, verdicts, rejections_onFields, Finding.custom_nil, List.flatMap_cons, List.flatMap_nil,
    List.append_nil, List.append_assoc]

theorem ChoiceFilter.findings_eq {α : Type} [BEq α] (f : ChoiceFilter α) (rules : List (Rule α)) :
    f.findings rules = f.findings [] ++ rejections (f.verdicts rules) := by
  simp only [findings, verdicts, rejections_onFields, Finding.custom_nil, List.flatMap_cons, List.flatMap_nil,
    List.append_nil, List.append_assoc]

theorem TextFilter.findings_eq (f : TextFilter) (rules : TextRules) :
    f.findings rules = f.findings {} ++ rejections (f.verdicts rules) := by
  simp only [findings, verdicts, rejections_append, rejections_onFields, rejections_onLists, Finding.custom_nil,
    Finding.customList_nil, List.flatMap_cons, List.flatMap_nil, List.append_nil, List.append_assoc]

theorem RangeFilter.findings_sublist {α : Type} [PartialCompare α] {rules rules' : List (Rule α)}
    (h : rules.Sublist rules') (f : RangeFilter α) : (f.findings rules).Sublist (f.findings rules') := by
  rw [findings_eq f rules, findings_eq f rules']
  exact (List.Sublist.refl _).append (rejections_sublist (onFields_sublist h _))

theorem ChoiceFilter.findings_sublist {α : Type} [BEq α] {rules rules' : List (Rule α)}
    (h : rules.Sublist rules') (f : ChoiceFilter α) : (f.findings rules).Sublist (f.findings rules') := by
  rw [findings_eq f rules, findings_eq f rules']
  exact (List.Sublist.refl _).append (rejections_sublist (onFields_sublist h _))

theorem TextFilter.findings_sublist {rules rules' : TextRules} (heach : rules.each.Sublist rules'.each)
    (hlist : rules.list.Sublist rules'.list) (f : TextFilter) : (f.findings rules).Sublist (f.findings rules') := by
  rw [findings_eq f rules, findings_eq f rules']
  refine (List.Sublist.refl _).append (rejections_sublist ?_)
  exact (onFields_sublist heach _).append (onLists_sublist heach hlist _)

/-- The rejections of each flag come after what else is found on it. -/
theorem FlagsFilter.interleaved {α : Type} [FlagSet α] (f : FlagsFilter α) (rules : List (Rule α)) :
    Interleaved (f.findings []) (rejections (f.verdicts rules)) (f.findings rules) := by
  have hflag : ∀ field x, Interleaved (Finding.noBits field x) (Finding.custom field rules x)
      (Finding.noBits field x ++ Finding.custom field rules x) := fun field x => .one_after_other _ _
  have hall := ((hflag "has_flag" f.has).append (hflag "not_has_flag" f.hasNot)).append
    (.only_left (Finding.allExcluded f.has f.hasNot))
  simpa only [findings, verdicts, rejections_onFields, Finding.custom_nil, List.flatMap_cons, List.flatMap_nil,
    List.append_nil, List.append_assoc] using hall

theorem FlagsFilter.findings_sublist {α : Type} [FlagSet α] {rules rules' : List (Rule α)}
    (h : rules.Sublist rules') (f : FlagsFilter α) : (f.findings rules).Sublist (f.findings rules') := by
  have hflag : ∀ field x, (Finding.noBits field x ++ Finding.custom field rules x).Sublist
      (Finding.noBits field x ++ Finding.custom field rules' x) := by
    intro field x
    exact (List.Sublist.refl _).append (List.Sublist.flatMap_right _ fun _ _ => (h.filter _).map _)
  have hall := ((hflag "has_flag" f.has).append (hflag "not_has_flag" f.hasNot)).append
    (List.Sublist.refl (Finding.allExcluded f.has f.hasNot))
  simpa only [findings, List.append_assoc] using hall

namespace Submission

/-- The filter is checked against no rules.  The greatest length of a page is no rule. -/
def withoutRules : Submission → Submission
  | numeric t f _ => numeric t f []
  | date t f _ => date t f []
  | enum f _ => enum f []
  | flags f _ => flags f []
  | id f _ => id f []
  | text f _ => text f {}
  | s => s

/-- The verdicts of the rules: fields in order, for each value the rules in order. -/
def verdicts : Submission → List Verdict
  | numeric _ f rules => f.verdicts rules
  | date _ f rules => f.verdicts rules
  | enum f rules => f.toChoiceFilter.verdicts rules
  | flags f rules => f.verdicts rules
  | id f rules => ChoiceFilter.verdicts f rules
  | text f rules => f.verdicts rules
  | boolean _ | search _ | fullText _ | page _ _ => []

/-- The second has one rule more, after the others. -/
inductive AddsRule : Submission → Submission → Prop
  | numeric {t : NumericType} {f : RangeFilter t.Carrier} {rules : List (Rule t.Carrier)} (r : Rule t.Carrier) :
    AddsRule (numeric t f rules) (numeric t f (rules ++ [r]))
  | date {t : DateType} {f : RangeFilter t.Carrier} {rules : List (Rule t.Carrier)} (r : Rule t.Carrier) :
    AddsRule (date t f rules) (date t f (rules ++ [r]))
  | enum {α : Type} [Enumeration α] {f : EnumFilter α} {rules : List (Rule α)} (r : Rule α) :
    AddsRule (enum f rules) (enum f (rules ++ [r]))
  | flags {α : Type} [FlagSet α] {f : FlagsFilter α} {rules : List (Rule α)} (r : Rule α) :
    AddsRule (flags f rules) (flags f (rules ++ [r]))
  | id {f : IdFilter} {rules : List (Rule Uuid)} (r : Rule Uuid) : AddsRule (id f rules) (id f (rules ++ [r]))
  | each {f : TextFilter} {rules : TextRules} (r : Rule String) :
    AddsRule (text f rules) (text f { rules with each := rules.each ++ [r] })
  | list {f : TextFilter} {rules : TextRules} (r : Rule (List String)) :
    AddsRule (text f rules) (text f { rules with list := rules.list ++ [r] })

theorem interleaved (s : Submission) : Interleaved s.withoutRules.findings (rejections s.verdicts) s.findings := by
  cases s with
  | boolean | search | fullText | page => exact .only_left _
  | numeric t f rules | date t f rules =>
    rw [findings, RangeFilter.findings_eq]
    exact .one_after_other _ _
  | enum f rules =>
    rw [findings, ChoiceFilter.findings_eq]
    exact .one_after_other _ _
  | flags f rules => exact f.interleaved rules
  | id f rules =>
    rw [findings, ChoiceFilter.findings_eq]
    exact .one_after_other _ _
  | text f rules =>
    rw [findings, TextFilter.findings_eq]
    exact .one_after_other _ _

theorem AddsRule.findings_sublist {s s' : Submission} (h : s.AddsRule s') : s.findings.Sublist s'.findings := by
  cases h with
  | numeric r | date r => exact RangeFilter.findings_sublist (List.sublist_append_left _ [r]) _
  | enum r | id r => exact ChoiceFilter.findings_sublist (List.sublist_append_left _ [r]) _
  | flags r => exact FlagsFilter.findings_sublist (List.sublist_append_left _ [r]) _
  | @each f rules r =>
    have heach := List.sublist_append_left rules.each [r]
    exact @TextFilter.findings_sublist rules { rules with each := rules.each ++ [r] } heach (List.Sublist.refl _) f
  | @list f rules r =>
    have hlist := List.sublist_append_left rules.list [r]
    exact @TextFilter.findings_sublist rules { rules with list := rules.list ++ [r] } (List.Sublist.refl _) hlist f

/-- What checking finds is what it finds without rules, with one finding more for each rule and each value that the rule
looks at and rejects, in the order of the verdicts.  The two are the same if and only if no rule rejects.  One rule more
takes no finding away and leaves the order of the findings. -/
theorem rules_only_tighten (s : Submission) :
    Interleaved s.withoutRules.findings (rejections s.verdicts) s.findings ∧
      s.withoutRules.findings.Sublist s.findings ∧
      (s.findings = s.withoutRules.findings ↔ ∀ v ∈ s.verdicts, v.accepted = true) ∧
      ∀ s', s.AddsRule s' → s.findings.Sublist s'.findings := by
  refine ⟨s.interleaved, s.interleaved.sublist, ?_, fun _ h => h.findings_sublist⟩
  rw [s.interleaved.eq_left_iff, rejections_eq_nil]

/-- A rule for texts and then one for lists, on a text and a list with an empty list beside it. -/
theorem rules_only_tighten_lowercase :
    let lower : Rule String := ⟨"must be lowercase", fun s => Text.toLower s = s⟩
    let short : Rule (List String) := ⟨"at most two values", fun l => l.length ≤ 2⟩
    let f : TextFilter := { eq := some "Bob", isIn := listed ["a", "B", "c"], notIn := listed [] }
    (text f ⟨[lower], []⟩).AddsRule (text f ⟨[lower], [short]⟩) ∧
      (text f ⟨[lower], []⟩).findings.Sublist (text f ⟨[lower], [short]⟩).findings ∧
      (text f ⟨[lower], [short]⟩).findings = [⟨"not_in", "must not be empty"⟩, ⟨"eq", "must be lowercase"⟩,
        ⟨"in", "must be lowercase"⟩, ⟨"in", "at most two values"⟩] := by
  intro lower short f
  have hadds : (text f ⟨[lower], []⟩).AddsRule (text f ⟨[lower], [short]⟩) := .list short
  exact ⟨hadds, (rules_only_tighten _).2.2.2 _ hadds, by decide +kernel⟩

end Submission

end SqlFilter
