import Mathlib.Data.List.Forall2
import SqlFilter.Proofs.Binding
import SqlFilter.Proofs.ParamNames
import SqlFilter.Proofs.Requirements

/-!
# Lists of texts that are compared without case

A list that is bound has no text twice as its filter gives it.  In PostgreSQL the array that is bound for it has the
same texts, in lower case if the filter ignores case.  So it has a text in two places just when case is ignored and the
filter gives two different texts there that are the same in lower case
(`Query.bound_texts_repeat_only_without_case`).
-/

namespace SqlFilter

/-- The texts of an array of texts. -/
def Value.texts? : Value → Option (List String)
  | array .text xs => some xs
  | _ => none

/-- The arrays of texts among values under names, in order. -/
def textArrays (entries : List (String × Value)) : List (List String) := entries.filterMap fun e => e.2.texts?

/-- The array of texts that a test binds in PostgreSQL. -/
def Test.texts? : Test → Option (List String)
  | compare _ v | member _ v => v.texts?
  | memberText _ terms cs => some (terms.map (Dialect.fold cs))
  | compareText _ _ _ | pattern _ _ _ | flag _ _ | null _ => none

theorem Test.texts?_condition (t : Test) (sql name : String) :
    (t.condition .postgres sql name).param.bind (fun e => e.2.texts?) = t.texts? := by
  cases t with
  | memberText op terms cs => cases op <;> rfl
  | pattern shape term cs =>
    rw [condition, Dialect.param_pattern]
    rfl
  | compare | compareText | member | flag | null => rfl

theorem textArrays_of_names {sql : String} {tests : List Test} {added : List Condition}
    (h : List.Forall₂ (Test.Names .postgres sql) tests added) :
    textArrays (added.filterMap Condition.param) = tests.filterMap Test.texts? := by
  rw [textArrays, List.filterMap_filterMap]
  induction h with
  | nil => rfl
  | cons ht _ ih =>
    obtain ⟨name, rfl, -⟩ := ht
    rw [List.filterMap_cons, List.filterMap_cons, Test.texts?_condition, ih]

/-- The arrays that a filter on text binds: those of its two lists. -/
theorem TextFilter.texts_tests (f : TextFilter) :
    f.tests.filterMap Test.texts? =
      (f.isIn.toList ++ f.notIn.toList).map fun l => (present l).map (Dialect.fold f.caseSensitive) := by
  have hlist : ∀ op (xs : Option (List (Option String))),
      (xs.toList.map fun l => Test.memberText op (present l) f.caseSensitive).filterMap Test.texts? =
        xs.toList.map fun l => (present l).map (Dialect.fold f.caseSensitive) := by
    intro op xs
    cases xs <;> rfl
  simp only [tests, nullTests, List.filterMap_append, hlist, List.map_append]
  simp [Function.comp_def, Test.texts?]

/-- What is bound for a list of texts: an array of all of them, none of which is given twice, as they are given or in
lower case.  Two places of the array have the same text if and only if case is ignored and different texts are given
that are the same in lower case. -/
structure BoundFor (caseSensitive : Bool) (l : List (Option String)) (bound : List String) : Prop where
  all_present : (present l).map some = l
  distinct : (present l).Nodup
  bound_eq : bound = if caseSensitive then present l else (present l).map Text.toLower
  repeated : ∀ {i j : Nat} {a b : String}, (present l)[i]? = some a → (present l)[j]? = some b → i ≠ j →
    (bound[i]? = bound[j]? ↔ caseSensitive = false ∧ a ≠ b ∧ Text.toLower a = Text.toLower b)

theorem boundFor_of_proper {l : List (Option String)} (h : Proper Eq l) (caseSensitive : Bool) :
    BoundFor caseSensitive l ((present l).map (Dialect.fold caseSensitive)) where
  all_present := by
    refine map_some_present (List.any_eq_false.2 fun x hx hnone => h.no_null ?_)
    rwa [← Option.isNone_iff_eq_none.1 hnone]
  distinct := h.nodup_present
  bound_eq := by
    cases caseSensitive with
    | false => rfl
    | true => exact List.map_id _
  repeated := by
    intro i j a b ha hb hij
    have hne : a ≠ b := by
      rintro rfl
      exact hij ((List.getElem?_inj (List.getElem?_eq_some_iff.1 ha).1 h.nodup_present).1 (ha.trans hb.symm))
    rw [List.getElem?_map, List.getElem?_map, ha, hb]
    cases caseSensitive <;> simp [Dialect.fold, hne]

namespace Query

/-- In PostgreSQL a filter on text that is bound adds an array for each of its lists, in order, and no other.  The texts
of a list are all different as they are given, and a text is in two places of the array just when case is ignored and
different texts are the same in lower case. -/
theorem bound_texts_repeat_only_without_case {q : Query} (h : q.Reachable) (hd : q.dialect = .postgres)
    {column : String} {f : TextFilter} {rules : TextRules}
    (hok : ((Call.bindText column (some f) rules).perform q).1 = .ok ()) :
    ∃ added, ((Call.bindText column (some f) rules).perform q).2.params.entries = q.params.entries ++ added ∧
      List.Forall₂ (BoundFor f.caseSensitive) (f.isIn.toList ++ f.notIn.toList) (textArrays added) := by
  obtain ⟨c, hc⟩ : ∃ c, c = Call.bindText column (some f) rules := ⟨_, rfl⟩
  rw [← hc] at hok ⊢
  have hb : c.binding? = some ⟨.text, column, some (f.findings rules, .ok ⟨.text, .ok f.tests, f.sort⟩)⟩ := by
    rw [hc]
    rfl
  have houtcome : c.outcome q = .ok (c.perform q).2 := Call.perform_eq_ok.1 (Prod.ext hok rfl)
  rcases Call.cases_of_binding hb houtcome with ⟨hnone, -⟩ | ⟨d, sql, tests, hr, -, -, ht, -, hq⟩
  · cases hnone
  · obtain ⟨hfindings, hdemand⟩ := Prod.mk.inj (Option.some.inj hr)
    cases hdemand
    cases ht
    have hconditions : (c.perform q).2.conditions =
        q.conditions ++ (q.namer.conditions .postgres ⟨q.table, column⟩ sql f.tests).1 := by
      rw [hq, q.conditions_bound, hd]
    have hnames := q.namer.names_conditions .postgres ⟨q.table, column⟩ sql f.tests
    refine ⟨_, h.named.entries_append (h.step (.call c)).named hconditions, ?_⟩
    rw [textArrays_of_names hnames, f.texts_tests, List.forall₂_map_right_iff, List.forall₂_same]
    have hf := (f.findings_eq_nil rules).1 hfindings
    intro l hl
    refine boundFor_of_proper ?_ f.caseSensitive
    rcases List.mem_append.1 hl with hl | hl
    · exact hf.isIn l (Option.mem_toList.1 hl)
    · exact hf.notIn l (Option.mem_toList.1 hl)

/-- Case is ignored in two lists, one of which has a text and the same text in capital letters. -/
theorem bound_texts_repeat_only_without_case_cities :
    let q : Query := { table := "users", dialect := .postgres, settings := {} }
    let f : TextFilter := { isIn := listed ["Rome", "Oslo", "ROME"], notIn := listed ["Bari"] }
    let c : Call := .bindText "city" (some f) {}
    q.Reachable ∧ q.dialect = .postgres ∧ (c.perform q).1 = .ok () ∧
      ∃ added, (c.perform q).2.params.entries = q.params.entries ++ added ∧
        textArrays added = [["rome", "oslo", "rome"], ["bari"]] := by
  intro q f c
  have hnew : Query.new "users" .postgres = .ok q := rfl
  have hq : q.Reachable := .created (.new hnew)
  have hok : (c.perform q).1 = .ok () := by decide +kernel
  obtain ⟨added, hadded, harrays⟩ := bound_texts_repeat_only_without_case hq rfl hok
  refine ⟨hq, rfl, hok, added, hadded, ?_⟩
  have hlists : f.isIn.toList ++ f.notIn.toList = [["Rome", "Oslo", "ROME"].map some, ["Bari"].map some] := rfl
  rw [hlists] at harrays
  obtain ⟨isIn, _, hin, hrest, harrays⟩ := List.forall₂_cons_left_iff.1 harrays
  obtain ⟨notIn, _, hnot, hnil, rfl⟩ := List.forall₂_cons_left_iff.1 hrest
  rw [List.forall₂_nil_left_iff] at hnil
  rw [harrays, hnil, hin.bound_eq, hnot.bound_eq]
  decide +kernel

/-- A letter and its capital are told apart when a filter is checked, and both bound in lower case when it ignores case.
So an array of a filter that was bound can have a text twice. -/
theorem bound_texts_can_repeat :
    let q : Query := { table := "users", dialect := .postgres, settings := {} }
    let c : Call := .bindText "name" (some { isIn := listed ["a", "A"] }) {}
    q.Reachable ∧ q.dialect = .postgres ∧ (c.perform q).1 = .ok () ∧
      (c.perform q).2.params.entries = [("users_name_in_0", .array .text ["a", "a"])] ∧
      ¬ ∀ xs ∈ textArrays (c.perform q).2.params.entries, xs.Nodup := by
  intro q c
  have hnew : Query.new "users" .postgres = .ok q := rfl
  have hok : (c.perform q).1 = .ok () := by decide +kernel
  have hentries : (c.perform q).2.params.entries = [("users_name_in_0", .array .text ["a", "a"])] := by
    decide +kernel
  refine ⟨.created (.new hnew), rfl, hok, hentries, fun hall => ?_⟩
  rw [hentries] at hall
  exact absurd (hall ["a", "a"] (List.mem_singleton_self _)) (by decide)

end Query

end SqlFilter
