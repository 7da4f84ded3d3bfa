import Mathlib.Data.List.Forall2
import SqlFilter.Proofs.Fragment
import SqlFilter.Proofs.ParamBag
import SqlFilter.Proofs.Precedence

/-!
# Types of bound values

The type that a column is resolved with and the values that are bound for it are chosen in different places.  They
agree: every value that a call binds is of the type of its columns, an array if its condition tests a column against
a list and a single value if not (`Query.bound_values_have_resolved_type`).  So a path into a document that PostgreSQL
casts is compared with values of the very type of the cast.
-/

namespace SqlFilter

/-- A condition tests a column, or the column in lower case, against the list under a parameter. -/
def Condition.TestsList (d : Dialect) (sql name : String) (c : Condition) : Prop :=
  ∃ target ∈ [sql, "LOWER(" ++ sql ++ ")"], ∃ operator ∈ ["= ANY", "<> ALL", "IN ", "NOT IN "],
    c.sql = target ++ " " ++ operator ++ "(" ++ d.placeholder name ++ ")"

/-- A condition mentions columns, as they are resolved, and the parameter that it binds.  The value is of the type of
the columns: a list if the condition tests one of them against it, and a single value otherwise. -/
structure Condition.Typed (d : Dialect) (resolved : List String) (type : ValueType) (c : Condition) : Prop where
  columns : ∀ sql ∈ resolved, sql.toList <:+: c.sql.toList
  placeholder : ∀ name v, c.param = some (name, v) → (d.placeholder name).toList <:+: c.sql.toList
  type_eq : ∀ name v, c.param = some (name, v) → v.type = type
  isArray_iff : ∀ name v, c.param = some (name, v) → (v.isArray = true ↔ ∃ sql ∈ resolved, c.TestsList d sql name)

/-! ### Texts that test a list -/

/-- The characters of a parameter in the text of a condition; none of them closes a bracket or a literal. -/
private theorem mem_placeholder {d : Dialect} (hd : d ∈ Dialect.known) {name : String} (hn : IsParamName name) :
    ∀ c ∈ (d.placeholder name).toList, c ≠ ')' ∧ c ≠ '\'' := by
  have hsigil : d.sigil ≠ ')' ∧ d.sigil ≠ '\'' := by
    rcases Dialect.mem_known.1 hd with rfl | rfl | rfl | rfl <;> exact ⟨by decide, by decide⟩
  have hword : ∀ c, Text.isWordChar c = true → c ≠ ')' ∧ c ≠ '\'' := by
    intro c hc
    refine ⟨?_, ?_⟩ <;> rintro rfl <;> revert hc <;> decide
  intro c hc
  rw [Dialect.placeholder, String.toList_append, String.toList_singleton, List.singleton_append, List.mem_cons] at hc
  rcases hc with rfl | hc
  · exact hsigil
  · exact hword c (hn.2 c hc)

private theorem getLast?_placeholder (d : Dialect) (name : String) :
    ∃ c ∈ (d.placeholder name).toList, (d.placeholder name).toList.getLast? = some c := by
  have hne : (d.placeholder name).toList ≠ [] := by simp [Dialect.placeholder]
  exact ⟨_, List.getLast_mem hne, List.getLast?_eq_some_getLast hne⟩

variable {d : Dialect} {sql name : String} {c : Condition}

private theorem Condition.TestsList.exists_append (h : c.TestsList d sql name) :
    ∃ front, c.sql.toList = front ++ '(' :: ((d.placeholder name).toList ++ [')']) := by
  obtain ⟨target, -, operator, -, htext⟩ := h
  exact ⟨(target ++ " " ++ operator).toList, by simp [htext]⟩

/-- A text that ends otherwise than with a closing bracket tests no list. -/
private theorem not_testsList_of_getLast? {x : Char} (h : c.sql.toList.getLast? = some x) (hx : x ≠ ')') :
    ¬ c.TestsList d sql name := by
  intro ht
  obtain ⟨front, htext⟩ := ht.exists_append
  rw [htext, ← List.cons_append, ← List.append_assoc, List.getLast?_concat] at h
  exact hx (Option.some.inj h).symm

/-- A text with some other character in front of its last parameter tests no list. -/
private theorem not_testsList_of_append (front : List Char) {x : Char} (hx : x ≠ '(')
    (h : c.sql.toList = front ++ x :: ((d.placeholder name).toList ++ [')'])) : ¬ c.TestsList d sql name := by
  intro ht
  obtain ⟨front', htext⟩ := ht.exists_append
  rw [h, List.append_cons, List.append_cons front' '('] at htext
  have hfront := List.append_cancel_right htext
  have hlast := congrArg List.getLast? hfront
  rw [List.getLast?_concat, List.getLast?_concat] at hlast
  exact hx (Option.some.inj hlast)

/-- A text with a literal in front of its closing bracket tests no list. -/
private theorem not_testsList_of_literal (front : List Char) (hd : d ∈ Dialect.known) (hn : IsParamName name)
    (h : c.sql.toList = front ++ ['\'', ')']) : ¬ c.TestsList d sql name := by
  intro ht
  obtain ⟨front', htext⟩ := ht.exists_append
  rw [h, List.append_cons front '\'', ← List.cons_append, ← List.append_assoc] at htext
  have hlast := congrArg List.getLast? (List.append_cancel_right htext)
  obtain ⟨x, hx, hxlast⟩ := getLast?_placeholder d name
  rw [List.getLast?_concat, List.append_cons, List.getLast?_append, hxlast] at hlast
  exact (mem_placeholder hd hn x hx).2 (Option.some.inj hlast).symm

/-! ### Tests of values of a type -/

/-- A test asks about values of a type: for single values, or for a list of them. -/
def Test.Asks (type : ValueType) : Test → Prop
  | compare _ v => ∃ x, v = .scalar type x
  | member _ v => ∃ xs, v = .array type xs
  | compareText .. | memberText .. | pattern .. => type = .text
  | flag .. => type = .int64
  | null _ => True

section

variable {α : Type} (s : Storage α)

theorem asks_compareTests (op : Comparison) (x : Option α) : ∀ t ∈ compareTests s op x, t.Asks s.type := by
  intro t ht
  obtain ⟨x, -, rfl⟩ := List.mem_map.1 ht
  exact ⟨s.store x, rfl⟩

theorem asks_arrayTests (op : Membership) (xs : Option (List (Option α))) :
    ∀ t ∈ arrayTests s op xs, t.Asks s.type := by
  intro t ht
  obtain ⟨xs, -, rfl⟩ := List.mem_map.1 ht
  exact ⟨(present xs).map s.store, rfl⟩

theorem asks_nullTests (type : ValueType) (isNull : Option Bool) : ∀ t ∈ nullTests isNull, t.Asks type := by
  intro t ht
  obtain ⟨b, -, rfl⟩ := List.mem_map.1 ht
  trivial

theorem RangeFilter.asks_tests {f : RangeFilter α} {column : String} {tests : List Test}
    (h : f.tests s column = .ok tests) : ∀ t ∈ tests, t.Asks s.type := by
  rw [RangeFilter.tests_eq_ok h]
  simp only [List.forall_mem_append]
  exact ⟨⟨⟨⟨⟨⟨⟨⟨asks_compareTests s .eq _, asks_compareTests s .neq _⟩, asks_compareTests s .gt _⟩,
    asks_compareTests s .gte _⟩, asks_compareTests s .lt _⟩, asks_compareTests s .lte _⟩,
    asks_arrayTests s .isIn _⟩, asks_arrayTests s .notIn _⟩, asks_nullTests s.type _⟩

theorem EnumFilter.asks_tests [Enumeration α] {f : EnumFilter α} {column : String} {tests : List Test}
    (h : f.tests column = .ok tests) : ∀ t ∈ tests, t.Asks f.mode.type := by
  rw [EnumFilter.tests_eq_ok h, ← EnumMode.type_storage (α := α)]
  simp only [List.forall_mem_append]
  exact ⟨⟨⟨⟨asks_compareTests _ .eq _, asks_compareTests _ .neq _⟩, asks_arrayTests _ .isIn _⟩,
    asks_arrayTests _ .notIn _⟩, asks_nullTests _ _⟩

end

/-- The tests of a filter ask for values of the type that its column is resolved with. -/
theorem Call.asks_of_binding {c : Call} {b : Binding} {findings : List Finding} {d : Action.Demand} {tests : List Test}
    (hb : c.binding? = some b) (hr : b.request = some (findings, .ok d)) (ht : d.tests = .ok tests) :
    ∀ t ∈ tests, t.Asks d.type := by
  cases c with
  | selectAll | selectCount | selectColumns | search | searchFullText | paginate => cases hb
  | bindBoolean column f =>
    cases hb
    obtain ⟨f, rfl, hf⟩ := Option.map_eq_some_iff.1 hr
    cases hf
    cases ht
    simp only [BooleanFilter.tests, List.forall_mem_append]
    exact ⟨⟨asks_compareTests (.self .bool) .eq _, asks_compareTests (.self .bool) .neq _⟩, asks_nullTests .bool _⟩
  | bindNumeric t column f rules =>
    cases hb
    obtain ⟨f, rfl, hf⟩ := Option.map_eq_some_iff.1 hr
    cases hs : t.storage? with
    | none =>
      rw [hs] at hf
      cases hf
    | some s =>
      rw [hs] at hf
      cases hf
      exact RangeFilter.asks_tests s ht
  | bindDate t column f rules =>
    cases hb
    obtain ⟨f, rfl, hf⟩ := Option.map_eq_some_iff.1 hr
    cases hf
    exact RangeFilter.asks_tests t.storage ht
  | bindEnum column f rules =>
    cases hb
    obtain ⟨f, rfl, hf⟩ := Option.map_eq_some_iff.1 hr
    cases hf
    exact EnumFilter.asks_tests ht
  | bindFlags column f rules =>
    cases hb
    obtain ⟨f, rfl, hf⟩ := Option.map_eq_some_iff.1 hr
    cases hf
    cases ht
    simp only [FlagsFilter.tests, List.forall_mem_append]
    exact ⟨⟨by simp [Test.Asks], by simp [Test.Asks]⟩, asks_nullTests .int64 _⟩
  | bindId column f rules =>
    cases hb
    obtain ⟨f, rfl, hf⟩ := Option.map_eq_some_iff.1 hr
    cases hf
    cases ht
    simp only [IdFilter.tests, List.forall_mem_append]
    exact ⟨⟨⟨⟨asks_compareTests (.self .uuid) .eq _, asks_compareTests (.self .uuid) .neq _⟩,
      asks_arrayTests (.self .uuid) .isIn _⟩, asks_arrayTests (.self .uuid) .notIn _⟩, asks_nullTests .uuid _⟩
  | bindText column f rules =>
    cases hb
    obtain ⟨f, rfl, hf⟩ := Option.map_eq_some_iff.1 hr
    cases hf
    cases ht
    simp only [TextFilter.tests, List.forall_mem_append]
    refine ⟨⟨⟨⟨⟨⟨⟨?_, ?_⟩, ?_⟩, ?_⟩, ?_⟩, ?_⟩, ?_⟩, asks_nullTests .text _⟩
    all_goals simp [Test.Asks]

/-! ### Conditions that bind values of a type -/

variable {resolved : List String} {type : ValueType}

private theorem Condition.typed_of_scalar {x : type.Carrier} (hcolumns : ∀ sql ∈ resolved, sql.toList <:+: c.sql.toList)
    (hparam : c.param = some (name, .scalar type x)) (hplaceholder : (d.placeholder name).toList <:+: c.sql.toList)
    (hnot : ∀ sql ∈ resolved, ¬ c.TestsList d sql name) : c.Typed d resolved type := by
  refine ⟨hcolumns, ?_, ?_, ?_⟩
  · intro n v hv
    cases hparam.symm.trans hv
    exact hplaceholder
  · intro n v hv
    cases hparam.symm.trans hv
    rfl
  · intro n v hv
    cases hparam.symm.trans hv
    exact iff_of_false Bool.false_ne_true fun ⟨sql, hsql, htests⟩ => hnot sql hsql htests

private theorem Condition.typed_of_array {xs : List type.Carrier} (hcolumn : sql.toList <:+: c.sql.toList)
    (hparam : c.param = some (name, .array type xs)) (htests : c.TestsList d sql name) :
    c.Typed d [sql] type := by
  refine ⟨List.forall_mem_singleton.2 hcolumn, ?_, ?_, ?_⟩
  · intro n v hv
    cases hparam.symm.trans hv
    obtain ⟨front, hfront⟩ := htests.exists_append
    rw [hfront]
    exact ⟨front ++ ['('], [')'], by simp⟩
  · intro n v hv
    cases hparam.symm.trans hv
    rfl
  · intro n v hv
    cases hparam.symm.trans hv
    exact iff_of_true rfl ⟨sql, List.mem_singleton_self sql, htests⟩

/-- The column in lower case, or as it is. -/
private def targets (sql : String) : List String := [sql, "LOWER(" ++ sql ++ ")"]

private theorem infix_of_mem_targets {target : String} (h : target ∈ targets sql) :
    sql.toList <:+: target.toList := by
  simp only [targets, List.mem_cons, List.not_mem_nil, or_false] at h
  rcases h with rfl | rfl
  · exact List.infix_rfl
  · exact ⟨"LOWER(".toList, ")".toList, by simp⟩

private theorem mem_targets (sql : String) (cs : Bool) : (if cs then sql else Dialect.lowered sql) ∈ targets sql := by
  cases cs
  · exact List.mem_cons_of_mem _ (List.mem_singleton_self _)
  · exact List.mem_cons_self

private theorem typed_comparison (hd : d ∈ Dialect.known) (hn : IsParamName name) (op : Comparison) {target : String}
    (htarget : target ∈ targets sql) (x : type.Carrier) :
    (d.comparison op target name (.scalar type x)).Typed d [sql] type := by
  obtain ⟨-, hplaceholder⟩ := @Test.infix_placeholder d target name name (.compare op (.scalar type x)) _ rfl
  refine Condition.typed_of_scalar (List.forall_mem_singleton.2 ?_) rfl hplaceholder (List.forall_mem_singleton.2 ?_)
  · refine (infix_of_mem_targets htarget).trans ?_
    simp only [Dialect.comparison, String.append_assoc, String.toList_append]
    exact List.infix_append_left
  · obtain ⟨x, hx, hlast⟩ := getLast?_placeholder d name
    refine not_testsList_of_getLast? ?_ (mem_placeholder hd hn x hx).1
    rw [Dialect.comparison, String.toList_append, List.getLast?_append, hlast]
    rfl

private theorem typed_membership (op : Membership) {target : String} (htarget : target ∈ targets sql)
    (xs : List type.Carrier) : (d.membership op target name (.array type xs)).Typed d [sql] type := by
  refine Condition.typed_of_array ?_ rfl ⟨target, htarget, ?_⟩
  · refine (infix_of_mem_targets htarget).trans ?_
    cases hl : d.lists <;> cases op
    all_goals
      simp only [Dialect.membership, hl, String.append_assoc, String.toList_append]
      exact List.infix_append_left
  · have hmem : ∀ operator : String, operator ∈ ["= ANY", "<> ALL", "IN ", "NOT IN "] →
        (d.membership op target name (.array type xs)).sql =
          target ++ " " ++ operator ++ "(" ++ d.placeholder name ++ ")" →
        ∃ operator ∈ ["= ANY", "<> ALL", "IN ", "NOT IN "], (d.membership op target name (.array type xs)).sql =
          target ++ " " ++ operator ++ "(" ++ d.placeholder name ++ ")" := fun o ho h => ⟨o, ho, h⟩
    cases hl : d.lists <;> cases op
    · exact hmem "= ANY" (by simp) (String.toList_inj.1 (by simp [Dialect.membership, hl]))
    · exact hmem "<> ALL" (by simp) (String.toList_inj.1 (by simp [Dialect.membership, hl]))
    · exact hmem "IN " (by simp) (String.toList_inj.1 (by simp [Dialect.membership, hl]))
    · exact hmem "NOT IN " (by simp) (String.toList_inj.1 (by simp [Dialect.membership, hl]))

/-- A pattern is matched with the parameter after a blank, or before the character that escapes. -/
private theorem like_ends (d : Dialect) (column name : String) (cs : Bool) :
    (∃ front, (d.like column name cs).toList = front ++ ' ' :: (d.placeholder name).toList) ∨
      ∃ front, (d.like column name cs).toList = front ++ ['\''] := by
  unfold Dialect.like
  cases d.patterns with
  | ilike =>
    left
    cases cs
    · exact ⟨(column ++ " ILIKE").toList, by simp⟩
    · exact ⟨(column ++ " LIKE").toList, by simp⟩
  | lowered =>
    right
    exact ⟨((if cs then column else Dialect.lowered column) ++ " LIKE " ++ d.placeholder name ++ " ESCAPE '\\").toList,
      by simp⟩

private theorem infix_like (d : Dialect) (column name : String) (cs : Bool) :
    column.toList <:+: (d.like column name cs).toList := by
  unfold Dialect.like
  cases d.patterns with
  | ilike =>
    simp only [String.append_assoc, String.toList_append]
    exact List.infix_append_left
  | lowered =>
    refine (infix_of_mem_targets (mem_targets column cs)).trans ?_
    simp only [String.append_assoc, String.toList_append]
    exact List.infix_append_left

private theorem typed_pattern (hd : d ∈ Dialect.known) (hn : IsParamName name) (shape : Shape) (term : String)
    (cs : Bool) : (d.pattern shape sql name term cs).Typed d [sql] .text := by
  rw [Dialect.pattern_eq]
  refine Condition.typed_of_scalar (List.forall_mem_singleton.2 (infix_like d sql name cs)) rfl
    (d.infix_placeholder_like sql name cs) (List.forall_mem_singleton.2 ?_)
  rcases like_ends d sql name cs with ⟨front, hfront⟩ | ⟨front, hfront⟩
  · obtain ⟨x, hx, hlast⟩ := getLast?_placeholder d name
    refine not_testsList_of_getLast? ?_ (mem_placeholder hd hn x hx).1
    rw [hfront, List.append_cons, List.getLast?_append, hlast]
    rfl
  · refine not_testsList_of_getLast? (x := '\'') ?_ (by decide)
    rw [hfront, List.getLast?_concat]

private theorem typed_flag (test : FlagTest) (bits : Int64) : (d.flag test sql name bits).Typed d [sql] .int64 := by
  obtain ⟨-, hplaceholder⟩ := @Test.infix_placeholder d sql name name (.flag test bits) _ rfl
  refine Condition.typed_of_scalar (List.forall_mem_singleton.2 ?_) rfl hplaceholder (List.forall_mem_singleton.2 ?_)
  · cases test with
    | has => exact ⟨['('], (" & " ++ d.placeholder name ++ ") <> 0").toList, by simp [Dialect.flag]⟩
    | hasNot => exact ⟨['('], (" & " ++ d.placeholder name ++ ") = 0").toList, by simp [Dialect.flag]⟩
  · refine not_testsList_of_getLast? (x := '0') ?_ (by decide)
    simp only [Dialect.flag, String.toList_append, List.getLast?_append]
    rfl

private theorem typed_nullCheck (isNull : Bool) : (Dialect.nullCheck sql isNull).Typed d [sql] type := by
  refine ⟨List.forall_mem_singleton.2 ?_, fun _ _ h => (nomatch h), fun _ _ h => (nomatch h),
    fun _ _ h => (nomatch h)⟩
  rw [Dialect.nullCheck, String.toList_append]
  exact List.infix_append_left

theorem Test.typed_condition (hd : d ∈ Dialect.known) {t : Test} (ht : t.Asks type)
    (hn : t.tag?.isSome → IsParamName name) : (t.condition d sql name).Typed d [sql] type := by
  cases t with
  | compare op v =>
    obtain ⟨x, rfl⟩ := ht
    exact typed_comparison hd (hn rfl) op List.mem_cons_self x
  | compareText op term cs =>
    cases ht
    exact typed_comparison hd (hn rfl) op (mem_targets sql cs) _
  | member op v =>
    obtain ⟨xs, rfl⟩ := ht
    exact typed_membership op List.mem_cons_self xs
  | memberText op terms cs =>
    cases ht
    unfold condition Dialect.textMembership
    cases d.lists with
    | enclosed => exact typed_membership op List.mem_cons_self (show List (ValueType.Carrier .text) from terms)
    | quantified =>
      exact typed_membership op (mem_targets sql cs)
        (show List (ValueType.Carrier .text) from terms.map (Dialect.fold cs))
  | pattern shape term cs =>
    cases ht
    exact typed_pattern hd (hn rfl) shape term cs
  | flag test bits =>
    cases ht
    exact typed_flag test bits
  | null isNull => exact typed_nullCheck isNull

/-! ### Searches -/

private theorem infix_intercalate_of_mem (sep : String) {s : String} {l : List String} (h : s ∈ l) :
    s.toList <:+: (sep.intercalate l).toList := by
  induction l with
  | nil => cases h
  | cons t l ih =>
    cases l with
    | nil =>
      rw [List.mem_singleton.1 h]
      exact ⟨[], [], by simp⟩
    | cons u l =>
      rw [String.intercalate_cons_cons, String.append_assoc, String.toList_append]
      rcases List.mem_cons.1 h with rfl | h
      · exact List.infix_append_left
      · refine (ih h).trans ?_
        rw [String.toList_append]
        exact List.infix_append_right.trans List.infix_append_right

/-- A list of texts ends with one of them. -/
private theorem intercalate_ends (sep : String) {l : List String} (h : l ≠ []) :
    ∃ front, ∃ s ∈ l, (sep.intercalate l).toList = front ++ s.toList := by
  induction l with
  | nil => exact absurd rfl h
  | cons t l ih =>
    cases l with
    | nil => exact ⟨[], t, List.mem_cons_self, by simp⟩
    | cons u l =>
      obtain ⟨front, s, hs, htext⟩ := ih (List.cons_ne_nil u l)
      refine ⟨(t ++ sep).toList ++ front, s, List.mem_cons_of_mem t hs, ?_⟩
      rw [String.intercalate_cons_cons, String.toList_append, htext, List.append_assoc]

private theorem typed_freeText (hd : d ∈ Dialect.known) (hn : IsParamName name) (hne : resolved ≠ []) (term : String)
    (cs : Bool) : (d.freeText resolved name term cs).Typed d resolved .text := by
  have htext : (d.freeText resolved name term cs).sql.toList =
      '(' :: ((" OR ".intercalate (resolved.map fun c => d.like c name cs)).toList ++ [')']) := by
    simp [Dialect.freeText_eq]
  have hlike : ∀ sql ∈ resolved, (d.like sql name cs).toList <:+: (d.freeText resolved name term cs).sql.toList := by
    intro sql hsql
    have hmem : d.like sql name cs ∈ resolved.map fun c => d.like c name cs := List.mem_map_of_mem hsql
    rw [htext]
    exact (infix_intercalate_of_mem " OR " hmem).trans ⟨['('], [')'], by simp⟩
  obtain ⟨column, hcolumn⟩ := List.exists_mem_of_ne_nil resolved hne
  refine Condition.typed_of_scalar (fun sql hsql => (infix_like d sql name cs).trans (hlike sql hsql))
    (d.param_freeText ..) ((d.infix_placeholder_like column name cs).trans (hlike column hcolumn)) fun sql _ => ?_
  · -- the bracket that closes the search comes after a parameter too, but another character stands before that
    obtain ⟨front, s, hs, hend⟩ := intercalate_ends " OR " (l := resolved.map fun c => d.like c name cs) (by simpa)
    obtain ⟨column, -, rfl⟩ := List.mem_map.1 hs
    rw [hend] at htext
    rcases like_ends d column name cs with ⟨front', hlike⟩ | ⟨front', hlike⟩
    · refine not_testsList_of_append (x := ' ') ('(' :: (front ++ front')) (by decide) ?_
      rw [htext, hlike]
      simp
    · refine not_testsList_of_literal ('(' :: (front ++ front')) hd hn ?_
      rw [htext, hlike]
      simp

private theorem typed_fullTextSearch {config term : String} {form : TermSyntax}
    (h : d.fullTextSearch resolved config form name term = .ok c) : c.Typed d resolved .text := by
  unfold Dialect.fullTextSearch at h
  split at h
  · obtain ⟨content, hcontent⟩ : ∃ content, content = " || ' ' || ".intercalate
        (resolved.map fun c => "COALESCE(" ++ c ++ ", '')") := ⟨_, rfl⟩
    rw [← hcontent] at h
    cases h
    refine Condition.typed_of_scalar (x := term) (fun sql hsql => ?_) rfl ?_ fun sql _ => ?_
    · have hcoalesce : sql.toList <:+: ("COALESCE(" ++ sql ++ ", '')").toList :=
        ⟨"COALESCE(".toList, ", '')".toList, by simp⟩
      have hmem : "COALESCE(" ++ sql ++ ", '')" ∈ resolved.map fun c => "COALESCE(" ++ c ++ ", '')" :=
        List.mem_map_of_mem hsql
      refine hcoalesce.trans ((infix_intercalate_of_mem " || ' ' || " hmem).trans ?_)
      rw [← hcontent]
      exact ⟨("to_tsvector('" ++ config ++ "', ").toList,
        (") @@ " ++ Dialect.termParser form ++ "('" ++ config ++ "', " ++ d.placeholder name ++ ")").toList, by simp⟩
    · rw [String.toList_append, String.toList_append]
      exact List.infix_append _ _ _
    · refine not_testsList_of_append (x := ' ') (("to_tsvector('" ++ config ++ "', " ++ content ++ ") @@ " ++
        Dialect.termParser form ++ "('" ++ config ++ "',").toList) (by decide) ?_
      simp
  · cases h

/-! ### Casts of PostgreSQL -/

/-- PostgreSQL has a name of its own for every type. -/
theorem ValueType.postgresName_inj {t u : ValueType} (h : t.postgresName = u.postgresName) : t = u := by
  cases t <;> cases u <;> first | rfl | exact absurd h (by decide)

theorem resolve_postgres_path {column : Column} (h : column.hasPath = true) (type : ValueType) :
    Dialect.postgres.resolve column type = .ok ("(" ++ column.qualified ++ ")::" ++ type.postgresName) := by
  rw [Dialect.resolve, if_pos h]
  rfl

/-! ### Conditions of calls -/

/-- Tests that ask for values of a type are written as conditions that bind such values. -/
private theorem typed_of_names (hd : d ∈ Dialect.known) {tests : List Test} {added : List Condition}
    (h : List.Forall₂ (Test.Names d sql) tests added) (ht : ∀ t ∈ tests, t.Asks type) :
    ∀ x ∈ added, x.Typed d [sql] type := by
  induction h with
  | nil => exact fun x hx => nomatch hx
  | cons hx _ ih =>
    obtain ⟨name, rfl, hname⟩ := hx
    obtain ⟨ht, hts⟩ := List.forall_mem_cons.1 ht
    exact List.forall_mem_cons.2 ⟨Test.typed_condition hd ht hname, ih hts⟩

namespace Query

variable {q q' : Query}

/-- A call that puts a filter to columns adds conditions that bind values of the type of the columns. -/
private theorem exists_typed_of_outcome (h : q.Reachable) {c : Call} {r : Request} {o : Offer}
    (hr : c.request? = some r) (ho : r.offer = some o) (hok : c.outcome q = .ok q') :
    ∃ type resolved added, o.type = .ok type ∧
      r.columns.mapM (fun x => q.dialect.resolve ⟨q.table, x⟩ type) = .ok resolved ∧
      q'.conditions = q.conditions ++ added ∧ ∀ x ∈ added, x.Typed q.dialect resolved type := by
  have hd : q.dialect ∈ Dialect.known := h.wellFormed.dialect
  cases hb : c.binding? with
  | some b =>
    obtain ⟨r', hr', -, hcolumns, hrel⟩ := Call.request?_of_binding hb
    cases hr.symm.trans hr'
    rw [ho] at hrel
    rcases Call.cases_of_binding hb hok with ⟨hnone, -⟩ | ⟨d, sql, tests, hrequest, -, hsql, ht, -, rfl⟩
    · rw [hnone] at hrel
      cases hrel
    · rw [hrequest] at hrel
      cases hrel with
      | some hmeets =>
        refine ⟨d.type, [sql], (q.namer.conditions q.dialect ⟨q.table, b.column⟩ sql tests).1, hmeets.of_ok.1,
          ?_, ?_, typed_of_names hd (Namer.names_conditions ..) (Call.asks_of_binding hb hrequest ht)⟩
        · rw [hcolumns, List.mapM_cons, hsql]
          rfl
        · exact q.conditions_bound ..
  | none =>
    cases c with
    | bindBoolean | bindNumeric | bindDate | bindEnum | bindFlags | bindId | bindText => cases hb
    | selectAll | selectCount | selectColumns | paginate => cases hr
    | search columns f =>
      cases hr
      obtain ⟨f, rfl, ho⟩ := Option.map_eq_some_iff.1 ho
      cases ho
      rcases cases_of_search hok with ⟨hnone, -⟩ | ⟨g, resolved, hg, ⟨hne, -⟩, hresolved, rfl⟩
      · cases hnone
      · have hresolved_ne : resolved ≠ [] := by
          rintro rfl
          exact hne (List.eq_nil_of_length_eq_zero (mapM_eq_ok hresolved).1.symm)
        refine ⟨.text, resolved, [_], rfl, hresolved, rfl, List.forall_mem_singleton.2 ?_⟩
        exact typed_freeText hd (isParamName_search _) hresolved_ne g.term g.caseSensitive
    | searchFullText columns f =>
      cases hr
      obtain ⟨f, rfl, ho⟩ := Option.map_eq_some_iff.1 ho
      cases ho
      rcases cases_of_searchFullText hok with ⟨hnone, -⟩ | ⟨g, resolved, x, hg, -, -, hresolved, hx, rfl⟩
      · cases hnone
      · exact ⟨.text, resolved, [x], rfl, hresolved, rfl, List.forall_mem_singleton.2 (typed_fullTextSearch hx)⟩

/-- What a successful call that requests something binds is of the type that its columns are resolved with.  Every
parameter that it adds is that of a condition on these columns: an array if the condition tests one of them against a
list, and a single value otherwise.  The type of the values is the only one that PostgreSQL casts to as it casts a path
of the columns.  An absent filter binds nothing. -/
theorem bound_values_have_resolved_type (h : q.Reachable) {c : Call} {r : Request} (hr : c.request? = some r)
    (hok : (c.perform q).1 = .ok ()) :
    (r.offer = none → (c.perform q).2.params.entries = q.params.entries) ∧
    ∀ o ∈ r.offer, ∃ type resolved added, o.type = .ok type ∧
      r.columns.mapM (fun x => q.dialect.resolve ⟨q.table, x⟩ type) = .ok resolved ∧
      (c.perform q).2.conditions = q.conditions ++ added ∧
      (c.perform q).2.params.entries = q.params.entries ++ added.filterMap Condition.param ∧
      (∀ x ∈ added, x.Typed q.dialect resolved type) ∧
      (q.dialect = .postgres → ∀ x ∈ r.columns, (⟨q.table, x⟩ : Column).hasPath = true →
        ∃ target, "(" ++ (q.table ++ "." ++ x) ++ ")::" ++ target ∈ resolved ∧
          ∀ t, q.dialect.castType t = some target ↔ t = type) := by
  have hafter : (c.perform q).2.Reachable := h.step (.call c)
  rw [Call.perform_eq] at hok hafter ⊢
  cases houtcome : c.outcome q with
  | error e =>
    rw [houtcome] at hok
    cases hok
  | ok q' =>
    rw [houtcome] at hafter
    refine ⟨fun ho => ?_, fun o ho => ?_⟩
    · rw [outcome_of_absent hr ho] at houtcome
      split at houtcome <;> cases houtcome
      rfl
    · obtain ⟨type, resolved, added, htype, hresolved, hconditions, htyped⟩ := exists_typed_of_outcome h hr ho houtcome
      have hentries : q'.params.entries = q.params.entries ++ added.filterMap Condition.param :=
        h.named.entries_append hafter.named hconditions
      refine ⟨type, resolved, added, htype, hresolved, hconditions, hentries, htyped, fun hd x hx hpath => ?_⟩
      obtain ⟨sql, hsql, hresolve⟩ := exists_mem_of_mapM hresolved hx
      rw [hd, resolve_postgres_path hpath type] at hresolve
      cases hresolve
      refine ⟨type.postgresName, hsql, fun t => ?_⟩
      rw [hd]
      exact Option.some_inj.trans ⟨ValueType.postgresName_inj, fun ht => by rw [ht]⟩

/-- Members of an enumeration that a document has by number, written as text. -/
theorem bound_values_have_resolved_type_kinds :
    let q : Query := { table := "users", dialect := .postgres, settings := {} }
    let f : EnumFilter Member := {
      neq := some ⟨"Guest", 3⟩, isIn := some [some ⟨"Admin", 1⟩, some ⟨"Staff", 2⟩], mode := .byValueAsText }
    let c : Call := .bindEnum "meta->>'kind'" (some f) []
    q.Reachable ∧ (∃ r, c.request? = some r ∧ r.offer.isSome) ∧ (c.perform q).1 = .ok () ∧
      ∃ added, (c.perform q).2.conditions = q.conditions ++ added ∧
        (c.perform q).2.params.entries = q.params.entries ++ added.filterMap Condition.param ∧
        ∀ x ∈ added, x.Typed .postgres ["(users.meta->>'kind')::text"] .text := by
  intro q f c
  have hnew : Query.new "users" .postgres = .ok q := rfl
  have hq : q.Reachable := .created (.new hnew)
  have hok : (c.perform q).1 = .ok () := by decide +kernel
  obtain ⟨type, resolved, added, htype, hresolved, hconditions, hentries, htyped, -⟩ :=
    (bound_values_have_resolved_type hq (c := c) rfl hok).2 _ rfl
  cases htype
  have hcolumn : ["meta->>'kind'"].mapM (fun x => q.dialect.resolve ⟨q.table, x⟩ .text) =
      .ok ["(users.meta->>'kind')::text"] := by decide +kernel
  cases hcolumn.symm.trans hresolved
  exact ⟨hq, ⟨_, rfl, rfl⟩, hok, added, hconditions, hentries, htyped⟩

end Query

end SqlFilter
