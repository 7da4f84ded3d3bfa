import Mathlib.Data.List.Forall2
import SqlFilter.Proofs.Matching
import SqlFilter.Proofs.Reachable
import SqlFilter.Query.Render

/-!
# Values never reach the text

Filters are alike if they set the same fields and differ in values only, calls if they give alike filters to the same
columns.  What can be seen of a query without its values is kept by alike calls: each change of a query is a congruence
for `Query.Alike`, one lemma for each.  So two runs of alike calls lead to statements with the same text, the same names
of parameters, and values of the same types (`Query.values_never_influence_sql`).
-/

namespace SqlFilter

/-! ### Filters that differ in values only -/

/-- The filters set the same fields and differ in values only. -/
structure BooleanFilter.Alike (f g : BooleanFilter) : Prop where
  eq : f.eq.isSome = g.eq.isSome
  neq : f.neq.isSome = g.neq.isSome
  isNull : f.isNull = g.isNull
  sort : f.sort = g.sort

/-- The filters set the same fields and differ in values and in the lengths of lists only. -/
structure RangeFilter.Alike {α : Type} (f g : RangeFilter α) : Prop where
  eq : f.eq.isSome = g.eq.isSome
  neq : f.neq.isSome = g.neq.isSome
  gt : f.gt.isSome = g.gt.isSome
  gte : f.gte.isSome = g.gte.isSome
  lt : f.lt.isSome = g.lt.isSome
  lte : f.lte.isSome = g.lte.isSome
  isIn : f.isIn.isSome = g.isIn.isSome
  notIn : f.notIn.isSome = g.notIn.isSome
  isNull : f.isNull = g.isNull
  sort : f.sort = g.sort

/-- The filters set the same fields and differ in values and in the lengths of lists only. -/
structure ChoiceFilter.Alike {α β : Type} (f : ChoiceFilter α) (g : ChoiceFilter β) : Prop where
  eq : f.eq.isSome = g.eq.isSome
  neq : f.neq.isSome = g.neq.isSome
  isIn : f.isIn.isSome = g.isIn.isSome
  notIn : f.notIn.isSome = g.notIn.isSome
  isNull : f.isNull = g.isNull
  sort : f.sort = g.sort

/-- The filters are alike and store the members in the same way.  The members may be of two enumerations. -/
structure EnumFilter.Alike {α β : Type} (f : EnumFilter α) (g : EnumFilter β) : Prop where
  choice : f.toChoiceFilter.Alike g.toChoiceFilter
  mode : f.mode = g.mode

/-- The filters set the same fields and differ in values only, which may be of two types. -/
structure FlagsFilter.Alike {α β : Type} (f : FlagsFilter α) (g : FlagsFilter β) : Prop where
  has : f.has.isSome = g.has.isSome
  hasNot : f.hasNot.isSome = g.hasNot.isSome
  isNull : f.isNull = g.isNull
  sort : f.sort = g.sort

/-- The filters set the same fields and differ in values and in the lengths of lists only. -/
structure TextFilter.Alike (f g : TextFilter) : Prop where
  eq : f.eq.isSome = g.eq.isSome
  neq : f.neq.isSome = g.neq.isSome
  contains : f.contains.isSome = g.contains.isSome
  startsWith : f.startsWith.isSome = g.startsWith.isSome
  endsWith : f.endsWith.isSome = g.endsWith.isSome
  isIn : f.isIn.isSome = g.isIn.isSome
  notIn : f.notIn.isSome = g.notIn.isSome
  isNull : f.isNull = g.isNull
  caseSensitive : f.caseSensitive = g.caseSensitive
  sort : f.sort = g.sort

/-- The searches differ in the term only. -/
def SearchFilter.Alike (f g : SearchFilter) : Prop := f.caseSensitive = g.caseSensitive

/-- The searches differ in the term only. -/
structure FullTextFilter.Alike (f g : FullTextFilter) : Prop where
  config : f.config = g.config
  form : f.form = g.form

/-- The calls give alike filters to the same columns.  Rules and limits on pages may differ: they say which values are
accepted. -/
inductive Call.Alike : Call → Call → Prop
  | selectAll : Alike selectAll selectAll
  | selectCount : Alike selectCount selectCount
  | selectColumns (items : List SelectItem) : Alike (selectColumns items) (selectColumns items)
  | bindBoolean (column : String) {f g : Option BooleanFilter} : Option.Rel BooleanFilter.Alike f g →
    Alike (bindBoolean column f) (bindBoolean column g)
  | bindNumeric (t : NumericType) (column : String) {f g : Option (RangeFilter t.Carrier)}
    (rules rules' : List (Rule t.Carrier)) : Option.Rel RangeFilter.Alike f g →
    Alike (bindNumeric t column f rules) (bindNumeric t column g rules')
  | bindDate (t : DateType) (column : String) {f g : Option (RangeFilter t.Carrier)}
    (rules rules' : List (Rule t.Carrier)) : Option.Rel RangeFilter.Alike f g →
    Alike (bindDate t column f rules) (bindDate t column g rules')
  | bindEnum {α β : Type} [Enumeration α] [Enumeration β] (column : String) {f : Option (EnumFilter α)}
    {g : Option (EnumFilter β)} (rules : List (Rule α)) (rules' : List (Rule β)) :
    Option.Rel EnumFilter.Alike f g → Alike (bindEnum column f rules) (bindEnum column g rules')
  | bindFlags {α β : Type} [FlagSet α] [FlagSet β] (column : String) {f : Option (FlagsFilter α)}
    {g : Option (FlagsFilter β)} (rules : List (Rule α)) (rules' : List (Rule β)) :
    Option.Rel FlagsFilter.Alike f g → Alike (bindFlags column f rules) (bindFlags column g rules')
  | bindId (column : String) {f g : Option IdFilter} (rules rules' : List (Rule Uuid)) :
    Option.Rel ChoiceFilter.Alike f g → Alike (bindId column f rules) (bindId column g rules')
  | bindText (column : String) {f g : Option TextFilter} (rules rules' : TextRules) :
    Option.Rel TextFilter.Alike f g → Alike (bindText column f rules) (bindText column g rules')
  | search (columns : List String) {f g : Option SearchFilter} : Option.Rel SearchFilter.Alike f g →
    Alike (search columns f) (search columns g)
  | searchFullText (columns : List String) {f g : Option FullTextFilter} : Option.Rel FullTextFilter.Alike f g →
    Alike (searchFullText columns f) (searchFullText columns g)
  | paginate {f g : Option PageFilter} (maxLimit maxLimit' : Option Int64) : f.isSome = g.isSome →
    Alike (paginate f maxLimit) (paginate g maxLimit')

/-- The steps are alike calls, or the same step that is no call. -/
inductive Step.Alike : Step → Step → Prop
  | call {c d : Call} : c.Alike d → Alike (call c) (call d)
  | copy : Alike copy copy
  | count : Alike count count

/-! ### What can be seen without values -/

/-- The type of a value, and whether it is an array. -/
def Value.outline (v : Value) : ValueType × Bool := (v.type, v.isArray)

/-- A condition with the outline of its value. -/
def Condition.outline (c : Condition) : String × Option (String × ValueType × Bool) :=
  (c.sql, c.param.map fun p => (p.1, p.2.outline))

/-- The names of a bag, in order, with the outlines of their values. -/
def Params.outline (p : Params) : List (String × ValueType × Bool) := p.entries.map fun e => (e.1, e.2.outline)

/-- The text of a statement and the outline of its parameters. -/
def Statement.outline (st : Statement) : String × List (String × ValueType × Bool) := (st.sql, st.params.outline)

/-- The tests ask the same of values that may differ. -/
inductive Test.Alike : Test → Test → Prop
  | compare (op : Comparison) {v w : Value} : v.outline = w.outline → Alike (compare op v) (compare op w)
  | compareText (op : Comparison) (s t : String) (caseSensitive : Bool) :
    Alike (compareText op s caseSensitive) (compareText op t caseSensitive)
  | member (op : Membership) {v w : Value} : v.outline = w.outline → Alike (member op v) (member op w)
  | memberText (op : Membership) (s t : List String) (caseSensitive : Bool) :
    Alike (memberText op s caseSensitive) (memberText op t caseSensitive)
  | pattern (shape : Shape) (s t : String) (caseSensitive : Bool) :
    Alike (pattern shape s caseSensitive) (pattern shape t caseSensitive)
  | flag (test : FlagTest) (a b : Int64) : Alike (flag test a) (flag test b)
  | null (isNull : Bool) : Alike (null isNull) (null isNull)

/-- The queries differ in the values of parameters and the numbers of the page only. -/
structure Query.Alike (q p : Query) : Prop where
  table : q.table = p.table
  dialect : q.dialect = p.dialect
  settings : q.settings = p.settings
  selection : q.selection = p.selection
  conditions : q.conditions.map Condition.outline = p.conditions.map Condition.outline
  params : q.params.outline = p.params.outline
  sorts : q.sorts = p.sorts
  namer : q.namer = p.namer
  searches : q.searches = p.searches
  fullTextSearches : q.fullTextSearches = p.fullTextSearches
  paging : q.paging.isSome = p.paging.isSome

/-! ### Alike filters ask alike tests -/

section

variable {α β : Type} {s : Storage α} {s' : Storage β} {column : String} {ts us : List Test}

theorem Test.Alike.tag_eq {t u : Test} (h : t.Alike u) : t.tag? = u.tag? := by
  cases h <;> rfl

/-- All patterns are single texts. -/
theorem outline_patternOf (shape : Shape) (term : String) (caseSensitive : Bool) :
    (Dialect.patternOf shape term caseSensitive).outline = (.text, false) := rfl

theorem Test.Alike.outline_condition {t u : Test} (h : t.Alike u) (d : Dialect) (sql name : String) :
    (t.condition d sql name).outline = (u.condition d sql name).outline := by
  cases h with
  | compare op hv => simp only [Test.condition, Dialect.comparison, Condition.outline, Option.map_some, hv]
  | member op hv => simp only [Test.condition, Dialect.membership, Condition.outline, Option.map_some, hv]
  | memberText op s t cs =>
    simp only [Test.condition, Dialect.textMembership]
    cases d.lists <;> rfl
  | pattern shape s t cs =>
    simp only [Test.condition, Dialect.pattern_eq, Condition.outline, Option.map_some, outline_patternOf]
  | compareText | flag | null => rfl

private theorem alike_map {x : Option α} {y : Option β} {t : α → Test} {t' : β → Test} (h : x.isSome = y.isSome)
    (ht : ∀ a b, (t a).Alike (t' b)) : List.Forall₂ Test.Alike (x.toList.map t) (y.toList.map t') := by
  cases x with
  | none =>
    cases y with
    | none => exact .nil
    | some b => cases h
  | some a =>
    cases y with
    | none => cases h
    | some b => exact .cons (ht a b) .nil

private theorem alike_compareTests {x : Option α} {y : Option β} (hs : s.type = s'.type) (op : Comparison)
    (h : x.isSome = y.isSome) : List.Forall₂ Test.Alike (compareTests s op x) (compareTests s' op y) :=
  alike_map h fun _ _ => .compare op (congrArg (·, false) hs)

private theorem alike_arrayTests {xs : Option (List (Option α))} {ys : Option (List (Option β))}
    (hs : s.type = s'.type) (op : Membership) (h : xs.isSome = ys.isSome) :
    List.Forall₂ Test.Alike (arrayTests s op xs) (arrayTests s' op ys) :=
  alike_map h fun _ _ => .member op (congrArg (·, true) hs)

private theorem alike_nullTests {x y : Option Bool} (h : x = y) :
    List.Forall₂ Test.Alike (nullTests x) (nullTests y) := by
  subst h
  cases x with
  | none => exact .nil
  | some isNull => exact .cons (.null isNull) .nil

private theorem alike_append {ts us ts' us' : List Test} (h : List.Forall₂ Test.Alike ts us)
    (h' : List.Forall₂ Test.Alike ts' us') : List.Forall₂ Test.Alike (ts ++ ts') (us ++ us') :=
  List.rel_append h h'

theorem BooleanFilter.Alike.tests {f g : BooleanFilter} (h : f.Alike g) :
    List.Forall₂ Test.Alike f.tests g.tests := by
  apply alike_append _ (alike_nullTests h.isNull)
  exact alike_append (alike_compareTests rfl .eq h.eq) (alike_compareTests rfl .neq h.neq)

theorem RangeFilter.Alike.tests {f g : RangeFilter α} (h : f.Alike g) (ht : f.tests s column = .ok ts)
    (hu : g.tests s column = .ok us) : List.Forall₂ Test.Alike ts us := by
  rw [RangeFilter.tests_eq_ok ht, RangeFilter.tests_eq_ok hu]
  apply alike_append _ (alike_nullTests h.isNull)
  apply alike_append _ (alike_arrayTests rfl .notIn h.notIn)
  apply alike_append _ (alike_arrayTests rfl .isIn h.isIn)
  apply alike_append _ (alike_compareTests rfl .lte h.lte)
  apply alike_append _ (alike_compareTests rfl .lt h.lt)
  apply alike_append _ (alike_compareTests rfl .gte h.gte)
  apply alike_append _ (alike_compareTests rfl .gt h.gt)
  exact alike_append (alike_compareTests rfl .eq h.eq) (alike_compareTests rfl .neq h.neq)

theorem EnumFilter.Alike.tests [Enumeration α] [Enumeration β] {f : EnumFilter α} {g : EnumFilter β} (h : f.Alike g)
    (ht : f.tests column = .ok ts) (hu : g.tests column = .ok us) : List.Forall₂ Test.Alike ts us := by
  have hs : (f.mode.storage : Storage α).type = (g.mode.storage : Storage β).type := by
    rw [EnumMode.type_storage, EnumMode.type_storage, h.mode]
  rw [EnumFilter.tests_eq_ok ht, EnumFilter.tests_eq_ok hu]
  apply alike_append _ (alike_nullTests h.choice.isNull)
  apply alike_append _ (alike_arrayTests hs .notIn h.choice.notIn)
  apply alike_append _ (alike_arrayTests hs .isIn h.choice.isIn)
  exact alike_append (alike_compareTests hs .eq h.choice.eq) (alike_compareTests hs .neq h.choice.neq)

theorem ChoiceFilter.Alike.tests {f g : IdFilter} (h : f.Alike g) :
    List.Forall₂ Test.Alike (IdFilter.tests f) (IdFilter.tests g) := by
  apply alike_append _ (alike_nullTests h.isNull)
  apply alike_append _ (alike_arrayTests rfl .notIn h.notIn)
  apply alike_append _ (alike_arrayTests rfl .isIn h.isIn)
  exact alike_append (alike_compareTests rfl .eq h.eq) (alike_compareTests rfl .neq h.neq)

theorem FlagsFilter.Alike.tests [FlagSet α] [FlagSet β] {f : FlagsFilter α} {g : FlagsFilter β} (h : f.Alike g) :
    List.Forall₂ Test.Alike f.tests g.tests := by
  apply alike_append _ (alike_nullTests h.isNull)
  exact alike_append (alike_map h.has fun _ _ => .flag .has _ _) (alike_map h.hasNot fun _ _ => .flag .hasNot _ _)

theorem TextFilter.Alike.tests {f g : TextFilter} (h : f.Alike g) : List.Forall₂ Test.Alike f.tests g.tests := by
  unfold TextFilter.tests
  rw [h.caseSensitive]
  apply alike_append _ (alike_nullTests h.isNull)
  apply alike_append _ (alike_map h.notIn fun a b => .memberText .notIn _ _ _)
  apply alike_append _ (alike_map h.isIn fun a b => .memberText .isIn _ _ _)
  apply alike_append _ (alike_map h.endsWith fun a b => .pattern .endsWith a b _)
  apply alike_append _ (alike_map h.startsWith fun a b => .pattern .startsWith a b _)
  apply alike_append _ (alike_map h.contains fun a b => .pattern .contains a b _)
  exact alike_append (alike_map h.eq fun a b => .compareText .eq a b _)
    (alike_map h.neq fun a b => .compareText .neq a b _)

/-- The demands ask alike tests of values of one type, and the same place in the order. -/
structure Action.Demand.Alike (d e : Action.Demand) : Prop where
  type : d.type = e.type
  sort : d.sort = e.sort
  tests : ∀ ts us, d.tests = .ok ts → e.tests = .ok us → List.Forall₂ Test.Alike ts us

/-- The bindings ask alike demands of one column, so far as they ask anything. -/
structure Binding.Alike (b b' : Binding) : Prop where
  column : b.column = b'.column
  isSome : b.request.isSome = b'.request.isSome
  demand : ∀ r r' d e, b.request = some (r, .ok d) → b'.request = some (r', .ok e) → d.Alike e

private theorem Binding.alike_map {φ ψ : Type} {R : φ → ψ → Prop} {kind : FilterKind} {x : Option φ} {y : Option ψ}
    {r : φ → List Finding × Except QueryError Action.Demand} {r' : ψ → List Finding × Except QueryError Action.Demand}
    (h : Option.Rel R x y)
    (hr : ∀ f g d e, R f g → (r f).2 = .ok d → (r' g).2 = .ok e → d.Alike e) :
    Binding.Alike ⟨kind, column, x.map r⟩ ⟨kind, column, y.map r'⟩ := by
  cases h with
  | none => exact ⟨rfl, rfl, fun _ _ _ _ hd => nomatch hd⟩
  | @some f g hfg =>
    refine ⟨rfl, rfl, ?_⟩
    intro p p' d e hd he
    have hd : r f = (p, .ok d) := Option.some.inj hd
    have he : r' g = (p', .ok e) := Option.some.inj he
    exact hr f g d e hfg (by rw [hd]) (by rw [he])

end

/-- Alike calls that bind filters have alike bindings. -/
theorem Call.Alike.binding {c d : Call} {b b' : Binding} (h : c.Alike d) (hb : c.binding? = some b)
    (hb' : d.binding? = some b') : b.Alike b' := by
  cases h with
  | bindBoolean column hf =>
    cases hb
    cases hb'
    refine Binding.alike_map hf ?_
    rintro f g d e h ⟨⟩ ⟨⟩
    exact ⟨rfl, h.sort, by rintro ts us ⟨⟩ ⟨⟩; exact h.tests⟩
  | bindNumeric t column rules rules' hf =>
    cases hb
    cases hb'
    refine Binding.alike_map hf ?_
    intro f g d e h hd he
    cases hs : t.storage? with
    | none =>
      rw [hs] at hd
      cases hd
    | some s =>
      rw [hs] at hd he
      cases hd
      cases he
      exact ⟨rfl, h.sort, fun ts us => h.tests⟩
  | bindDate t column rules rules' hf =>
    cases hb
    cases hb'
    refine Binding.alike_map hf ?_
    rintro f g d e h ⟨⟩ ⟨⟩
    exact ⟨rfl, h.sort, fun ts us => h.tests⟩
  | bindEnum column rules rules' hf =>
    cases hb
    cases hb'
    refine Binding.alike_map hf ?_
    rintro f g d e h ⟨⟩ ⟨⟩
    exact ⟨congrArg EnumMode.type h.mode, h.choice.sort, fun ts us => h.tests⟩
  | bindFlags column rules rules' hf =>
    cases hb
    cases hb'
    refine Binding.alike_map hf ?_
    rintro f g d e h ⟨⟩ ⟨⟩
    exact ⟨rfl, h.sort, by rintro ts us ⟨⟩ ⟨⟩; exact h.tests⟩
  | bindId column rules rules' hf =>
    cases hb
    cases hb'
    refine Binding.alike_map hf ?_
    rintro f g d e h ⟨⟩ ⟨⟩
    exact ⟨rfl, h.sort, by rintro ts us ⟨⟩ ⟨⟩; exact h.tests⟩
  | bindText column rules rules' hf =>
    cases hb
    cases hb'
    refine Binding.alike_map hf ?_
    rintro f g d e h ⟨⟩ ⟨⟩
    exact ⟨rfl, h.sort, by rintro ts us ⟨⟩ ⟨⟩; exact h.tests⟩
  | selectAll | selectCount | selectColumns | search | searchFullText | paginate => cases hb

/-! ### Changes are congruences -/

private theorem Params.outline_set (b : Params) (name : String) (v : Value) :
    (b.set name v).outline = Named.put name v.outline b.outline := by
  obtain ⟨es⟩ := b
  show (Named.put name v es).map _ = Named.put name v.outline (es.map _)
  induction es with
  | nil => rfl
  | cons e es ih =>
    by_cases he : e.1 = name
    · simp [Named.put, he]
    · simp only [Named.put, List.map_cons, he, ↓reduceIte]
      exact congrArg (_ :: ·) ih

namespace Query

variable {q q' p p' : Query}

theorem Alike.refl (q : Query) : q.Alike q := ⟨rfl, rfl, rfl, rfl, rfl, rfl, rfl, rfl, rfl, rfl, rfl⟩

theorem Alike.push (h : q.Alike p) {c c' : Condition} (hc : c.outline = c'.outline) :
    (q.push c).Alike (p.push c') := by
  have hconditions : (q.conditions ++ [c]).map Condition.outline = (p.conditions ++ [c']).map Condition.outline := by
    rw [List.map_append, List.map_append, h.conditions, List.map_singleton, List.map_singleton, hc]
  have hparams : (q.push c).params.outline = (p.push c').params.outline := by
    have hparam := congrArg Prod.snd hc
    simp only [Condition.outline] at hparam
    cases hq : c.param with
    | none =>
      rw [hq, Option.map_none, eq_comm, Option.map_eq_none_iff] at hparam
      simp only [Query.push, hq, hparam, h.params]
    | some e =>
      rw [hq, Option.map_some, eq_comm, Option.map_eq_some_iff] at hparam
      obtain ⟨e', hp, he⟩ := hparam
      obtain ⟨hname, hvalue⟩ := Prod.mk.inj he
      simp only [Query.push, hq, hp, Params.outline_set, h.params, hname, hvalue]
  exact { h with conditions := hconditions, params := hparams }

theorem Alike.emit (h : q.Alike p) {t u : Test} (ht : t.Alike u) (c : Column) (sql : String) :
    (q.emit c sql t).Alike (p.emit c sql u) := by
  have hcondition := ht.outline_condition p.dialect sql
  unfold Query.emit
  rw [← ht.tag_eq, h.dialect, h.namer]
  cases t.tag? with
  | none => exact h.push (hcondition "")
  | some tag =>
    have hnext : Query.Alike { q with dialect := p.dialect, namer := (p.namer.next c tag).2 }
        { p with namer := (p.namer.next c tag).2 } := { h with dialect := rfl, namer := rfl }
    exact hnext.push (hcondition _)

theorem Alike.emitAll (h : q.Alike p) {ts us : List Test} (ht : List.Forall₂ Test.Alike ts us) (c : Column)
    (sql : String) : (q.emitAll c sql ts).Alike (p.emitAll c sql us) := by
  induction ht generalizing q p with
  | nil => exact h
  | cons htu _ ih => exact ih (h.emit htu c sql)

theorem Alike.sortedBy (h : q.Alike p) (sql : String) (sort : Option SortKey) :
    (q.sortedBy sql sort).Alike (p.sortedBy sql sort) := by
  cases sort with
  | none => exact h
  | some key => exact { h with sorts := congrArg (· ++ [SortEntry.mk sql key]) h.sorts }

theorem Alike.searched (h : q.Alike p) {f g : SearchFilter} (hf : f.Alike g) (columns : List String) :
    (q.searched columns f).Alike (p.searched columns g) := by
  have hnext : Query.Alike { q with searches := q.searches + 1 } { p with searches := p.searches + 1 } :=
    { h with searches := congrArg (· + 1) h.searches }
  refine hnext.push ?_
  rw [h.dialect, h.searches]
  unfold SearchFilter.Alike at hf
  simp only [Dialect.freeText_eq, Condition.outline, Option.map_some, outline_patternOf, hf]

theorem Alike.searchedFullText (h : q.Alike p) {f g : FullTextFilter} (hf : f.Alike g) {columns : List String}
    {c c' : Condition} (hc : q.fullTextCondition columns f = .ok c) (hc' : p.fullTextCondition columns g = .ok c') :
    (q.searchedFullText c).Alike (p.searchedFullText c') := by
  have hnext : Query.Alike { q with fullTextSearches := q.fullTextSearches + 1 }
      { p with fullTextSearches := p.fullTextSearches + 1 } :=
    { h with fullTextSearches := congrArg (· + 1) h.fullTextSearches }
  refine hnext.push ?_
  unfold fullTextCondition Dialect.fullTextSearch at hc hc'
  rw [h.dialect, h.settings, h.fullTextSearches, hf.config, hf.form] at hc
  split at hc
  · rename_i hd
    rw [if_pos hd] at hc'
    cases hc
    cases hc'
    rfl
  · cases hc

private theorem Alike.of_binding {c d : Call} {b b' : Binding} (h : q.Alike p) (hb : c.binding? = some b)
    (hb' : d.binding? = some b') (hbb : b.Alike b') (hq : c.outcome q = .ok q') (hp : d.outcome p = .ok p') :
    q'.Alike p' := by
  rcases Call.cases_of_binding hb hq with ⟨hr, rfl⟩ | ⟨e, sql, ts, hr, -, hsql, hts, -, rfl⟩
  · rcases Call.cases_of_binding hb' hp with ⟨hr', rfl⟩ | ⟨e', sql', us, hr', -, hsql', hus, -, rfl⟩
    · exact h
    · have := hbb.isSome
      rw [hr, hr'] at this
      cases this
  · rcases Call.cases_of_binding hb' hp with ⟨hr', rfl⟩ | ⟨e', sql', us, hr', -, hsql', hus, -, rfl⟩
    · have := hbb.isSome
      rw [hr, hr'] at this
      cases this
    · have hd := hbb.demand _ _ e e' hr hr'
      -- the same column, cast to the same type, is the same text
      rw [h.dialect, h.table, hbb.column, hd.type, hsql'] at hsql
      obtain rfl : sql' = sql := Except.ok.inj hsql
      rw [h.table, hbb.column, hd.sort]
      exact (h.emitAll (hd.tests ts us hts hus) _ _).sortedBy _ _

/-- Alike calls that succeed lead from alike queries to alike queries. -/
theorem Alike.outcome {c d : Call} (h : q.Alike p) (hcd : c.Alike d) (hq : c.outcome q = .ok q')
    (hp : d.outcome p = .ok p') : q'.Alike p' := by
  have hresolve : ∀ columns, q.resolveTexts columns = p.resolveTexts columns := by
    intro columns
    rw [resolveTexts, resolveTexts, h.dialect, h.table]
  have hselect : ∀ s, Query.Alike { q with selection := some s } { p with selection := some s } :=
    fun s => { h with selection := rfl }
  cases hcd with
  | selectAll | selectCount =>
    obtain ⟨-, rfl⟩ := cases_of_select hq
    obtain ⟨-, rfl⟩ := cases_of_select hp
    exact hselect _
  | selectColumns items =>
    obtain ⟨-, -, rfl⟩ := cases_of_selectColumns hq
    obtain ⟨-, -, rfl⟩ := cases_of_selectColumns hp
    exact hselect _
  | search columns hf =>
    rcases cases_of_search hq with ⟨rfl, rfl⟩ | ⟨f, resolved, rfl, -, hr, rfl⟩
    · cases hf
      rcases cases_of_search hp with ⟨-, rfl⟩ | ⟨g, resolved, hg, -⟩
      · exact h
      · cases hg
    · rcases cases_of_search hp with ⟨rfl, rfl⟩ | ⟨g, resolved', rfl, -, hr', rfl⟩
      · cases hf
      · rw [hresolve, hr'] at hr
        cases hr
        cases hf with
        | some hfg => exact h.searched hfg resolved
  | searchFullText columns hf =>
    rcases cases_of_searchFullText hq with ⟨rfl, rfl⟩ | ⟨f, resolved, c, rfl, -, -, hr, hc, rfl⟩
    · cases hf
      rcases cases_of_searchFullText hp with ⟨-, rfl⟩ | ⟨g, resolved, c, hg, -⟩
      · exact h
      · cases hg
    · rcases cases_of_searchFullText hp with ⟨rfl, rfl⟩ | ⟨g, resolved', c', rfl, -, -, hr', hc', rfl⟩
      · cases hf
      · rw [hresolve, hr'] at hr
        cases hr
        cases hf with
        | some hfg => exact h.searchedFullText hfg hc hc'
  | paginate _ _ hf =>
    rcases cases_of_paginate hq with ⟨rfl, rfl⟩ | ⟨f, rfl, rfl⟩
    · rcases cases_of_paginate hp with ⟨rfl, rfl⟩ | ⟨g, rfl, rfl⟩
      · exact h
      · cases hf
    · rcases cases_of_paginate hp with ⟨rfl, rfl⟩ | ⟨g, rfl, rfl⟩
      · cases hf
      · exact { h with paging := rfl }
  | bindBoolean _ hf => exact h.of_binding rfl rfl (Call.Alike.binding (.bindBoolean _ hf) rfl rfl) hq hp
  | bindNumeric _ _ _ _ hf => exact h.of_binding rfl rfl (Call.Alike.binding (.bindNumeric _ _ _ _ hf) rfl rfl) hq hp
  | bindDate _ _ _ _ hf => exact h.of_binding rfl rfl (Call.Alike.binding (.bindDate _ _ _ _ hf) rfl rfl) hq hp
  | bindEnum _ _ _ hf => exact h.of_binding rfl rfl (Call.Alike.binding (.bindEnum _ _ _ hf) rfl rfl) hq hp
  | bindFlags _ _ _ hf => exact h.of_binding rfl rfl (Call.Alike.binding (.bindFlags _ _ _ hf) rfl rfl) hq hp
  | bindId _ _ _ hf => exact h.of_binding rfl rfl (Call.Alike.binding (.bindId _ _ _ hf) rfl rfl) hq hp
  | bindText _ _ _ hf => exact h.of_binding rfl rfl (Call.Alike.binding (.bindText _ _ _ hf) rfl rfl) hq hp

/-! ### Runs of alike calls -/

/-- For each call of a run, whether it succeeds. -/
def successes (q : Query) : List Step → List Bool
  | [] => []
  | .call c :: r => (c.perform q).1.isOk :: (c.perform q).2.successes r
  | .copy :: r => q.successes r
  | .count :: r => q.countQuery.successes r

theorem Alike.countQuery (h : q.Alike p) : q.countQuery.Alike p.countQuery :=
  { h with selection := rfl, sorts := rfl, paging := rfl }

/-- Alike calls that both succeed or both fail lead from alike queries to alike queries. -/
theorem Alike.perform {c d : Call} (h : q.Alike p) (hcd : c.Alike d)
    (hs : (c.perform q).1.isOk = (d.perform p).1.isOk) : (c.perform q).2.Alike (d.perform p).2 := by
  rw [Call.perform_eq, Call.perform_eq] at hs ⊢
  cases hq : c.outcome q with
  | error e =>
    cases hp : d.outcome p with
    | error e' => exact h
    | ok p' =>
      rw [hq, hp] at hs
      cases hs
  | ok q' =>
    cases hp : d.outcome p with
    | error e' =>
      rw [hq, hp] at hs
      cases hs
    | ok p' => exact h.outcome hcd hq hp

/-- Runs of alike steps in which the same calls succeed lead from alike queries to alike queries. -/
theorem Alike.run {steps steps' : List Step} (h : q.Alike p) (hsteps : List.Forall₂ Step.Alike steps steps')
    (hs : q.successes steps = p.successes steps') : (q.run steps).Alike (p.run steps') := by
  induction hsteps generalizing q p with
  | nil => exact h
  | cons hstep _ ih =>
    cases hstep with
    | call hcd =>
      obtain ⟨hfirst, hrest⟩ := List.cons.inj hs
      exact ih (h.perform hcd hfirst) hrest
    | copy => exact ih h hs
    | count => exact ih h.countQuery hs

theorem Alike.outline_allParams (h : q.Alike p) : q.allParams.outline = p.allParams.outline := by
  have hpaging := h.paging
  unfold allParams
  cases hq : q.paging with
  | none =>
    rw [hq, Option.isSome_none, eq_comm, Option.isSome_eq_false_iff, Option.isNone_iff_eq_none] at hpaging
    rw [hpaging]
    exact h.params
  | some page =>
    rw [hq, Option.isSome_some, eq_comm, Option.isSome_iff_exists] at hpaging
    obtain ⟨page', hp⟩ := hpaging
    rw [hp]
    dsimp only
    rw [Params.outline_set, Params.outline_set, Params.outline_set, Params.outline_set, h.params]
    rfl

/-- Alike queries are rendered with the same text and the same parameters but for their values. -/
theorem Alike.render (h : q.Alike p) :
    q.render.map Statement.outline = p.render.map Statement.outline := by
  have hsql : q.conditions.map Condition.sql = p.conditions.map Condition.sql := by
    have := congrArg (List.map Prod.fst) h.conditions
    simpa [Function.comp_def, Condition.outline] using this
  have hempty : q.conditions.isEmpty = p.conditions.isEmpty := by
    have := congrArg List.isEmpty hsql
    simpa using this
  have hwhere : q.whereClause = p.whereClause := by rw [whereClause, whereClause, hempty, hsql]
  have horder : q.orderClause = p.orderClause := by
    rw [orderClause, orderClause, orderedSorts, orderedSorts, h.sorts]
  have hpage : q.pagingClause = p.pagingClause := by
    rw [pagingClause, pagingClause, h.paging, h.dialect]
  unfold Query.render
  rw [h.selection, h.table, hwhere, horder, hpage]
  cases p.selection with
  | none => rfl
  | some s => exact congrArg (fun params => Except.ok (_, params)) h.outline_allParams

/-- Two runs of alike calls on new queries on the same table, in the same dialect and with the same settings, in which
the same calls succeed, lead to statements with the same text and the same names of parameters in the same order, and
parameters at the same place have values of the same type, both single or both arrays. -/
theorem values_never_influence_sql (hq : q.Created) (hp : p.Created) (htable : q.table = p.table)
    (hdialect : q.dialect = p.dialect) (hsettings : q.settings = p.settings) {steps steps' : List Step}
    (hsteps : List.Forall₂ Step.Alike steps steps') (hs : q.successes steps = p.successes steps') :
    (q.run steps).render.map Statement.outline = (p.run steps').render.map Statement.outline := by
  have hqp : q = p := by
    obtain ⟨-, -, -, hblank⟩ := hq.isBlank
    obtain ⟨-, -, -, hblank'⟩ := hp.isBlank
    rw [hblank, hblank', htable, hdialect, hsettings]
  subst hqp
  exact ((Alike.refl q).run hsteps hs).render

/-- Two users search for different names and ages, one of them with a term that looks like a statement; a second filter
that sorts by the age is refused in both runs. -/
theorem values_never_influence_sql_ages :
    let q : Query := { table := "users", dialect := .postgres, settings := {} }
    let steps (name : String) (age : Int32) (ages : List Int32) (limit : Int64) : List Step :=
      [.call .selectAll, .call (.bindText "name" (some { contains := some name }) {}),
        .call (.bindNumeric .int32 "age" (some { gte := some age, isIn := listed ages, sort := some (.asc 0) }) []),
        .call (.bindNumeric .int32 "age" (some { lt := some age, sort := some (.asc 1) }) []),
        .call (.search ["name", "meta->'a'"] (some { term := name })),
        .call (.paginate (some { limit, page := 2 }) none)]
    let run := steps "Ann" 18 [18, 19] 10
    let run' := steps "x' OR @1 --" 65 [70] 50
    q.Created ∧ List.Forall₂ Step.Alike run run' ∧ q.successes run = q.successes run' ∧
      q.successes run = [true, true, true, false, true, true] ∧
      (q.run run).render.map Statement.outline = (q.run run').render.map Statement.outline := by
  intro q steps run run'
  have hnew : Query.new "users" .postgres = .ok q := rfl
  have hq : q.Created := .new hnew
  have halike : List.Forall₂ Step.Alike run run' := by
    have hages : ∀ gte gte' isIn isIn',
        RangeFilter.Alike (α := Int32) { gte := some gte, isIn := some isIn, sort := some (.asc 0) }
          { gte := some gte', isIn := some isIn', sort := some (.asc 0) } :=
      fun _ _ _ _ => ⟨rfl, rfl, rfl, rfl, rfl, rfl, rfl, rfl, rfl, rfl⟩
    have hage : ∀ lt lt', RangeFilter.Alike (α := Int32) { lt := some lt, sort := some (.asc 1) }
        { lt := some lt', sort := some (.asc 1) } :=
      fun _ _ => ⟨rfl, rfl, rfl, rfl, rfl, rfl, rfl, rfl, rfl, rfl⟩
    refine .cons (.call .selectAll) (.cons (.call (.bindText _ _ _ (.some ?_))) ?_)
    · exact ⟨rfl, rfl, rfl, rfl, rfl, rfl, rfl, rfl, rfl, rfl⟩
    · refine .cons (.call (.bindNumeric _ _ _ _ (.some (hages _ _ _ _)))) ?_
      refine .cons (.call (.bindNumeric _ _ _ _ (.some (hage _ _)))) ?_
      exact .cons (.call (.search _ (.some rfl))) (.cons (.call (.paginate _ _ rfl)) .nil)
  have hsuccess : q.successes run = [true, true, true, false, true, true] := by decide +kernel
  have hsame : q.successes run = q.successes run' := by decide +kernel
  exact ⟨hq, halike, hsame, hsuccess, values_never_influence_sql hq hq rfl rfl rfl halike hsame⟩

end Query

end SqlFilter
