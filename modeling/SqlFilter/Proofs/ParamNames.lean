import Mathlib.Data.List.Forall2
import SqlFilter.Proofs.Emitted
import SqlFilter.Proofs.Matching

/-!
# Names of parameters never collide

Every parameter is named by a stem, a tag and a number, joined by `_`.  Tags and numbers have no `_` in them, so a
name can be read from the right and the three are determined by it (`Namer.nameOf_inj`); searches are tags of the
empty stem.  A query counts the names that it gives out: the names of its conditions are below its counts, and the
next one is not (`Query.Named`).  So no name is given twice, whatever columns and tables are called.
-/

namespace SqlFilter

/-! ### Reading names from the right -/

private theorem append_cons_inj_of_notMem_right {α : Type} {a : α} {x x' y y' : List α} (hy : a ∉ y) (hy' : a ∉ y')
    (h : x ++ a :: y = x' ++ a :: y') : x = x' ∧ y = y' := by
  rcases List.append_eq_append_iff.1 h with ⟨z, rfl, hz⟩ | ⟨z, rfl, hz⟩
  · cases z with
    | nil => exact ⟨by simp, by simpa using hz⟩
    | cons b z =>
      cases hz
      exact absurd (List.mem_append_right z (List.mem_cons_self ..)) hy
  · cases z with
    | nil => exact ⟨by simp, by simpa using hz.symm⟩
    | cons b z =>
      cases hz
      exact absurd (List.mem_append_right z (List.mem_cons_self ..)) hy'

theorem toList_nameOf (stem tag : String) (k : Nat) :
    (Namer.nameOf stem tag k).toList = stem.toList ++ '_' :: (tag.toList ++ '_' :: Nat.toDigits 10 k) := by
  simp [Namer.nameOf]

/-- A name determines its stem, its tag and its number. -/
theorem Namer.nameOf_inj {stem stem' tag tag' : String} {k k' : Nat} (ht : '_' ∉ tag.toList) (ht' : '_' ∉ tag'.toList)
    (h : nameOf stem tag k = nameOf stem' tag' k') : stem = stem' ∧ tag = tag' ∧ k = k' := by
  have hl := congrArg String.toList h
  rw [toList_nameOf, toList_nameOf] at hl
  have hl' : (stem.toList ++ '_' :: tag.toList) ++ '_' :: Nat.toDigits 10 k =
      (stem'.toList ++ '_' :: tag'.toList) ++ '_' :: Nat.toDigits 10 k' := by
    simpa using hl
  -- from the right: the number comes first, then the tag
  obtain ⟨hst, hk⟩ := append_cons_inj_of_notMem_right Nat.underscore_not_in_toDigits Nat.underscore_not_in_toDigits hl'
  obtain ⟨hs, htag⟩ := append_cons_inj_of_notMem_right ht ht' hst
  refine ⟨String.toList_inj.1 hs, String.toList_inj.1 htag, ?_⟩
  have := congrArg (fun ds => Nat.ofDigitChars 10 ds 0) hk
  simpa using this

theorem Namer.nameOf_ne {stem tag : String} {k : Nat} {w : List Char} (hw : '_' ∉ w)
    (hd : ∃ c ∈ w, c.isDigit = false) : nameOf stem tag k ≠ String.ofList ('_' :: w) := by
  intro h
  have hl := congrArg String.toList h
  rw [toList_nameOf, String.toList_ofList] at hl
  have hl' : (stem.toList ++ '_' :: tag.toList) ++ '_' :: Nat.toDigits 10 k = [] ++ '_' :: w := by
    simpa using hl
  obtain ⟨-, rfl⟩ := append_cons_inj_of_notMem_right Nat.underscore_not_in_toDigits hw hl'
  obtain ⟨c, hc, hcd⟩ := hd
  rw [Nat.isDigit_of_mem_toDigits (by decide) (by decide) hc] at hcd
  cases hcd

theorem Test.tag_facts {t : Test} {tag : String} (h : t.tag? = some tag) :
    '_' ∉ tag.toList ∧ tag ≠ "Search" ∧ tag ≠ "FullText" := by
  have hl := Test.isLower_of_mem_tag h
  refine ⟨fun h => absurd (hl _ h) (by decide), ?_, ?_⟩
  · rintro rfl
    exact absurd (hl 'S' (by decide)) (by decide)
  · rintro rfl
    exact absurd (hl 'F' (by decide)) (by decide)

/-! ### Parameters of conditions -/

theorem Test.param_condition (d : Dialect) (sql name : String) (t : Test) :
    (t.condition d sql name).param.map Prod.fst = t.tag?.map fun _ => name := by
  cases t with
  | memberText op terms cs =>
    simp only [Test.condition, Dialect.textMembership]
    split <;> rfl
  | pattern shape term cs =>
    rw [Test.condition, Dialect.param_pattern]
    rfl
  | _ => rfl

/-- A condition is that of a test on a resolved column; its parameter has a name of word characters. -/
def Test.Names (d : Dialect) (sql : String) (t : Test) (x : Condition) : Prop :=
  ∃ name, x = t.condition d sql name ∧ (t.tag?.isSome → IsParamName name)

/-- Tests are written one by one, under the names that are given out. -/
theorem Namer.names_conditions (d : Dialect) (c : Column) (sql : String) (n : Namer) (tests : List Test) :
    List.Forall₂ (Test.Names d sql) tests (n.conditions d c sql tests).1 := by
  induction tests generalizing n with
  | nil => exact .nil
  | cons t tests ih =>
    rw [conditions]
    cases ht : t.tag? with
    | none => exact .cons ⟨"", rfl, fun hs => by rw [ht] at hs; cases hs⟩ (ih n)
    | some tag =>
      refine .cons ⟨_, rfl, fun _ => isParamName_nameOf _ _ _ ?_ ?_⟩ (ih _)
      · exact fun _ => Column.isWordChar_of_mem_paramPrefix
      · exact fun c hc => isWordChar_of_isLower (Test.isLower_of_mem_tag ht c hc)

theorem param_of_fullTextSearch {d : Dialect} {columns : List String} {config name term : String} {form : TermSyntax}
    {c : Condition} (h : d.fullTextSearch columns config form name term = .ok c) :
    c.param = some (name, .text term) := by
  unfold Dialect.fullTextSearch at h
  split at h
  · cases h
    rfl
  · cases h

namespace Query

/-- The parameters of the conditions, in order. -/
def bound (q : Query) : List (String × Value) := q.conditions.filterMap Condition.param

/-- A name that a query has given out. -/
inductive Issued (q : Query) : String → Prop
  | test {t : Test} {stem tag : String} {k : Nat} : t.tag? = some tag → k < q.namer.count stem →
    Issued q (Namer.nameOf stem tag k)
  | search {k : Nat} : k < q.searches → Issued q (Namer.nameOf "" "Search" k)
  | fullText {k : Nat} : k < q.fullTextSearches → Issued q (Namer.nameOf "" "FullText" k)

/-- The names of the conditions have been given out, each once, and the bag holds the parameters as they came. -/
structure Named (q : Query) : Prop where
  issued : ∀ p ∈ q.bound, q.Issued p.1
  nodup : (q.bound.map Prod.fst).Nodup
  entries : q.params.entries = q.bound

variable {q q' r : Query} {name : String}

/-- What is counted more often has given out all names that were given out before. -/
theorem Issued.mono (h : q.Issued name) (hn : ∀ stem, q.namer.count stem ≤ q'.namer.count stem)
    (hs : q.searches ≤ q'.searches) (hf : q.fullTextSearches ≤ q'.fullTextSearches) : q'.Issued name := by
  cases h with
  | test ht hk => exact .test ht (Nat.lt_of_lt_of_le hk (hn _))
  | search hk => exact .search (Nat.lt_of_lt_of_le hk hs)
  | fullText hk => exact .fullText (Nat.lt_of_lt_of_le hk hf)

/-- A name that was given out is that of a tag and a number; tags of tests are not those of searches. -/
theorem Issued.cases (stem tag : String) {k : Nat} (htag : '_' ∉ tag.toList)
    (h : q.Issued (Namer.nameOf stem tag k)) :
    (k < q.namer.count stem ∧ tag ≠ "Search" ∧ tag ≠ "FullText") ∨ (tag = "Search" ∧ k < q.searches) ∨
      (tag = "FullText" ∧ k < q.fullTextSearches) := by
  -- the constructor that gave out the name is told by the tag, which the name determines
  generalize hname : Namer.nameOf stem tag k = name at h
  cases h with
  | test ht hk =>
    obtain ⟨hu, hs, hf⟩ := Test.tag_facts ht
    obtain ⟨rfl, rfl, rfl⟩ := Namer.nameOf_inj htag hu hname
    exact .inl ⟨hk, hs, hf⟩
  | search hk =>
    obtain ⟨-, rfl, rfl⟩ := Namer.nameOf_inj htag (by decide) hname
    exact .inr (.inl ⟨rfl, hk⟩)
  | fullText hk =>
    obtain ⟨-, rfl, rfl⟩ := Namer.nameOf_inj htag (by decide) hname
    exact .inr (.inr ⟨rfl, hk⟩)

private theorem not_issued_next {t : Test} {tag : String} (ht : t.tag? = some tag) (c : Column) :
    ¬ q.Issued (q.namer.next c tag).1 := by
  intro h
  obtain ⟨hu, hs, hf⟩ := Test.tag_facts ht
  rcases Issued.cases _ _ hu h with ⟨hk, -⟩ | ⟨he, -⟩ | ⟨he, -⟩
  · exact Nat.lt_irrefl _ hk
  · exact hs he
  · exact hf he

private theorem not_issued_search : ¬ q.Issued ("_Search_" ++ toString q.searches) := by
  intro h
  rcases Issued.cases "" "Search" (by decide) h with ⟨-, he, -⟩ | ⟨-, hk⟩ | ⟨he, -⟩
  · exact he rfl
  · exact Nat.lt_irrefl _ hk
  · exact absurd he (by decide)

private theorem not_issued_fullText : ¬ q.Issued ("_FullText_" ++ toString q.fullTextSearches) := by
  intro h
  rcases Issued.cases "" "FullText" (by decide) h with ⟨-, -, he⟩ | ⟨he, -⟩ | ⟨-, hk⟩
  · exact he rfl
  · exact absurd he (by decide)
  · exact Nat.lt_irrefl _ hk

theorem Issued.ne_page (h : q.Issued name) : name ≠ Action.limitParam ∧ name ≠ Action.offsetParam := by
  have hl : ∀ stem tag k, Namer.nameOf stem tag k ≠ Action.limitParam := fun _ _ _ =>
    Namer.nameOf_ne (w := "Limit".toList) (by decide) ⟨'L', List.mem_cons_self .., rfl⟩
  have ho : ∀ stem tag k, Namer.nameOf stem tag k ≠ Action.offsetParam := fun _ _ _ =>
    Namer.nameOf_ne (w := "Offset".toList) (by decide) ⟨'O', List.mem_cons_self .., rfl⟩
  cases h <;> exact ⟨hl _ _ _, ho _ _ _⟩

/-! ### The invariant is kept -/

private theorem bound_push (q : Query) (c : Condition) : (q.push c).bound = q.bound ++ c.param.toList := by
  rw [bound, Query.push, List.filterMap_append]
  cases hc : c.param <;> simp [bound, hc]

theorem Named.push_bare (h : q.Named) {c : Condition} (hc : c.param = none) : (q.push c).Named := by
  have hb : (q.push c).bound = q.bound := by
    rw [bound_push, hc]
    exact List.append_nil _
  refine ⟨?_, ?_, ?_⟩
  · rw [hb]
    exact fun p hp => (h.issued p hp).mono (fun _ => Nat.le_refl _) (Nat.le_refl _) (Nat.le_refl _)
  · rw [hb]
    exact h.nodup
  · rw [hb, Query.push, hc]
    exact h.entries

/-- A condition is added under a name that was not given out before the counts went up and is given out now. -/
theorem Named.push (h : q.Named) (hc : r.conditions = q.conditions) (hp : r.params = q.params)
    (hmono : ∀ n, q.Issued n → r.Issued n) {c : Condition} {v : Value} (hparam : c.param = some (name, v))
    (hnew : ¬ q.Issued name) (hissued : r.Issued name) : (r.push c).Named := by
  have hb₀ : r.bound = q.bound := by rw [bound, hc, bound]
  have hb : (r.push c).bound = q.bound ++ [(name, v)] := by rw [bound_push, hb₀, hparam]; rfl
  have hfresh : name ∉ q.bound.map Prod.fst := by
    intro hmem
    obtain ⟨p, hp, rfl⟩ := List.mem_map.1 hmem
    exact hnew (h.issued p hp)
  refine ⟨?_, ?_, ?_⟩
  · rw [hb]
    intro p hp
    have hp₀ : r.Issued p.1 := by
      rcases List.mem_append.1 hp with hp | hp
      · exact hmono _ (h.issued p hp)
      · rw [List.mem_singleton.1 hp]
        exact hissued
    exact hp₀.mono (fun _ => Nat.le_refl _) (Nat.le_refl _) (Nat.le_refl _)
  · rw [hb, List.map_append]
    refine List.nodup_append.2 ⟨h.nodup, by simp, ?_⟩
    intro a ha b hb hab
    rw [List.mem_singleton.1 hb] at hab
    rw [hab] at ha
    exact hfresh ha
  · have hnames : name ∉ q.params.names := by
      rw [Params.names, h.entries]
      exact hfresh
    rw [hb, Query.push, hparam, hp]
    show (q.params.set name v).entries = _
    rw [Params.entries_set_of_notMem hnames, h.entries]

private theorem count_le_next (n : Namer) (c : Column) (tag stem : String) :
    n.count stem ≤ (n.next c tag).2.count stem := by
  rw [Namer.count_next]
  split <;> omega

theorem Named.emit (h : q.Named) (c : Column) (sql : String) (t : Test) : (q.emit c sql t).Named := by
  have hname := Test.param_condition q.dialect sql
  unfold Query.emit
  split
  · rename_i ht
    refine h.push_bare ?_
    have := hname "" t
    rwa [ht, Option.map_none, Option.map_eq_none_iff] at this
  · -- the name is given out with the count of its stem, which then goes up by one
    rename_i tag ht
    have := hname (q.namer.next c tag).1 t
    rw [ht, Option.map_some, Option.map_eq_some_iff] at this
    obtain ⟨⟨name, v⟩, hparam, hn⟩ := this
    obtain rfl : name = (q.namer.next c tag).1 := hn
    refine h.push (r := { q with namer := (q.namer.next c tag).2 }) rfl rfl (fun n hn => ?_) hparam
      (not_issued_next ht c) (.test ht ?_)
    · exact hn.mono (count_le_next q.namer c tag) (Nat.le_refl _) (Nat.le_refl _)
    · show _ < (q.namer.next c tag).2.count c.paramPrefix
      rw [Namer.count_next, if_pos rfl]
      exact Nat.lt_succ_self _

theorem Named.emitAll (h : q.Named) (c : Column) (sql : String) (tests : List Test) :
    (q.emitAll c sql tests).Named := by
  induction tests generalizing q with
  | nil => exact h
  | cons t tests ih => exact ih (h.emit c sql t)

theorem Named.congr (h : q.Named) (hc : q'.conditions = q.conditions) (hp : q'.params = q.params)
    (hn : q'.namer = q.namer) (hs : q'.searches = q.searches) (hf : q'.fullTextSearches = q.fullTextSearches) :
    q'.Named := by
  have hb : q'.bound = q.bound := by rw [bound, hc, bound]
  refine ⟨?_, ?_, ?_⟩
  · rw [hb]
    refine fun p hm => (h.issued p hm).mono (fun _ => ?_) (Nat.le_of_eq hs.symm) (Nat.le_of_eq hf.symm)
    exact Nat.le_of_eq (by rw [hn])
  · rw [hb]
    exact h.nodup
  · rw [hb, hp]
    exact h.entries

theorem Named.change (h : q.Named) (hq : q.Change q') : q'.Named := by
  cases hq with
  | skip => exact h
  | select _ _ | paginate _ => exact h.congr rfl rfl rfl rfl rfl
  | @bind expression _ sql sort tests =>
    have := h.emitAll ⟨q.table, expression⟩ sql tests
    cases sort with
    | none => exact this
    | some key => exact this.congr rfl rfl rfl rfl rfl
  | search f _ _ _ =>
    refine h.push (r := { q with searches := q.searches + 1 }) rfl rfl (fun n hn => ?_) (q.dialect.param_freeText ..)
      not_issued_search (.search (Nat.lt_succ_self _))
    exact hn.mono (fun _ => Nat.le_refl _) (Nat.le_succ _) (Nat.le_refl _)
  | searchFullText _ _ _ _ hcond =>
    refine h.push (r := { q with fullTextSearches := q.fullTextSearches + 1 }) rfl rfl (fun n hn => ?_)
      (param_of_fullTextSearch hcond) not_issued_fullText (.fullText (Nat.lt_succ_self _))
    exact hn.mono (fun _ => Nat.le_refl _) (Nat.le_refl _) (Nat.le_succ _)

theorem Created.named (h : q.Created) : q.Named := by
  obtain ⟨-, -, -, hq⟩ := h.isBlank
  rw [hq]
  exact ⟨fun p hp => (nomatch hp), List.nodup_nil, rfl⟩

/-- In reachable queries every name was given out, once. -/
theorem Reachable.named (h : q.Reachable) : q.Named :=
  h.of_changes (fun _ h => h.named) (fun _ _ h hq => h.change hq)
    (fun _ h => h.congr rfl rfl rfl rfl rfl)

/-- What is added to the conditions is added to the bag. -/
theorem Named.entries_append (h : q.Named) (h' : q'.Named) {added : List Condition}
    (hc : q'.conditions = q.conditions ++ added) :
    q'.params.entries = q.params.entries ++ added.filterMap Condition.param := by
  rw [h'.entries, h.entries, bound, hc, List.filterMap_append, bound]

theorem Named.ne_page (h : q.Named) :
    ∀ n ∈ q.bound.map Prod.fst, n ≠ Action.limitParam ∧ n ≠ Action.offsetParam := by
  intro n hn
  obtain ⟨p, hp, rfl⟩ := List.mem_map.1 hn
  exact (h.issued p hp).ne_page

end Query

end SqlFilter
