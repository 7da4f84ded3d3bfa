import SqlFilter.Proofs.Reachable
import SqlFilter.Proofs.Words

/-!
# Conditions of reachable queries

Whatever was asked, a reachable query has a table, a configuration, a selection and sorted columns that passed their
checks, and each of its conditions is one that its dialect writes for resolved columns and a parameter named by word
characters (`Emitted`).  All this is one invariant, `Query.WellFormed`.
-/

namespace SqlFilter

/-! ### Names of parameters -/

/-- A text of word characters, at least one. -/
def IsParamName (name : String) : Prop := name.toList ≠ [] ∧ ∀ c ∈ name.toList, Text.isWordChar c = true

theorem IsParamName.notMem {name : String} {c : Char} (h : IsParamName name) (hc : Text.isWordChar c = false) :
    c ∉ name.toList := by
  intro hmem
  rw [h.2 c hmem] at hc
  cases hc

private theorem isWordChar_of_mem_toString {k : Nat} {c : Char} (h : c ∈ (toString k).toList) :
    Text.isWordChar c = true := by
  rw [Nat.toString_eq_ofList_toDigits, String.toList_ofList] at h
  have hd : c.isDigit = true := Nat.isDigit_of_mem_toDigits (by decide) (by decide) h
  rw [Text.isWordChar, Char.isAlphanum, hd, Bool.or_true, Bool.true_or]

theorem isParamName_nameOf (stem tag : String) (k : Nat) (hs : ∀ c ∈ stem.toList, Text.isWordChar c = true)
    (ht : ∀ c ∈ tag.toList, Text.isWordChar c = true) : IsParamName (Namer.nameOf stem tag k) := by
  have hl : (Namer.nameOf stem tag k).toList = stem.toList ++ '_' :: (tag.toList ++ '_' :: (toString k).toList) := by
    simp [Namer.nameOf]
  refine ⟨by simp [hl], ?_⟩
  rw [hl]
  intro c hc
  simp only [List.mem_append, List.mem_cons] at hc
  rcases hc with hc | rfl | hc | rfl | hc
  · exact hs c hc
  · rfl
  · exact ht c hc
  · rfl
  · exact isWordChar_of_mem_toString hc

theorem Column.isWordChar_of_mem_paramPrefix {col : Column} {c : Char} (h : c ∈ col.paramPrefix.toList) :
    Text.isWordChar c = true := by
  simp only [Column.paramPrefix, String.toList_append, List.mem_append] at h
  rcases h with (h | h) | h
  · exact Text.isWordChar_of_mem_sanitize h
  · rw [List.mem_singleton.1 h]
    rfl
  · exact Text.isWordChar_of_mem_sanitize h

theorem Test.isLower_of_mem_tag {t : Test} {tag : String} (h : t.tag? = some tag) : ∀ c ∈ tag.toList, c.isLower := by
  cases t with
  | compare op _ | compareText op _ _ =>
    cases h
    cases op <;> exact List.all_eq_true.1 rfl
  | member op _ | memberText op _ _ =>
    cases h
    cases op <;> exact List.all_eq_true.1 rfl
  | pattern shape _ _ =>
    cases h
    cases shape <;> exact List.all_eq_true.1 rfl
  | flag test _ =>
    cases h
    cases test <;> exact List.all_eq_true.1 rfl
  | null _ => cases h

theorem isWordChar_of_isLower {c : Char} (h : c.isLower = true) : Text.isWordChar c = true := by
  have halpha : c.isAlpha = true := Bool.or_eq_true_iff.2 (Or.inr h)
  rw [Text.isWordChar, Char.isAlphanum, halpha, Bool.true_or, Bool.true_or]

/-- A column of a table is written with the characters of columns and a point. -/
theorem Column.notMem_qualified {table x : String} (ht : Text.isIdentifier table = true)
    (hx : Text.isColumnExpression x = true) {c : Char} (hc : Text.isColumnChar c = false) (hpoint : c ≠ '.') :
    c ∉ (⟨table, x⟩ : Column).qualified.toList := by
  intro hmem
  simp only [qualified, String.toList_append, List.mem_append] at hmem
  rcases hmem with (hmem | hmem) | hmem
  · have hkey := Text.isKeyChar_of_isWordChar ((Text.isWordChar_of_isIdentifier ht).2 c hmem)
    rw [Text.isColumnChar, hkey] at hc
    cases hc
  · exact hpoint (List.mem_singleton.1 hmem)
  · rw [Text.isColumnChar_of_isColumnExpression hx c hmem] at hc
    cases hc

/-! ### Conditions of a dialect -/

/-- The text of a column expression of a table as values of some type. -/
def Resolved (table : String) (d : Dialect) (sql : String) : Prop :=
  ∃ expression type, Text.isColumnExpression expression = true ∧ d.resolve ⟨table, expression⟩ type = .ok sql

/-- A condition that a dialect writes for resolved columns of a table. -/
inductive Emitted (table : String) (d : Dialect) : Condition → Prop
  | test {sql name : String} (t : Test) : Resolved table d sql → (t.tag?.isSome → IsParamName name) →
    Emitted table d (t.condition d sql name)
  | freeText {columns : List String} {name : String} (term : String) (caseSensitive : Bool) : columns ≠ [] →
    (∀ sql ∈ columns, Resolved table d sql) → IsParamName name →
    Emitted table d (d.freeText columns name term caseSensitive)
  | fullText {columns : List String} {config name term : String} {form : TermSyntax} {c : Condition} : columns ≠ [] →
    (∀ sql ∈ columns, Resolved table d sql) → Text.isIdentifier config = true → IsParamName name →
    d.fullTextSearch columns config form name term = .ok c → Emitted table d c

namespace Query

/-! ### The invariant -/

/-- All that a query holds has passed the checks, and its conditions are those of its dialect. -/
structure WellFormed (q : Query) : Prop where
  table : Text.isIdentifier q.table = true
  dialect : q.dialect ∈ Dialect.known
  config : Text.isIdentifier q.settings.searchConfig = true
  selection : ∀ s ∈ q.selection, s.WellFormed
  conditions : ∀ c ∈ q.conditions, Emitted q.table q.dialect c
  sorts : ∀ e ∈ q.sorts, Resolved q.table q.dialect e.column

@[simp]
theorem table_emit (q : Query) (c : Column) (sql : String) (t : Test) : (q.emit c sql t).table = q.table := by
  unfold emit
  split <;> rfl

@[simp]
theorem dialect_emit (q : Query) (c : Column) (sql : String) (t : Test) : (q.emit c sql t).dialect = q.dialect := by
  unfold emit
  split <;> rfl

variable {q q' : Query}

theorem table_dialect_emitAll (q : Query) (c : Column) (sql : String) (tests : List Test) :
    (q.emitAll c sql tests).table = q.table ∧ (q.emitAll c sql tests).dialect = q.dialect := by
  induction tests generalizing q with
  | nil => exact ⟨rfl, rfl⟩
  | cons t tests ih =>
    have h := ih (q.emit c sql t)
    rwa [table_emit, dialect_emit] at h

theorem Change.table_dialect (h : q.Change q') : q'.table = q.table ∧ q'.dialect = q.dialect := by
  cases h with
  | @bind expression _ sql sort tests =>
    have h := q.table_dialect_emitAll ⟨q.table, expression⟩ sql tests
    cases sort <;> exact h
  | skip | select | search | searchFullText | paginate => exact ⟨rfl, rfl⟩

/-- A query stays on its table and in its dialect. -/
theorem table_dialect_perform (q : Query) (s : Step) :
    (s.perform q).table = q.table ∧ (s.perform q).dialect = q.dialect := by
  rcases s.change_or_count q with h | h
  · exact h.table_dialect
  · rw [h]
    exact ⟨rfl, rfl⟩

theorem dialect_run (q : Query) (steps : List Step) : (q.run steps).dialect = q.dialect := by
  induction steps generalizing q with
  | nil => rfl
  | cons s steps ih => exact (ih (s.perform q)).trans (q.table_dialect_perform s).2

theorem WellFormed.push (h : q.WellFormed) {c : Condition} (hc : Emitted q.table q.dialect c) :
    (q.push c).WellFormed := by
  refine ⟨h.table, h.dialect, h.config, h.selection, ?_, h.sorts⟩
  intro x hx
  rcases List.mem_append.1 hx with hx | hx
  · exact h.conditions x hx
  · rw [List.mem_singleton.1 hx]
    exact hc

theorem WellFormed.emit (h : q.WellFormed) {c : Column} {sql : String} (hr : Resolved q.table q.dialect sql)
    (t : Test) : (q.emit c sql t).WellFormed := by
  unfold Query.emit
  split
  · rename_i ht
    exact h.push (.test t hr (by rw [ht]; exact fun h => (nomatch h)))
  · -- the counts are no part of what is checked
    rename_i tag ht
    have hq : ({ q with namer := (q.namer.next c tag).2 } : Query).WellFormed :=
      ⟨h.table, h.dialect, h.config, h.selection, h.conditions, h.sorts⟩
    refine hq.push (.test t hr fun _ => isParamName_nameOf _ _ _ ?_ ?_)
    · exact fun _ => Column.isWordChar_of_mem_paramPrefix
    · exact fun c hc => isWordChar_of_isLower (Test.isLower_of_mem_tag ht c hc)

theorem WellFormed.emitAll (h : q.WellFormed) {c : Column} {sql : String} (hr : Resolved q.table q.dialect sql)
    (tests : List Test) : (q.emitAll c sql tests).WellFormed := by
  induction tests generalizing q with
  | nil => exact h
  | cons t tests ih => exact ih (h.emit hr t) (by rwa [table_emit, dialect_emit])

theorem WellFormed.sortedBy (h : q.WellFormed) {sql : String} (hr : Resolved q.table q.dialect sql)
    (sort : Option SortKey) : (q.sortedBy sql sort).WellFormed := by
  cases sort with
  | none => exact h
  | some key =>
    refine ⟨h.table, h.dialect, h.config, h.selection, h.conditions, ?_⟩
    intro e he
    rcases List.mem_append.1 he with he | he
    · exact h.sorts e he
    · rw [List.mem_singleton.1 he]
      exact hr

private theorem resolved_of_resolveTexts {columns resolved : List String} (hne : columns ≠ [])
    (hc : ∀ c ∈ columns, Text.isColumnExpression c = true) (h : q.resolveTexts columns = .ok resolved) :
    resolved ≠ [] ∧ ∀ sql ∈ resolved, Resolved q.table q.dialect sql := by
  obtain ⟨hlen, hmem⟩ := mapM_eq_ok h
  refine ⟨?_, ?_⟩
  · rintro rfl
    exact hne (List.eq_nil_of_length_eq_zero hlen.symm)
  · intro sql hsql
    obtain ⟨c, hcm, hr⟩ := hmem sql hsql
    exact ⟨c, .text, hc c hcm, hr⟩

theorem isParamName_search (k : Nat) : IsParamName ("_Search_" ++ toString k) :=
  isParamName_nameOf "" "Search" k (fun _ h => nomatch h) (List.all_eq_true.1 rfl)

theorem isParamName_fullText (k : Nat) : IsParamName ("_FullText_" ++ toString k) :=
  isParamName_nameOf "" "FullText" k (fun _ h => nomatch h) (List.all_eq_true.1 rfl)

theorem WellFormed.change (h : q.WellFormed) (hq : q.Change q') : q'.WellFormed := by
  cases hq with
  | skip => exact h
  | select _ hs =>
    refine ⟨h.table, h.dialect, h.config, ?_, h.conditions, h.sorts⟩
    intro s hs'
    cases hs'
    exact hs
  | bind tests hexpr hsql _ =>
    have hr : Resolved q.table q.dialect _ := ⟨_, _, hexpr, hsql⟩
    obtain ⟨ht, hd⟩ := q.table_dialect_emitAll ⟨q.table, _⟩ _ tests
    exact (h.emitAll hr tests).sortedBy (by rwa [ht, hd]) _
  | search f hne hc hr =>
    obtain ⟨hne, hres⟩ := resolved_of_resolveTexts hne hc hr
    have hq : ({ q with searches := q.searches + 1 } : Query).WellFormed :=
      ⟨h.table, h.dialect, h.config, h.selection, h.conditions, h.sorts⟩
    exact hq.push (.freeText f.term f.caseSensitive hne hres (isParamName_search q.searches))
  | searchFullText hne hc hr hconfig hcond =>
    obtain ⟨hne, hres⟩ := resolved_of_resolveTexts hne hc hr
    have hq : ({ q with fullTextSearches := q.fullTextSearches + 1 } : Query).WellFormed :=
      ⟨h.table, h.dialect, h.config, h.selection, h.conditions, h.sorts⟩
    have hid : Text.isIdentifier _ = true := hconfig.elim id fun he => he ▸ h.config
    exact hq.push (.fullText hne hres hid (isParamName_fullText q.fullTextSearches) hcond)
  | paginate p => exact ⟨h.table, h.dialect, h.config, h.selection, h.conditions, h.sorts⟩

theorem WellFormed.countQuery (h : q.WellFormed) : q.countQuery.WellFormed := by
  refine ⟨h.table, h.dialect, h.config, ?_, h.conditions, fun e he => nomatch he⟩
  intro s hs
  cases hs
  trivial

theorem Created.wellFormed (h : q.Created) : q.WellFormed := by
  obtain ⟨ht, hd, hs, hq⟩ := h.isBlank
  rw [hq]
  refine ⟨ht, hd, hs, ?_, ?_, ?_⟩
  · exact fun s hs => nomatch hs
  · exact fun c hc => nomatch hc
  · exact fun e he => nomatch he

/-- Reachable queries are well formed. -/
theorem Reachable.wellFormed (h : q.Reachable) : q.WellFormed :=
  h.of_changes (fun _ h => h.wellFormed) (fun _ _ h hq => h.change hq) (fun _ h => h.countQuery)

end Query

end SqlFilter
