import SqlFilter.Proofs.ConditionText
import SqlFilter.Query.Render

/-!
# The text of statements

The clauses of a statement are fragments that are apart from each other, so a statement that is rendered is a fragment
with balanced parentheses.  Its placeholders are those of the conditions, in order, and then those of the page
(`Query.WellFormed.exists_fragment`).
-/

namespace SqlFilter

variable {escapes : Bool}

/-! ### The selection -/

theorem SelectItem.fragment {table : String} {i : SelectItem} (ht : Text.isIdentifier table = true)
    (hi : i.WellFormed) : Fragment escapes 0 [] (i.sql table).toList := by
  have hc : Fragment escapes 0 [] (table ++ "." ++ i.expression).toList := fragment_qualified ht hi.1
  unfold SelectItem.sql
  split
  · rename_i name hname
    have has : Fragment escapes 0 [] (" AS ".toList ++ name.toList) :=
      .lead rfl (fragment_of_isIdentifier (hi.2 name hname))
    have h := hc.append has rfl
    simpa using h
  · exact hc

theorem Selection.fragment {table : String} {s : Selection} (ht : Text.isIdentifier table = true)
    (hs : s.WellFormed) : Fragment escapes 0 [] (s.sql table).toList := by
  cases s with
  | all =>
    rw [Selection.sql, String.toList_append]
    exact .word (Text.isWordChar_of_isIdentifier ht).2 (.lead (w := ".*".toList) rfl .nil)
  | count =>
    have h : Fragment escapes 0 [] ("COUNT(*)".toList ++ []) := .lead rfl .nil
    rwa [List.append_nil] at h
  | columns items =>
    have h : Fragment escapes 0 _ _ := fragment_intercalate ", " (SelectItem.sql table) (fun _ => [])
      (fun hs => .lead rfl hs) (fun _ => rfl) fun i hi => SelectItem.fragment ht (hs.2 i hi)
    rwa [List.flatMap_eq_nil_iff.2 fun _ _ => rfl] at h

/-! ### The clauses -/

namespace Query

variable {q : Query}

/-- A query of which something is selected is rendered. -/
theorem exists_render (h : q.selection.isSome = true) : ∃ st, q.render = .ok st ∧ st.params = q.allParams := by
  obtain ⟨s, hs⟩ := Option.isSome_iff_exists.1 h
  rw [render, hs]
  exact ⟨_, rfl, rfl⟩

/-- The placeholders of the page. -/
def pageMarks (q : Query) : List String :=
  if q.paging.isSome then q.dialect.marks Action.limitParam ++ q.dialect.marks Action.offsetParam else []

theorem WellFormed.fragment_orderClause (h : q.WellFormed) : Fragment escapes 0 [] q.orderClause.toList := by
  unfold orderClause
  split
  · exact .nil
  · have hentry : ∀ e ∈ q.orderedSorts, Fragment escapes 0 []
        (Dialect.orderBy e.column e.key.descending).toList := by
      intro e he
      have hc : Fragment escapes 0 [] e.column.toList :=
        (h.sorts e (List.mem_mergeSort.1 he)).fragment h.dialect h.table
      have hdir : Fragment escapes 0 [] ((if e.key.descending then " DESC" else " ASC").toList ++ []) := by
        cases e.key.descending <;> exact .lead rfl .nil
      have := hc.append hdir (by cases e.key.descending <;> rfl)
      simpa [Dialect.orderBy] using this
    have hall := fragment_intercalate ", " _ (fun _ => []) (fun hs => .lead rfl hs) (fun _ => rfl) hentry
    rw [List.flatMap_eq_nil_iff.2 fun _ _ => rfl] at hall
    rw [String.toList_append]
    exact .lead rfl hall

theorem WellFormed.fragment_pagingClause (h : q.WellFormed) :
    Fragment escapes 0 q.pageMarks q.pagingClause.toList := by
  unfold pagingClause pageMarks
  split
  · have hlimit : IsParamName Action.limitParam := ⟨by decide, List.all_eq_true.1 rfl⟩
    have hoffset : IsParamName Action.offsetParam := ⟨by decide, List.all_eq_true.1 rfl⟩
    have ho : Fragment escapes 0 (q.dialect.marks Action.offsetParam ++ []) _ :=
      .lead (w := " OFFSET ".toList) rfl (.param h.dialect hoffset .nil rfl)
    have hl : Fragment escapes 0 _ _ :=
      .lead (w := " LIMIT ".toList) rfl (.param h.dialect hlimit ho rfl)
    simpa [Dialect.paging] using hl
  · exact .nil

/-- The WHERE clause has the placeholders of the conditions, in order. -/
theorem WellFormed.exists_fragment_whereClause (h : q.WellFormed) :
    ∃ mentioned : Condition → List String, (∀ c ∈ q.conditions, Mentions q.dialect c.param (mentioned c)) ∧
      Fragment q.dialect.namesEscape 0 (q.conditions.flatMap mentioned) q.whereClause.toList := by
  have hex : ∀ c, ∃ names, c ∈ q.conditions →
      Mentions q.dialect c.param names ∧ Fragment q.dialect.namesEscape 0 names c.sql.toList := by
    intro c
    by_cases hc : c ∈ q.conditions
    · obtain ⟨names, hn⟩ := (h.conditions c hc).exists_fragment h.dialect h.table
      exact ⟨names, fun _ => hn⟩
    · exact ⟨[], fun hc' => absurd hc' hc⟩
  obtain ⟨mentioned, hm⟩ := Classical.skolem.1 hex
  refine ⟨mentioned, fun c hc => (hm c hc).1, ?_⟩
  unfold whereClause
  split
  · rename_i hnil
    rw [List.isEmpty_iff.1 hnil]
    exact .nil
  · have hall := fragment_intercalate " AND " Condition.sql mentioned (fun hs => .lead rfl hs) (fun _ => rfl)
      fun c hc => (hm c hc).2
    rw [String.toList_append]
    exact .lead rfl hall

private theorem isApart_clauses (q : Query) : isApart q.whereClause.toList = true ∧
    isApart q.orderClause.toList = true ∧ isApart q.pagingClause.toList = true := by
  refine ⟨?_, ?_, ?_⟩
  · unfold whereClause
    split
    · rfl
    · rw [String.toList_append]
      rfl
  · unfold orderClause
    split
    · rfl
    · rw [String.toList_append]
      rfl
  · unfold pagingClause
    split
    · rw [String.toList_append]
      rfl
    · rfl

/-- A statement that is rendered is a fragment with the placeholders of the conditions, in order, and then those of the
page. -/
theorem WellFormed.exists_fragment (h : q.WellFormed) {st : Statement} (hr : q.render = .ok st) :
    ∃ mentioned : Condition → List String, (∀ c ∈ q.conditions, Mentions q.dialect c.param (mentioned c)) ∧
      Fragment q.dialect.namesEscape 0 (q.conditions.flatMap mentioned ++ q.pageMarks) st.sql.toList := by
  obtain ⟨mentioned, hm, hwhere⟩ := h.exists_fragment_whereClause
  obtain ⟨haw, hao, hap⟩ := q.isApart_clauses
  refine ⟨mentioned, hm, ?_⟩
  unfold render at hr
  split at hr
  · cases hr
  · rename_i s hs
    cases hr
    have horder : Fragment q.dialect.namesEscape 0 [] (if s = .count then "" else q.orderClause).toList ∧
        isApart (if s = .count then "" else q.orderClause).toList = true := by
      split
      · exact ⟨.nil, rfl⟩
      · exact ⟨h.fragment_orderClause, hao⟩
    -- from the right: each clause is put in front of what follows it
    have hrest := hwhere.append (horder.1.append h.fragment_pagingClause hap) (isApart_append horder.2 hap)
    have hfrom : Fragment q.dialect.namesEscape 0 _ (" FROM ".toList ++ (q.table.toList ++ _)) :=
      .lead rfl (.word (Text.isWordChar_of_isIdentifier h.table).2 hrest)
    have hsel := (Selection.fragment h.table (h.selection s hs)).append hfrom rfl
    have hall := Fragment.lead (d := 0) (w := "SELECT ".toList) rfl hsel
    simpa using hall

end Query

end SqlFilter
