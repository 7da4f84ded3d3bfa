import SqlFilter.Query.Call

/-!
# What checks ensure

A chain of checks succeeds if and only if each of its checks does.  So a name, a column, a list of columns to select or
a filter that passes its check has the form that was checked for.
-/

namespace SqlFilter

/-! ### Chains of checks -/

private theorem not_isIdentifier_empty : Text.isIdentifier "" = false := rfl

private theorem not_isColumnExpression_empty : Text.isColumnExpression "" = false := rfl

theorem checkIdentifier_eq_ok {s : String} : checkIdentifier s = .ok () ↔ Text.isIdentifier s = true := by
  unfold checkIdentifier
  by_cases hs : s = ""
  · subst hs
    simp [not_isIdentifier_empty]
  · cases h : Text.isIdentifier s <;> simp [hs]

theorem checkColumn_eq_ok {s : String} : checkColumn s = .ok () ↔ Text.isColumnExpression s = true := by
  unfold checkColumn
  by_cases hs : s = ""
  · subst hs
    simp [not_isColumnExpression_empty]
  · cases h : Text.isColumnExpression s <;> simp [hs]

theorem bind_eq_ok {ε α β : Type} {r : Except ε α} {f : α → Except ε β} {y : β} :
    (r >>= f) = .ok y ↔ ∃ x, r = .ok x ∧ f x = .ok y := by
  constructor
  · intro h
    cases r with
    | error e => cases h
    | ok x => exact ⟨x, rfl, h⟩
  · rintro ⟨x, rfl, h⟩
    exact h

theorem forM_eq_ok {ε α : Type} {check : α → Except ε Unit} {l : List α} :
    l.forM check = .ok () ↔ ∀ x ∈ l, check x = .ok () := by
  induction l with
  | nil => exact iff_of_true rfl (fun x hx => nomatch hx)
  | cons x l ih =>
    show (check x >>= fun _ => l.forM check) = .ok () ↔ _
    rw [bind_eq_ok]
    simp only [ih, List.mem_cons, forall_eq_or_imp]
    constructor
    · rintro ⟨_, hx, hl⟩
      exact ⟨hx, hl⟩
    · rintro ⟨hx, hl⟩
      exact ⟨(), hx, hl⟩

theorem mapM_eq_ok {ε α β : Type} {f : α → Except ε β} {l : List α} {l' : List β} (h : l.mapM f = .ok l') :
    l'.length = l.length ∧ ∀ y ∈ l', ∃ x ∈ l, f x = .ok y := by
  induction l generalizing l' with
  | nil =>
    cases h
    exact ⟨rfl, fun y hy => nomatch hy⟩
  | cons x l ih =>
    rw [List.mapM_cons, bind_eq_ok] at h
    obtain ⟨y, hy, h⟩ := h
    obtain ⟨r, hr, h⟩ := bind_eq_ok.1 h
    cases h
    obtain ⟨hlen, hmem⟩ := ih hr
    refine ⟨congrArg (· + 1) hlen, ?_⟩
    intro z hz
    rcases List.mem_cons.1 hz with rfl | hz
    · exact ⟨x, List.mem_cons_self .., hy⟩
    · obtain ⟨w, hw, hwz⟩ := hmem z hz
      exact ⟨w, List.mem_cons_of_mem _ hw, hwz⟩

/-- Nothing is lost in a list whose elements all pass. -/
theorem exists_mem_of_mapM {ε α β : Type} {f : α → Except ε β} {l : List α} {l' : List β} (h : l.mapM f = .ok l')
    {x : α} (hx : x ∈ l) : ∃ y ∈ l', f x = .ok y := by
  induction l generalizing l' with
  | nil => cases hx
  | cons z l ih =>
    rw [List.mapM_cons, bind_eq_ok] at h
    obtain ⟨y, hy, h⟩ := h
    obtain ⟨r, hr, h⟩ := bind_eq_ok.1 h
    cases h
    rcases List.mem_cons.1 hx with rfl | hx
    · exact ⟨y, List.mem_cons_self, hy⟩
    · obtain ⟨w, hw, hxw⟩ := ih hr hx
      exact ⟨w, List.mem_cons_of_mem y hw, hxw⟩

theorem checkFindings_eq_ok {kind : FilterKind} {table label : String} {findings : List Finding} :
    checkFindings kind table label findings = .ok () ↔ findings = [] := by
  cases findings with
  | nil => exact iff_of_true rfl rfl
  | cons f r => exact iff_of_false (fun h => nomatch h) (List.cons_ne_nil f r)

/-- A filter that passes has a table and columns of the form that names have, and no faults. -/
theorem checkFilter_eq_ok {kind : FilterKind} {table : String} {columns : List String} {findings : List Finding} :
    checkFilter kind table columns findings = .ok () ↔
      Text.isIdentifier table = true ∧ (∀ c ∈ columns, Text.isColumnExpression c = true) ∧ findings = [] := by
  unfold checkFilter
  rw [bind_eq_ok]
  constructor
  · rintro ⟨_, ht, h⟩
    obtain ⟨_, hc, h⟩ := bind_eq_ok.1 h
    refine ⟨checkIdentifier_eq_ok.1 ht, ?_, checkFindings_eq_ok.1 h⟩
    exact fun c hcm => checkColumn_eq_ok.1 (forM_eq_ok.1 hc c hcm)
  · rintro ⟨ht, hc, hf⟩
    refine ⟨(), checkIdentifier_eq_ok.2 ht, bind_eq_ok.2 ⟨(), ?_, checkFindings_eq_ok.2 hf⟩⟩
    exact forM_eq_ok.2 fun c hcm => checkColumn_eq_ok.2 (hc c hcm)

theorem checkPresent_eq_ok {α : Type} {kind : FilterKind} {table label : String} {allowAbsent : Bool} {f g : Option α}
    (h : checkPresent kind table label allowAbsent f = .ok g) : g = f := by
  cases f with
  | some x => cases h; rfl
  | none =>
    cases allowAbsent with
    | true => cases h; rfl
    | false => cases h

/-! ### Columns to select -/

/-- An item of a list of columns passes its check. -/
def SelectItem.WellFormed (i : SelectItem) : Prop :=
  Text.isColumnExpression i.expression = true ∧ ∀ n ∈ i.outputName, Text.isIdentifier n = true

/-- What is selected passes its checks. -/
def Selection.WellFormed : Selection → Prop
  | all | count => True
  | columns items => items ≠ [] ∧ ∀ i ∈ items, i.WellFormed

theorem Action.checkItem_eq_ok {i : SelectItem} : checkItem i = .ok () ↔ i.WellFormed := by
  unfold checkItem SelectItem.WellFormed
  rw [bind_eq_ok, ← checkColumn_eq_ok]
  constructor
  · rintro ⟨_, hc, hn⟩
    exact ⟨hc, fun n hn' => checkIdentifier_eq_ok.1 (forM_eq_ok.1 hn n (Option.mem_toList.2 hn'))⟩
  · rintro ⟨hc, hn⟩
    exact ⟨(), hc, forM_eq_ok.2 fun n hn' => checkIdentifier_eq_ok.2 (hn n (Option.mem_toList.1 hn'))⟩

end SqlFilter
