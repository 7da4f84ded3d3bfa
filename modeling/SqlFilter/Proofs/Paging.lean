import SqlFilter.Proofs.History
import SqlFilter.Proofs.Requirements

/-!
# Pages are exact

The number of rows before a page is computed in 64 bits, and there is a number to fall back on if it does not fit.

* (arithmetic) with a page number that is positive, the offset is the exact product if it fits
  (`PageFilter.checkedOffset_eq_some`), and a page without faults has one that fits (`PageFilter.Consistent.exact`);
* (invariant) so the page of a query, once it is chosen, has a positive length and skips a whole number of pages
  (`Paging.IsExact`), which is kept by every step (`Query.isExact_step`) and holds after every run
  (`Query.Reachable.isExact`).
-/

namespace SqlFilter

/-! ### Offsets -/

/-- An integer is taken as one of 64 bits if and only if there is one of that value. -/
theorem int64?_eq_some {n : Int} {m : Int64} : int64? n = some m ↔ m.toInt = n := by
  have hlow := Int64.minValue_le_toInt m
  have hhigh := Int64.toInt_le m
  unfold int64?
  constructor
  · intro h
    split at h
    · rename_i hn
      have hm : Int64.ofInt n = m := Option.some.inj h
      rw [← hm, Int64.toInt_ofInt_of_le hn.1 (Int.lt_add_one_of_le hn.2)]
    · cases h
  · rintro rfl
    rw [if_pos ⟨hlow, hhigh⟩, Int64.ofInt_toInt]

private theorem toInt_pos {x : Int64} (h : 0 < x) : 0 < x.toInt := by
  simpa using Int64.lt_iff_toInt_lt.1 h

namespace PageFilter

variable {f : PageFilter}

theorem checkedOffset_eq_some (hpage : 0 < f.page) {o : Int64} :
    f.checkedOffset = some o ↔ o.toInt = f.limit.toInt * (f.page.toInt - 1) := by
  have hpos := toInt_pos hpage
  -- the number of earlier pages fits, as it is at least 0 and less than the page
  have hbefore : int64? (f.page.toInt - 1) = some (Int64.ofInt (f.page.toInt - 1)) ∧
      (Int64.ofInt (f.page.toInt - 1)).toInt = f.page.toInt - 1 := by
    have hhigh := Int64.toInt_le f.page
    have hmin : Int64.minValue.toInt ≤ 0 := by decide
    have hmax : Int64.maxValue.toInt = 9223372036854775807 := by decide
    have hvalue : (Int64.ofInt (f.page.toInt - 1)).toInt = f.page.toInt - 1 :=
      Int64.toInt_ofInt_of_le (by omega) (by omega)
    exact ⟨int64?_eq_some.2 hvalue, hvalue⟩
  simp only [checkedOffset, hbefore.1, Option.bind_eq_bind, Option.bind_some, hbefore.2]
  exact int64?_eq_some

/-- A page without faults has the number of rows before it, exactly. -/
theorem Consistent.exact {cap : Option Int64} (h : f.Consistent cap) :
    f.checkedOffset = some f.offset ∧ f.offset.toInt = f.limit.toInt * (f.page.toInt - 1) := by
  have hvalue : (Int64.ofInt (f.limit.toInt * (f.page.toInt - 1))).toInt = f.limit.toInt * (f.page.toInt - 1) :=
    Int64.toInt_ofInt_of_le h.offset.1 (Int.lt_add_one_of_le h.offset.2)
  have hchecked := (checkedOffset_eq_some h.page).2 hvalue
  have hoffset : f.offset = Int64.ofInt (f.limit.toInt * (f.page.toInt - 1)) := by
    rw [PageFilter.offset, hchecked, Option.getD_some]
  rw [hoffset]
  exact ⟨hchecked, hvalue⟩

/-- The offset cannot be below what 64 bits hold, so only its upper bound counts. -/
theorem findings_eq_nil_iff {cap : Option Int64} :
    f.findings cap = [] ↔ 0 < f.limit ∧ 0 < f.page ∧ f.limit.toInt * (f.page.toInt - 1) ≤ 9223372036854775807 ∧
      ∀ m ∈ cap, f.limit ≤ m := by
  have hmax : Int64.maxValue.toInt = 9223372036854775807 := by decide
  rw [findings_eq_nil, consistent_iff, Requirement.Fits, hmax]
  constructor
  · rintro ⟨hlimit, hpage, hoffset, hcap⟩
    exact ⟨hlimit, hpage, hoffset.2, hcap⟩
  · rintro ⟨hlimit, hpage, hoffset, hcap⟩
    have hlimit' := toInt_pos hlimit
    have hpage' := toInt_pos hpage
    have hnonneg : 0 ≤ f.limit.toInt * (f.page.toInt - 1) := Int.mul_nonneg (by omega) (by omega)
    have hmin : Int64.minValue.toInt ≤ 0 := by decide
    exact ⟨hlimit, hpage, ⟨Int.le_trans hmin hnonneg, hoffset⟩, hcap⟩

end PageFilter

/-! ### Exact pages -/

/-- The page is the one of some number: its offset is the length of all pages before it, and was computed as such. -/
def Paging.IsExact (p : Paging) : Prop :=
  ∃ f : PageFilter, f.limit = p.limit ∧ 0 < f.limit ∧ 0 < f.page ∧ f.checkedOffset = some p.offset

theorem PageFilter.Consistent.isExact {f : PageFilter} {cap : Option Int64} (h : f.Consistent cap) :
    Paging.IsExact ⟨f.limit, f.offset⟩ :=
  ⟨f, rfl, h.limit, h.page, h.exact.1⟩

theorem Paging.IsExact.offset {p : Paging} (h : p.IsExact) :
    0 < p.limit ∧ 0 ≤ p.offset ∧ ∃ page : Int64, 0 < page ∧ p.offset.toInt = p.limit.toInt * (page.toInt - 1) := by
  obtain ⟨f, hlimit, hpos, hpage, hchecked⟩ := h
  have hoffset := (PageFilter.checkedOffset_eq_some hpage).1 hchecked
  rw [hlimit] at hoffset hpos
  have hlimit' := toInt_pos hpos
  have hpage' := toInt_pos hpage
  have hnonneg : 0 ≤ p.offset.toInt := by
    rw [hoffset]
    exact Int.mul_nonneg (by omega) (by omega)
  exact ⟨hpos, Int64.le_iff_toInt_le.2 (by simpa using hnonneg), f.page, hpage, hoffset⟩

namespace Query

variable {q : Query}

/-- Choosing a page without faults replaces the page, and one with faults changes nothing. -/
theorem perform_paginate (q : Query) (f : PageFilter) (maxLimit : Option Int64) :
    (Call.paginate (some f) maxLimit).perform q =
      if f.findings (maxLimit.or q.settings.maxPageSize) = [] then
        (.ok (), { q with paging := some ⟨f.limit, f.offset⟩ })
      else
        (.error (.invalidFilter .page q.table "_Limit" (f.findings (maxLimit.or q.settings.maxPageSize))), q) := by
  have hor : (maxLimit <|> q.settings.maxPageSize) = maxLimit.or q.settings.maxPageSize := by
    cases maxLimit <;> rfl
  rw [Call.perform_eq]
  show settle q (checkFindings .page q.table "_Limit" (f.findings (maxLimit <|> q.settings.maxPageSize)) >>=
    fun _ => pure { q with paging := some ⟨f.limit, f.offset⟩ }) = _
  rw [hor]
  cases f.findings (maxLimit.or q.settings.maxPageSize) with
  | nil =>
    rw [if_pos rfl]
    rfl
  | cons e r =>
    rw [if_neg (List.cons_ne_nil e r)]
    rfl

/-- Every step keeps the page of a query exact. -/
theorem isExact_step (s : Step) (h : ∀ p, q.paging = some p → p.IsExact) :
    ∀ p, (s.perform q).paging = some p → p.IsExact := by
  cases s with
  | copy => exact h
  | count => exact fun p hp => nomatch hp
  | call c =>
    show ∀ p, (c.perform q).2.paging = some p → p.IsExact
    cases hpage : c.page? with
    | some chosen =>
      cases c with
      | paginate f maxLimit =>
        cases f with
        | none => cases hpage
        | some f =>
          rw [perform_paginate]
          split
          · rename_i hf
            rintro p ⟨⟩
            exact ((f.findings_eq_nil _).1 hf).isExact
          · exact h
      | _ => cases hpage
    | none =>
      -- a call that chooses no page leaves the page, whether it succeeds or not
      rw [Call.perform_eq]
      cases ho : c.outcome q with
      | error e => exact h
      | ok q' =>
        obtain ⟨a, -, hext⟩ := Call.extends_of_outcome ho
        have hsame : q'.paging = q.paging := by
          rw [hext.paging, hpage]
          rfl
        intro p hp
        exact h p (hsame ▸ hp)

theorem Reachable.isExact (h : q.Reachable) : ∀ p, q.paging = some p → p.IsExact := by
  induction h with
  | created hq =>
    obtain ⟨-, -, -, hblank⟩ := hq.isBlank
    rw [hblank]
    exact fun p hp => nomatch hp
  | step s _ ih => exact isExact_step s ih

/-- A page is chosen if and only if its length and number are positive, the rows before it can be counted in 64 bits,
and its length is within the limit of the call or else that of the settings.  The query then has the length and the
exact product, which was computed and not fallen back on; otherwise it keeps the page that it had.  So in every
reachable query the offset of the page is the exact length of a number of pages. -/
theorem paging_is_exact (q : Query) :
    (∀ (f : PageFilter) (maxLimit : Option Int64),
      let after := (Call.paginate (some f) maxLimit).perform q
      (after.1 = .ok () ↔
        0 < f.limit ∧ 0 < f.page ∧ f.limit.toInt * (f.page.toInt - 1) ≤ 9223372036854775807 ∧
          ∀ m ∈ maxLimit.or q.settings.maxPageSize, f.limit ≤ m) ∧
      (after.1 = .ok () → ∃ o : Int64, after.2.paging = some ⟨f.limit, o⟩ ∧ f.checkedOffset = some o ∧
        o.toInt = f.limit.toInt * (f.page.toInt - 1)) ∧
      (after.1 ≠ .ok () → after.2.paging = q.paging)) ∧
    (q.Reachable → ∀ p, q.paging = some p →
      0 < p.limit ∧ 0 ≤ p.offset ∧ p.limit.toInt ∣ p.offset.toInt ∧
        ∃ page : Int64, 0 < page ∧ p.offset.toInt = p.limit.toInt * (page.toInt - 1)) := by
  constructor
  · intro f maxLimit after
    have hafter : after = _ := perform_paginate q f maxLimit
    rw [← PageFilter.findings_eq_nil_iff, hafter]
    by_cases hf : f.findings (maxLimit.or q.settings.maxPageSize) = []
    · obtain ⟨hchecked, hvalue⟩ := ((f.findings_eq_nil _).1 hf).exact
      rw [if_pos hf]
      exact ⟨iff_of_true rfl hf, fun _ => ⟨f.offset, rfl, hchecked, hvalue⟩, fun hne => absurd rfl hne⟩
    · rw [if_neg hf]
      exact ⟨iff_of_false nofun hf, nofun, fun _ => rfl⟩
  · intro h p hp
    obtain ⟨hlimit, hoffset, page, hpage, hexact⟩ := (h.isExact p hp).offset
    exact ⟨hlimit, hoffset, ⟨page.toInt - 1, hexact⟩, page, hpage, hexact⟩

/-- The greatest offset of all is stored where it is the exact one, and the page after that is refused. -/
theorem paging_is_exact_last :
    let q : Query := { table := "users", dialect := .postgres, settings := { maxPageSize := some 50 } }
    let q' := q.run [.call (.paginate (some ⟨10, 3⟩) none)]
    q'.Reachable ∧ q'.paging = some ⟨10, 20⟩ ∧ (10 : Int64).toInt ∣ (20 : Int64).toInt ∧
      ((Call.paginate (some ⟨7, 1317624576693539402⟩) none).perform q').2.paging = some ⟨7, Int64.maxValue⟩ ∧
      ((Call.paginate (some ⟨7, 1317624576693539403⟩) (some 9)).perform q').2.paging = some ⟨10, 20⟩ := by
  intro q q'
  have hnew : Query.withSettings "users" { maxPageSize := some 50 } = .ok q := rfl
  have hq : q'.Reachable := (Reachable.created (.withSettings hnew)).run _
  have hpaging : q'.paging = some ⟨10, 20⟩ := by decide +kernel
  obtain ⟨hpage, hexact⟩ := paging_is_exact q'
  obtain ⟨hlast, hstored, -⟩ := hpage ⟨7, 1317624576693539402⟩ none
  obtain ⟨hnext, -, hkept⟩ := hpage ⟨7, 1317624576693539403⟩ (some 9)
  obtain ⟨-, -, hdvd, -⟩ := hexact hq _ hpaging
  refine ⟨hq, hpaging, hdvd, ?_, ?_⟩
  · have hcap : ∀ m ∈ (none : Option Int64).or q'.settings.maxPageSize, (7 : Int64) ≤ m := by
      rintro m ⟨⟩
      decide
    obtain ⟨o, ho, -, hvalue⟩ := hstored (hlast.2 ⟨by decide, by decide, by decide, hcap⟩)
    have hmax : o = Int64.maxValue := Int64.toInt_inj.1 hvalue
    rw [ho, hmax]
  · rw [hkept, hpaging]
    rw [Ne, hnext]
    rintro ⟨-, -, hfits, -⟩
    exact absurd hfits (by decide)

end Query

end SqlFilter
