import SqlFilter.Proofs.Signs
import SqlFilter.Proofs.StatementText

/-!
# Numbered statements

A statement that is rendered has the names of its parameters in the order of the bag, each at least once.  So numbering
its placeholders gives the values of the bag, and putting the names of the bag in place of the numbers gives the
statement back (`Query.positional_conversion_is_lossless`).
-/

namespace SqlFilter

/-! ### Names of conditions -/

/-- The names of conditions are noted in the order of the conditions. -/
theorem noted_conditions {dialect : Dialect} (hd : dialect.sigil = '@') {mentioned : Condition → List String}
    {cs : List Condition} (hm : ∀ c ∈ cs, Mentions dialect c.param (mentioned c)) {seen : List String}
    (hn : (seen ++ (cs.filterMap Condition.param).map Prod.fst).Nodup) :
    Statement.noted seen (cs.flatMap mentioned) = seen ++ (cs.filterMap Condition.param).map Prod.fst := by
  induction cs generalizing seen with
  | nil => exact (List.append_nil seen).symm
  | cons c cs ih =>
    rw [List.forall_mem_cons] at hm
    obtain ⟨⟨hmem, hsome⟩, hcs⟩ := hm
    rw [List.flatMap_cons, Statement.noted_append]
    cases hc : c.param with
    | none =>
      -- without a parameter there is no name that the condition could mention
      have hnone : mentioned c = [] := by
        refine List.eq_nil_iff_forall_not_mem.2 fun m hm => ?_
        have := hmem m hm
        rw [hc] at this
        cases this
      rw [List.filterMap_cons, hc] at hn ⊢
      rw [hnone]
      exact ih hcs hn
    | some p =>
      rw [List.filterMap_cons, hc] at hn ⊢
      dsimp only at hn ⊢
      rw [List.map_cons] at hn
      have heq : ∀ m ∈ mentioned c, m = p.1 := by
        intro m hm
        have := hmem m hm
        rw [hc] at this
        exact (Option.some.inj this).symm
      have hne : mentioned c ≠ [] := hsome hd (by rw [hc]; rfl)
      have hnew : p.1 ∉ seen := Statement.notMem_of_nodup hn
      rw [Statement.noted_of_forall_eq heq hne hnew, List.map_cons]
      rw [List.append_cons] at hn
      rw [ih hcs hn, ← List.append_cons]

theorem Params.filterMap_get?_names {p : Params} (h : p.names.Nodup) : p.names.filterMap p.get? = p.values :=
  Statement.filterMap_get? fun _ he => Named.lookup_of_mem h he

/-! ### Rendered statements -/

namespace Query

/-- The parameters of the page. -/
def pageEntries (q : Query) : List (String × Value) :=
  match q.paging with
  | some p => [(Action.limitParam, .int64 p.limit), (Action.offsetParam, .int64 p.offset)]
  | none => []

variable {q : Query}

/-- The bag of a statement has the parameters of the conditions and then those of the page. -/
theorem Named.entries_allParams (h : q.Named) : q.allParams.entries = q.bound ++ q.pageEntries := by
  unfold allParams pageEntries
  cases q.paging with
  | none => rw [h.entries, List.append_nil]
  | some p =>
    have hl : Action.limitParam ∉ q.params.names := by
      rw [Params.names, h.entries]
      exact fun hm => (h.ne_page _ hm).1 rfl
    have ho : Action.offsetParam ∉ (q.params.set Action.limitParam (.int64 p.limit)).names := by
      rw [Params.names_set, if_neg hl, Params.names, h.entries, List.mem_append, List.mem_singleton]
      rintro (hm | hm)
      · exact (h.ne_page _ hm).2 rfl
      · exact absurd hm (by decide)
    dsimp only
    rw [Params.entries_set_of_notMem ho, Params.entries_set_of_notMem hl, h.entries, List.append_assoc]
    rfl

theorem Named.nodup_allParams (h : q.Named) : q.allParams.names.Nodup := by
  have hpage : ∀ n ∈ q.pageEntries.map Prod.fst, n = Action.limitParam ∨ n = Action.offsetParam := by
    unfold pageEntries
    split
    · exact fun n hn => by simpa using hn
    · exact fun n hn => nomatch hn
  have hnodup : (q.pageEntries.map Prod.fst).Nodup := by
    unfold pageEntries
    split
    · show [Action.limitParam, Action.offsetParam].Nodup
      decide
    · exact List.nodup_nil
  rw [Params.names, h.entries_allParams, List.map_append]
  refine List.nodup_append.2 ⟨h.nodup, hnodup, ?_⟩
  intro a ha b hb hab
  rw [← hab] at hb
  rcases hpage a hb with hp | hp
  · exact (h.ne_page a ha).1 hp
  · exact (h.ne_page a ha).2 hp

/-- The names of a statement are noted in the order of its bag. -/
theorem Named.noted_eq (h : q.Named) (hd : q.dialect.sigil = '@') {mentioned : Condition → List String}
    (hm : ∀ c ∈ q.conditions, Mentions q.dialect c.param (mentioned c)) :
    Statement.noted [] (q.conditions.flatMap mentioned ++ q.pageMarks) = q.allParams.names := by
  have hpage : q.pageMarks = q.pageEntries.map Prod.fst := by
    have hmark : ∀ n, q.dialect.marks n = [n] := fun n => if_pos hd
    unfold pageMarks pageEntries
    rw [hmark, hmark]
    cases q.paging <;> rfl
  have hnodup := h.nodup_allParams
  rw [Params.names, h.entries_allParams, List.map_append] at hnodup ⊢
  have hc : Statement.noted [] (q.conditions.flatMap mentioned) = q.bound.map Prod.fst :=
    noted_conditions hd hm h.nodup
  rw [Statement.noted_append, hc, hpage]
  exact Statement.noted_of_nodup hnodup

/-- Over a dialect that marks parameters by `@` a query of which something is selected is rendered, and numbering its
placeholders succeeds: the values are those of the bag, in order, the last two those of the page; each number from 1 to
that of the values occurs; and putting the names of the bag in place of the numbers gives the statement back. -/
theorem positional_conversion_is_lossless (h : q.Reachable) (hd : q.dialect ∈ [Dialect.postgres, .plain, .ansi])
    (hs : q.selection.isSome = true) :
    ∃ st p, q.render = .ok st ∧ st.toPositional = .ok p ∧ p.params = st.params.values ∧
      st.params.entries = q.bound ++ q.pageEntries ∧
      (∀ k, k ∈ indices p.sql ↔ 1 ≤ k ∧ k ≤ p.params.length) ∧ restore st.params.names p.sql = st.sql := by
  have hsigil : q.dialect.sigil = '@' := by
    simp only [List.mem_cons, List.not_mem_nil, or_false] at hd
    rcases hd with hd | hd | hd <;> rw [hd] <;> rfl
  obtain ⟨st, hr, hparams⟩ := exists_render hs
  obtain ⟨mentioned, hm, hf⟩ := h.wellFormed.exists_fragment hr
  have hnoted := h.named.noted_eq hsigil hm
  rw [← hparams] at hnoted
  have hnodup : st.params.names.Nodup := by
    rw [hparams]
    exact h.named.nodup_allParams
  have hmem : ∀ n ∈ q.conditions.flatMap mentioned ++ q.pageMarks, n ∈ st.params.names := by
    intro n hn
    rw [← hnoted]
    exact Statement.mem_noted.2 (.inr hn)
  -- the scanner finds the names that the conditions mention, and notes them in the order of the bag
  have hnames := hf.filterMap_name?
  have hvalue : ∀ n ∈ (Piece.ofChars st.sql.toList).filterMap Piece.name?, (st.params.get? n).isSome = true := by
    rw [hnames]
    intro n hn
    obtain ⟨e, he, rfl⟩ := List.mem_map.1 (hmem n hn)
    rw [Params.get?, Named.lookup_of_mem hnodup he]
    rfl
  have hall : Statement.noted [] ((Piece.ofChars st.sql.toList).filterMap Piece.name?) = st.params.names := by
    rw [hnames]
    exact hnoted
  have hp := Statement.toPositional_eq hvalue hall
  rw [← Piece.flatMap_written_atoms] at hp
  obtain ⟨hrestore, hindex⟩ := hf.restores hmem
  refine ⟨st, _, hr, hp, Params.filterMap_get?_names hnodup, ?_, ?_, ?_⟩
  · rw [hparams]
    exact h.named.entries_allParams
  · intro k
    have hlen : (st.params.names.filterMap st.params.get?).length = st.params.names.length := by
      rw [Params.filterMap_get?_names hnodup, Params.values, Params.names, List.length_map, List.length_map]
    rw [indices, String.toList_ofList, hlen]
    rw [positionalText] at hindex
    rw [hindex, ← hnoted]
    exact Statement.mem_map_idxOf_noted
  · rw [restore, String.toList_ofList]
    exact (congrArg String.ofList hrestore).trans String.ofList_toList

/-- A search over two columns, whose parameter the statement mentions twice, with a full text search and a page. -/
theorem positional_conversion_is_lossless_users :
    let q : Query := { table := "users", dialect := .postgres, settings := {} }
    let q' := q.run [.call .selectAll, .call (.search ["name", "meta->'a'"] (some { term := "x" })),
      .call (.bindText "name" (some { eq := some "y" }) {}), .call (.searchFullText ["name"] (some { term := "z" })),
      .call (.paginate (some { limit := 10, page := 2 }) none)]
    q'.Reachable ∧ q'.dialect = .postgres ∧ q'.selection.isSome = true ∧
      ∃ st p, q'.render = .ok st ∧ st.toPositional = .ok p ∧
        st.params.names = ["_Search_0", "users_name_eq_0", "_FullText_0", "_Limit", "_Offset"] ∧
        restore st.params.names p.sql = st.sql := by
  intro q q'
  have hnew : Query.new "users" .postgres = .ok q := rfl
  have hq : q'.Reachable := (Reachable.created (.new hnew)).run _
  have hd : q'.dialect = .postgres := q.dialect_run _
  have hs : q'.selection.isSome = true := by decide +kernel
  have hnames : (q'.bound ++ q'.pageEntries).map Prod.fst =
      ["_Search_0", "users_name_eq_0", "_FullText_0", "_Limit", "_Offset"] := by decide +kernel
  have hmem : q'.dialect ∈ [Dialect.postgres, .plain, .ansi] := by
    rw [hd]
    exact List.mem_cons_self ..
  obtain ⟨st, p, hr, hp, -, hentries, -, hrestore⟩ := positional_conversion_is_lossless hq hmem hs
  refine ⟨hq, hd, hs, st, p, hr, hp, ?_, hrestore⟩
  rw [Params.names, hentries]
  exact hnames

end Query

end SqlFilter
