import SqlFilter.Statement.Basic

/-!
# Numbers of placeholders

Numbering the placeholders of a statement goes from left to right with a list of the names that have numbers.  At the
end the list holds the names in order of their first occurrence (`Statement.noted`), and it only ever grew at its end;
so every placeholder was written with the place of its name in the final list (`Statement.number_eq`).  The first name
without a value stops the numbering (`Statement.number_eq_error`).
-/

namespace SqlFilter

namespace Piece

/-- The name of a placeholder. -/
def name? : Piece → Option String
  | placeholder name => some (String.ofList name)
  | _ => none

/-- The characters of a piece with others in place of a placeholder. -/
def written (f : String → List Char) : Piece → List Char
  | placeholder name => f (String.ofList name)
  | p => p.source

end Piece

namespace Statement

/-- Names with those of a list that are new, in order of their first occurrence. -/
def noted (seen : List String) : List String → List String
  | [] => seen
  | n :: r => if n ∈ seen then noted seen r else noted (seen ++ [n]) r

/-- A placeholder with the place of its name in a list, counted from 1. -/
def numbered (names : List String) (n : String) : List Char := (placeholder (names.idxOf n + 1)).toList

variable {seen l : List String} {n : String}

/-! ### Noted names -/

theorem noted_append (seen l l' : List String) : noted seen (l ++ l') = noted (noted seen l) l' := by
  induction l generalizing seen with
  | nil => rfl
  | cons n l ih =>
    rw [List.cons_append, noted, noted]
    split
    · exact ih seen
    · exact ih (seen ++ [n])

theorem prefix_noted (seen l : List String) : seen <+: noted seen l := by
  induction l generalizing seen with
  | nil => exact List.prefix_refl seen
  | cons n l ih =>
    rw [noted]
    split
    · exact ih seen
    · exact (List.prefix_append seen [n]).trans (ih (seen ++ [n]))

theorem mem_noted : n ∈ noted seen l ↔ n ∈ seen ∨ n ∈ l := by
  induction l generalizing seen with
  | nil => simp [noted]
  | cons m l ih =>
    rw [noted]
    split
    · rename_i hm
      rw [ih, List.mem_cons]
      constructor
      · rintro (h | h)
        · exact .inl h
        · exact .inr (.inr h)
      · rintro (h | rfl | h)
        · exact .inl h
        · exact .inl hm
        · exact .inr h
    · rw [ih, List.mem_append, List.mem_singleton, List.mem_cons, or_assoc]

theorem nodup_noted (h : seen.Nodup) : (noted seen l).Nodup := by
  induction l generalizing seen with
  | nil => exact h
  | cons n l ih =>
    rw [noted]
    split
    · exact ih h
    · rename_i hn
      refine ih (List.nodup_append.2 ⟨h, by simp, ?_⟩)
      intro a ha b hb hab
      rw [List.mem_singleton.1 hb] at hab
      rw [hab] at ha
      exact hn ha

theorem idxOf_noted (h : n ∈ seen) : (noted seen l).idxOf n = seen.idxOf n := by
  obtain ⟨t, ht⟩ := prefix_noted seen l
  rw [← ht, List.idxOf_append, if_pos h]

theorem idxOf_noted_cons (h : n ∉ seen) : (noted seen (n :: l)).idxOf n = seen.length := by
  rw [noted, if_neg h, idxOf_noted (List.mem_append_right seen (List.mem_singleton_self n)), List.idxOf_append,
    if_neg h, List.idxOf_cons_self, Nat.zero_add]

theorem noted_of_mem (h : ∀ m ∈ l, m ∈ seen) : noted seen l = seen := by
  induction l with
  | nil => rfl
  | cons m l ih =>
    rw [List.forall_mem_cons] at h
    rw [noted, if_pos h.1]
    exact ih h.2

/-- One new name is noted, however often it occurs. -/
theorem noted_of_forall_eq (hl : ∀ m ∈ l, m = n) (hne : l ≠ []) (hn : n ∉ seen) : noted seen l = seen ++ [n] := by
  cases l with
  | nil => exact absurd rfl hne
  | cons m l =>
    rw [List.forall_mem_cons] at hl
    rw [noted, hl.1, if_neg hn]
    refine noted_of_mem fun m hm => ?_
    rw [hl.2 m hm]
    exact List.mem_append_right seen (List.mem_singleton_self n)

theorem notMem_of_nodup (h : (seen ++ n :: l).Nodup) : n ∉ seen := by
  intro hn
  exact (List.nodup_append.1 h).2.2 n hn n (List.mem_cons_self ..) rfl

/-- New names that are all different are noted as they come. -/
theorem noted_of_nodup (h : (seen ++ l).Nodup) : noted seen l = seen ++ l := by
  induction l generalizing seen with
  | nil => exact (List.append_nil seen).symm
  | cons n l ih =>
    have hn := notMem_of_nodup h
    rw [List.append_cons] at h
    rw [noted, if_neg hn, ih h, ← List.append_cons]

/-- Every place in the list of noted names is that of a placeholder. -/
theorem mem_map_idxOf_noted {k : Nat} :
    k ∈ l.map (fun n => (noted [] l).idxOf n + 1) ↔ 1 ≤ k ∧ k ≤ (noted [] l).length := by
  have hmem : ∀ n, n ∈ noted [] l ↔ n ∈ l := by
    intro n
    rw [mem_noted]
    exact or_iff_right List.not_mem_nil
  rw [List.mem_map]
  constructor
  · rintro ⟨n, hn, rfl⟩
    have := List.idxOf_lt_length_of_mem ((hmem n).2 hn)
    omega
  · rintro ⟨h1, hk⟩
    obtain ⟨i, rfl⟩ := Nat.exists_eq_add_of_le' h1
    have hi : i < (noted [] l).length := by omega
    refine ⟨(noted [] l)[i], (hmem _).1 (List.getElem_mem hi), ?_⟩
    rw [(nodup_noted List.nodup_nil).idxOf_getElem i hi]

/-- The new names of a list are noted without those that repeat earlier ones. -/
theorem noted_eq_eraseDups (seen l : List String) :
    noted seen l = seen ++ (l.filter fun n => decide (n ∉ seen)).eraseDups := by
  induction l generalizing seen with
  | nil => exact (List.append_nil seen).symm
  | cons n l ih =>
    rw [noted]
    split
    · rename_i hn
      rw [ih, List.filter_cons_of_neg (by simpa using hn)]
    · rename_i hn
      have hboth : (fun m => decide (m ∉ seen ++ [n])) = fun m => !(m == n) && decide (m ∉ seen) := by
        funext m
        by_cases hm : m = n <;> simp [hm]
      rw [ih, List.filter_cons_of_pos (by simpa using hn), List.eraseDups_cons, List.filter_filter, hboth,
        List.append_assoc]
      rfl

/-! ### The result of numbering -/

private theorem findIdx?_fst (seen : List (String × Value)) (n : String) :
    (seen.findIdx? fun e => e.1 = n) =
      if n ∈ seen.map Prod.fst then some ((seen.map Prod.fst).idxOf n) else none := by
  induction seen with
  | nil => rfl
  | cons e seen ih =>
    by_cases he : e.1 = n
    · rw [List.findIdx?_cons, List.map_cons, List.idxOf_cons]
      simp [he]
    · have hne : n ≠ e.1 := fun h => he h.symm
      rw [List.findIdx?_cons, ih, List.map_cons, List.idxOf_cons]
      by_cases hn : n ∈ seen.map Prod.fst <;> simp [he, hne, hn, beq_false_of_ne he]

theorem filterMap_get? {params : Params} {seen : List (String × Value)}
    (h : ∀ e ∈ seen, params.get? e.1 = some e.2) : (seen.map Prod.fst).filterMap params.get? = seen.map Prod.snd := by
  induction seen with
  | nil => rfl
  | cons e seen ih =>
    rw [List.forall_mem_cons] at h
    rw [List.map_cons, List.filterMap_cons, h.1, ih h.2]
    rfl

theorem get?_of_mem_concat {params : Params} {seen : List (String × Value)} {v : Value}
    (hseen : ∀ e ∈ seen, params.get? e.1 = some e.2) (hv : params.get? n = some v) :
    ∀ e ∈ seen ++ [(n, v)], params.get? e.1 = some e.2 := by
  intro e he
  rcases List.mem_append.1 he with he | he
  · exact hseen e he
  · rw [List.mem_singleton.1 he]
    exact hv

/-- If all names have values, each placeholder is written with the place of its name among the names in order of their
first occurrence, and the values are those of the names in this order. -/
theorem number_eq {params : Params} {seen : List (String × Value)} {ps : List Piece} {names : List String}
    (hseen : ∀ e ∈ seen, params.get? e.1 = some e.2)
    (hall : ∀ n ∈ ps.filterMap Piece.name?, (params.get? n).isSome = true)
    (hnames : noted (seen.map Prod.fst) (ps.filterMap Piece.name?) = names) :
    number params seen ps =
      .ok (String.ofList (ps.flatMap (Piece.written (numbered names))), names.filterMap params.get?) := by
  -- `names` is the final list all along, so that the numbers are those of the end
  induction ps generalizing seen with
  | nil =>
    rw [List.filterMap_nil, noted] at hnames
    rw [number, ← hnames, filterMap_get? hseen]
    rfl
  | cons p ps ih =>
    -- a placeholder that is written with its number in front of the rest
    have hwrite : ∀ name k, names.idxOf (String.ofList name) = k →
        placeholder (k + 1) ++ String.ofList (ps.flatMap (Piece.written (numbered names))) =
          String.ofList ((Piece.placeholder name :: ps).flatMap (Piece.written (numbered names))) := by
      rintro name _ rfl
      rw [List.flatMap_cons, Piece.written, numbered, String.ofList_append, String.ofList_toList]
    cases p with
    | placeholder name =>
      rw [List.filterMap_cons] at hnames hall
      simp only [Piece.name?] at hnames hall
      rw [List.forall_mem_cons] at hall
      rw [number, findIdx?_fst]
      by_cases hn : String.ofList name ∈ seen.map Prod.fst
      · have hplace : names.idxOf (String.ofList name) = (seen.map Prod.fst).idxOf (String.ofList name) := by
          rw [← hnames]
          exact idxOf_noted hn
        rw [noted, if_pos hn] at hnames
        rw [if_pos hn]
        dsimp only
        rw [ih hseen hall.2 hnames]
        exact congrArg (fun s => Except.ok (s, names.filterMap params.get?)) (hwrite name _ hplace)
      · have hplace : names.idxOf (String.ofList name) = seen.length := by
          rw [← hnames, idxOf_noted_cons hn, List.length_map]
        obtain ⟨v, hv⟩ := Option.isSome_iff_exists.1 hall.1
        rw [noted, if_neg hn] at hnames
        rw [if_neg hn, hv]
        dsimp only
        rw [ih (get?_of_mem_concat hseen hv) hall.2 (by rw [List.map_append]; exact hnames)]
        exact congrArg (fun s => Except.ok (s, names.filterMap params.get?)) (hwrite name _ hplace)
    | literal | doubled | mark | run =>
      rw [number, ih hseen hall hnames, List.flatMap_cons, String.ofList_append]
      · rfl
      · intro _ h
        cases h

/-- If some name has no value, the first such name is reported. -/
theorem number_eq_error {params : Params} {seen : List (String × Value)} {ps : List Piece}
    (hseen : ∀ e ∈ seen, params.get? e.1 = some e.2)
    (hn : (ps.filterMap Piece.name?).find? (fun n => !params.contains n) = some n) :
    number params seen ps = .error (.unknownParameter n) := by
  induction ps generalizing seen with
  | nil => cases hn
  | cons p ps ih =>
    cases p with
    | placeholder name =>
      rw [List.filterMap_cons] at hn
      simp only [Piece.name?] at hn
      rw [number]
      cases hget : params.get? (String.ofList name) with
      | none =>
        -- a name without a value has no number yet
        have hnew : (seen.findIdx? fun e => e.1 = String.ofList name) = none := by
          rw [List.findIdx?_eq_none_iff]
          intro e he
          rw [decide_eq_false_iff_not]
          intro hname
          have := hseen e he
          rw [hname, hget] at this
          cases this
        have hmissing : (!params.contains (String.ofList name)) = true := by
          rw [Params.contains, hget]
          rfl
        rw [List.find?_cons, hmissing] at hn
        cases hn
        rw [hnew]
      | some v =>
        have hknown : (!params.contains (String.ofList name)) = false := by
          rw [Params.contains, hget]
          rfl
        rw [List.find?_cons, hknown] at hn
        cases seen.findIdx? fun e => e.1 = String.ofList name with
        | some i =>
          dsimp only
          rw [ih hseen hn]
          rfl
        | none =>
          dsimp only
          rw [ih (get?_of_mem_concat hseen hget) hn]
          rfl
    | literal | doubled | mark | run =>
      rw [number, ih hseen hn]
      · rfl
      · intro _ h
        cases h

/-- A statement all of whose names have values is numbered in order of the first occurrence of names. -/
theorem toPositional_eq {st : Statement} (h : ∀ n ∈ (Piece.ofChars st.sql.toList).filterMap Piece.name?,
    (st.params.get? n).isSome = true) {names : List String}
    (hnames : noted [] ((Piece.ofChars st.sql.toList).filterMap Piece.name?) = names) :
    st.toPositional = .ok ⟨String.ofList ((Piece.ofChars st.sql.toList).flatMap (Piece.written (numbered names))),
      names.filterMap st.params.get?⟩ := by
  have hnum : number st.params [] (Piece.ofChars st.sql.toList) = _ :=
    number_eq (fun e he => absurd he List.not_mem_nil) h hnames
  rw [toPositional, hnum]
  rfl

/-- A statement is refused for its first name without a value. -/
theorem toPositional_eq_error {st : Statement}
    (hn : ((Piece.ofChars st.sql.toList).filterMap Piece.name?).find? (fun n => !st.params.contains n) = some n) :
    st.toPositional = .error (.unknownParameter n) := by
  have hnum : number st.params [] (Piece.ofChars st.sql.toList) = _ :=
    number_eq_error (fun e he => absurd he List.not_mem_nil) hn
  rw [toPositional, hnum]
  rfl

end Statement

end SqlFilter
