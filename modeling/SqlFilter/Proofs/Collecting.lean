import SqlFilter.Proofs.Binding

/-!
# Collecting values into arrays

Only the first value of a list is asked for its type, and an array answers with the type of its elements.  So it is the
reading of every value as a single one of that type that keeps arrays and other types out: it succeeds just for the
single values of the type (`Value.mapM_scalarOf?_eq_some`), which makes collecting succeed just for single values of one
type (`Value.lists_of_one_type_are_collected`).
-/

namespace SqlFilter.Value

variable {t : ValueType} {v a : Value} {vs : List Value} {xs : List t.Carrier}

theorem scalarOf?_eq_some {x : t.Carrier} : scalarOf? t v = some x ↔ v = scalar t x := by
  cases v with
  | scalar u y =>
    by_cases h : u = t
    · subst h
      simp [scalarOf?]
    · simp [scalarOf?, h]
  | array u ys => simp [scalarOf?]

theorem mapM_scalarOf?_eq_some : vs.mapM (scalarOf? t) = some xs ↔ vs = xs.map (scalar t) := by
  constructor
  · intro h
    induction vs generalizing xs with
    | nil =>
      cases h
      rfl
    | cons v vs ih =>
      rw [List.mapM_cons] at h
      obtain ⟨x, hx, hrest⟩ := Option.bind_eq_some_iff.1 h
      obtain ⟨ys, hys, hcons⟩ := Option.bind_eq_some_iff.1 hrest
      cases hcons
      rw [List.map_cons, ← ih hys, scalarOf?_eq_some.1 hx]
  · rintro rfl
    have h := mapM_scalarOf?_scalar (Storage.self t) xs
    rwa [Storage.self, List.map_id] at h

/-- An array is collected from the single values of its type that are its elements, at least one. -/
theorem array?_eq_some : array? vs = some a ↔ ∃ t xs, xs ≠ [] ∧ vs = xs.map (scalar t) ∧ a = array t xs := by
  constructor
  · intro h
    match vs with
    | [] => cases h
    | array _ _ :: _ => cases h
    | scalar t x :: vs =>
      obtain ⟨xs, hxs, rfl⟩ := Option.map_eq_some_iff.1 h
      rw [mapM_scalarOf?_eq_some.1 hxs]
      exact ⟨t, x :: xs, List.cons_ne_nil x xs, rfl, rfl⟩
  · rintro ⟨t, xs, hne, rfl, rfl⟩
    have h := array?_map_scalar (Storage.self t) hne
    rwa [Storage.array, Storage.self, List.map_id] at h

/-- Values of one type that are no arrays are the single values of that type. -/
theorem exists_map_scalar (hscalar : ∀ v ∈ vs, v.isArray = false) (htype : ∀ v ∈ vs, v.type = t) :
    ∃ xs : List t.Carrier, vs = xs.map (scalar t) := by
  induction vs with
  | nil => exact ⟨[], rfl⟩
  | cons v vs ih =>
    rw [List.forall_mem_cons] at hscalar htype
    obtain ⟨xs, rfl⟩ := ih hscalar.2 htype.2
    cases v with
    | scalar u x =>
      obtain rfl : u = t := htype.1
      exact ⟨x :: xs, rfl⟩
    | array u ys => cases hscalar.1

/-- Values are collected if and only if there is at least one, none of them is an array, and all are of one type.  What
they are collected into is an array of this type, whose elements are those of which the list has the single values, as
many and in the same order. -/
theorem lists_of_one_type_are_collected (vs : List Value) :
    ((∃ a, array? vs = some a) ↔
      vs ≠ [] ∧ (∀ v ∈ vs, v.isArray = false) ∧ ∀ v ∈ vs, ∀ w ∈ vs, v.type = w.type) ∧
    ∀ a, array? vs = some a →
      a.isArray = true ∧ (∀ v ∈ vs, v.type = a.type) ∧ ∃ t xs, a = array t xs ∧ vs = xs.map (scalar t) := by
  have hall : ∀ t (xs : List t.Carrier), ∀ v ∈ xs.map (scalar t), v.isArray = false ∧ v.type = t := by
    intro t xs v hv
    obtain ⟨x, -, rfl⟩ := List.mem_map.1 hv
    exact ⟨rfl, rfl⟩
  refine ⟨⟨?_, ?_⟩, fun a h => ?_⟩
  · rintro ⟨a, h⟩
    obtain ⟨t, xs, hne, rfl, -⟩ := array?_eq_some.1 h
    refine ⟨fun hnil => hne (List.map_eq_nil_iff.1 hnil), fun v hv => (hall t xs v hv).1, fun v hv w hw => ?_⟩
    rw [(hall t xs v hv).2, (hall t xs w hw).2]
  · rintro ⟨hne, hscalar, htype⟩
    obtain ⟨v, rest, rfl⟩ := List.exists_cons_of_ne_nil hne
    obtain ⟨xs, hxs⟩ := exists_map_scalar hscalar fun w hw => htype w hw v List.mem_cons_self
    refine ⟨array v.type xs, array?_eq_some.2 ⟨v.type, xs, ?_, hxs, rfl⟩⟩
    rintro rfl
    cases hxs
  · obtain ⟨t, xs, -, rfl, rfl⟩ := array?_eq_some.1 h
    exact ⟨rfl, fun v hv => (hall t xs v hv).2, t, xs, rfl, rfl⟩

/-- An array of texts among texts keeps a list from being collected, wherever it stands. -/
theorem lists_of_one_type_are_collected_texts :
    let vs := [text "a", text "b", text "a"]
    array? vs = some (array .text ["a", "b", "a"]) ∧ (∀ v ∈ vs, v.isArray = false) ∧
      ¬ ∃ a, array? (vs ++ [array .text ["c"]]) = some a := by
  intro vs
  have h : array? vs = some (array .text ["a", "b", "a"]) := rfl
  obtain ⟨hiff, -⟩ := lists_of_one_type_are_collected vs
  refine ⟨h, (hiff.1 ⟨_, h⟩).2.1, fun hex => ?_⟩
  have hmem : array .text ["c"] ∈ vs ++ [array .text ["c"]] := List.mem_append_right vs (List.mem_singleton_self _)
  have hscalar := ((lists_of_one_type_are_collected _).1.1 hex).2.1 _ hmem
  cases hscalar

end SqlFilter.Value
