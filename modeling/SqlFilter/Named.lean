/-!
# Named entries

Lists of names with a value each, in the order in which the names were first put.  `lookup_put` says which values a list
has after a put, `map_fst_put` which names, in order.
-/

namespace SqlFilter.Named

variable {α : Type}

/-- Replaces the value under a name, or adds the name at the end. -/
def put (name : String) (v : α) : List (String × α) → List (String × α)
  | [] => [(name, v)]
  | (n, w) :: r => if n = name then (n, v) :: r else (n, w) :: put name v r

/-- The value under a name after another was put. -/
theorem lookup_put (name k : String) (v : α) (es : List (String × α)) :
    (put name v es).lookup k = if k = name then some v else es.lookup k := by
  induction es with
  | nil => grind [put]
  | cons e r ih => grind [put]

/-- The names after one was put. -/
theorem map_fst_put (name : String) (v : α) (es : List (String × α)) :
    (put name v es).map Prod.fst =
      if name ∈ es.map Prod.fst then es.map Prod.fst else es.map Prod.fst ++ [name] := by
  induction es with
  | nil => simp [put]
  | cons e r ih => grind [put]

/-- A new name comes last with its value. -/
theorem put_of_notMem {name : String} {v : α} {es : List (String × α)} (h : name ∉ es.map Prod.fst) :
    put name v es = es ++ [(name, v)] := by
  induction es with
  | nil => rfl
  | cons e r ih => grind [put]

/-- Among entries with names of their own each is found under its name. -/
theorem lookup_of_mem {e : String × α} {es : List (String × α)} (h : (es.map Prod.fst).Nodup) (he : e ∈ es) :
    es.lookup e.1 = some e.2 := by
  induction es with
  | nil => cases he
  | cons x r ih =>
    rw [List.map_cons, List.nodup_cons] at h
    rcases List.mem_cons.1 he with rfl | he
    · rw [List.lookup_cons, beq_self_eq_true]
    · have hne : e.1 ≠ x.1 := fun heq => h.1 (heq ▸ List.mem_map_of_mem he)
      rw [List.lookup_cons, beq_false_of_ne hne]
      exact ih h.2 he

/-- Entries with names of their own have the same values in any order. -/
theorem lookup_of_perm {es es' : List (String × α)} (h : es.Perm es') (hn : (es.map Prod.fst).Nodup) (name : String) :
    es.lookup name = es'.lookup name := by
  have hn' : (es'.map Prod.fst).Nodup := (h.map Prod.fst).nodup_iff.1 hn
  have hmem : ∀ {l : List (String × α)}, (l.map Prod.fst).Nodup → ∀ v, l.lookup name = some v ↔ (name, v) ∈ l := by
    intro l hl v
    refine ⟨fun hv => ?_, fun hv => lookup_of_mem hl hv⟩
    obtain ⟨front, back, rfl, -⟩ := List.lookup_eq_some_iff.1 hv
    exact List.mem_append_right front List.mem_cons_self
  exact Option.ext fun v => by rw [hmem hn, hmem hn', h.mem_iff]

end SqlFilter.Named
