import Mathlib.Data.Finset.Card
import SqlFilter.Params

/-!
# Bags made by setting values

A bag remembers two things about the sets that made it: in which order names were first set, and the value that was set
last under each name.  Both are kept by one more set (`Params.Records.set`), so they hold of every bag
(`Params.names_come_in_order_of_first_set`).
-/

namespace SqlFilter.Params

variable {p : Params} {sets : List (String × Value)}

/-- The bag has the names that were set, in the order of their first sets, and under each name the value that was set
last. -/
structure Records (p : Params) (sets : List (String × Value)) : Prop where
  mem_names : ∀ name, name ∈ p.names ↔ name ∈ sets.map Prod.fst
  ordered : p.names.Pairwise fun a b => (sets.map Prod.fst).idxOf a < (sets.map Prod.fst).idxOf b
  last : ∀ name, p.get? name = sets.reverse.lookup name

theorem records_empty : empty.Records [] := ⟨fun _ => Iff.rfl, .nil, fun _ => rfl⟩

/-- Further sets do not move the names that were set before. -/
private theorem Records.ordered_append (h : p.Records sets) (more : List (String × Value)) :
    p.names.Pairwise fun a b =>
      ((sets ++ more).map Prod.fst).idxOf a < ((sets ++ more).map Prod.fst).idxOf b := by
  have hplace : ∀ a ∈ p.names, ((sets ++ more).map Prod.fst).idxOf a = (sets.map Prod.fst).idxOf a := by
    intro a ha
    rw [List.map_append, List.idxOf_append_of_mem ((h.mem_names a).1 ha)]
  refine h.ordered.imp_of_mem fun {a b} ha hb hab => ?_
  rwa [hplace a ha, hplace b hb]

theorem Records.set (h : p.Records sets) (name : String) (v : Value) :
    (p.set name v).Records (sets ++ [(name, v)]) := by
  have hnames := p.names_set name v
  refine ⟨fun k => ?_, ?_, fun k => ?_⟩
  · rw [hnames, List.map_append, List.mem_append, ← h.mem_names]
    split <;> simp_all
  · rw [hnames]
    split
    · exact h.ordered_append _
    · rename_i hnew
      -- a new name is first set now, after all others
      refine List.pairwise_append.2 ⟨h.ordered_append _, List.pairwise_singleton _ _, fun a ha b hb => ?_⟩
      obtain rfl := List.mem_singleton.1 hb
      have hlt := List.idxOf_lt_length_of_mem ((h.mem_names a).1 ha)
      rw [List.map_append, List.idxOf_append_of_mem ((h.mem_names a).1 ha),
        List.idxOf_append_of_notMem fun hb => hnew ((h.mem_names _).2 hb)]
      exact Nat.lt_of_lt_of_le hlt (Nat.le_add_right _ _)
  · rw [get?_set, List.reverse_append, List.reverse_singleton, List.singleton_append, List.lookup_cons, h.last]
    by_cases hk : k = name
    · rw [if_pos hk, hk, beq_self_eq_true]
    · rw [if_neg hk, beq_false_of_ne hk]

theorem Records.foldl_set (h : p.Records sets) (more : List (String × Value)) :
    (more.foldl (fun p e => p.set e.1 e.2) p).Records (sets ++ more) := by
  induction more generalizing p sets with
  | nil => rwa [List.append_nil]
  | cons e more ih =>
    rw [List.append_cons]
    exact ih (h.set e.1 e.2)

theorem records_ofList (sets : List (String × Value)) : (ofList sets).Records sets := records_empty.foldl_set sets

/-- The bag that any sets make has each name that was set once, in the order in which names were first set.  Under a
name it has the value that was set last, and none just when the name was never set; and it is as large as the number of
different names that were set. -/
theorem names_come_in_order_of_first_set (sets : List (String × Value)) :
    let p := ofList sets
    let given := sets.map Prod.fst
    p.names.Nodup ∧ (∀ name, name ∈ p.names ↔ name ∈ given) ∧
      p.names.Pairwise (fun a b => given.idxOf a < given.idxOf b) ∧
      (∀ name, p.get? name = sets.reverse.lookup name) ∧ (∀ name, p.get? name = none ↔ name ∉ given) ∧
      p.size = given.toFinset.card := by
  intro p given
  have h : p.Records sets := records_ofList sets
  have hnodup : p.names.Nodup := h.ordered.imp fun {a b} hab heq => by
    rw [heq] at hab
    exact Nat.lt_irrefl _ hab
  refine ⟨hnodup, h.mem_names, h.ordered, h.last, fun name => ?_, ?_⟩
  · rw [h.last, List.lookup_eq_none_iff, List.mem_map]
    constructor
    · rintro hnone ⟨e, he, rfl⟩
      exact bne_iff_ne.1 (hnone e (List.mem_reverse.2 he)) rfl
    · intro hname e he
      exact bne_iff_ne.2 fun heq => hname ⟨e, List.mem_reverse.1 he, heq.symm⟩
  · have hgiven : given.toFinset = p.names.toFinset := by
      ext name
      rw [List.mem_toFinset, List.mem_toFinset, h.mem_names]
    rw [hgiven, List.toFinset_card_of_nodup hnodup, names, List.length_map, size]

/-- A name that is set again keeps its place. -/
example : (ofList [("a", .int64 1), ("b", .int64 2), ("a", .int64 3)]).entries =
    [("a", .int64 3), ("b", .int64 2)] := by decide

end SqlFilter.Params
