import SqlFilter.Proofs.ParamNames
import SqlFilter.Proofs.Pieces
import SqlFilter.Proofs.Predicate
import SqlFilter.Proofs.Requirements

/-!
# Bits that a column can have

What a filter on bits is checked for is one formula on its masks; what is emitted for it are two tests with a parameter
each.  The check passes if and only if some value of the column meets the tests.

* (masks) a number with a bit of one mask and none of another exists if and only if the first has a bit that the second
  has not (`exists_and_iff`);
* (reading) a test of bits is read off its text, whatever the expression and the dialect are (`Predicate.readBits`);
* (emission) tests whose tags differ keep their parameters until all are emitted (`Query.get?_emitAll_of_mem`).
-/

namespace SqlFilter

/-! ### Masks -/

open FlagSet (bits)

theorem exists_and_iff {a b : Int64} : (∃ v : Int64, v &&& a ≠ 0 ∧ v &&& b = 0) ↔ Requirement.BitLeft a b := by
  simp only [ne_eq, Requirement.and_eq_zero, not_not]
  constructor
  · rintro ⟨v, ⟨i, hv, ha⟩, hb⟩
    have hbit : b.toBitVec.getLsbD i ≠ true := fun h => hb ⟨i, hv, h⟩
    exact ⟨i, ha, by simpa using hbit⟩
  · rintro ⟨i, ha, hb⟩
    -- the bits of the first mask that the second leaves
    refine ⟨a &&& ~~~b, ⟨i, ?_, ha⟩, ?_⟩
    · rw [Int64.toBitVec_and, BitVec.getLsbD_and, Int64.toBitVec_not, BitVec.getLsbD_not, ha, hb]
      simpa using BitVec.lt_of_getLsbD ha
    · rintro ⟨j, hj, hbj⟩
      simp [hbj] at hj

theorem exists_and_ne_zero {b : Int64} : (∃ v : Int64, v &&& b ≠ 0) ↔ b ≠ 0 := by
  constructor
  · rintro ⟨v, hv⟩ rfl
    exact hv Int64.and_zero
  · intro hb
    refine ⟨b, ?_⟩
    rwa [Int64.and_self]

namespace FlagsFilter

variable {α : Type} [FlagSet α] (isNull : Option Bool) (sort : Option SortKey) (a b : α)

/-- Without rules a filter passes if its masks have bits and, where both are there, the tests on them can be met. -/
theorem findings_nil_eq_nil (f : FlagsFilter α) :
    f.findings [] = [] ↔ (∀ a ∈ f.has, bits a ≠ 0) ∧ (∀ b ∈ f.hasNot, bits b ≠ 0) ∧
      ∀ a ∈ f.has, ∀ b ∈ f.hasNot, ∃ v : Int64, v &&& bits a ≠ 0 ∧ v &&& bits b = 0 := by
  have hobey : ∀ x : Option α, Obey [] [x] := fun _ _ _ _ _ _ hr => nomatch hr
  rw [findings_eq_nil, consistent_iff]
  simp only [hobey, true_and, exists_and_iff]

theorem findings_both :
    (⟨some a, some b, isNull, sort⟩ : FlagsFilter α).findings [] = [] ↔
      bits b ≠ 0 ∧ ∃ v : Int64, v &&& bits a ≠ 0 ∧ v &&& bits b = 0 := by
  rw [findings_nil_eq_nil]
  constructor
  · rintro ⟨-, hb, hmeet⟩
    exact ⟨hb b rfl, hmeet a rfl b rfl⟩
  · rintro ⟨hb, v, ha, hv⟩
    -- a mask that shares a bit with some value is not zero
    have hne : bits a ≠ 0 := exists_and_ne_zero.1 ⟨v, ha⟩
    refine ⟨?_, ?_, ?_⟩
    · rintro _ ⟨⟩
      exact hne
    · rintro _ ⟨⟩
      exact hb
    · rintro _ ⟨⟩ _ ⟨⟩
      exact ⟨v, ha, hv⟩

theorem findings_has :
    (⟨some a, none, isNull, sort⟩ : FlagsFilter α).findings [] = [] ↔ ∃ v : Int64, v &&& bits a ≠ 0 := by
  rw [findings_nil_eq_nil, exists_and_ne_zero]
  simp

theorem findings_hasNot :
    (⟨none, some b, isNull, sort⟩ : FlagsFilter α).findings [] = [] ↔ ∃ v : Int64, v &&& bits b ≠ 0 := by
  rw [findings_nil_eq_nil, exists_and_ne_zero]
  simp

end FlagsFilter

/-! ### Reading tests of bits -/

namespace Predicate

/-- The test of the bits of an expression that a text is, if it is one.  The name of the parameter is behind a mark. -/
def readBits (mark : Char) (e s : String) : Option Predicate := do
  let r ← s.toList.dropPrefix? ("(" ++ e ++ " & " ++ String.singleton mark).toList
  let name := r.takeWhile Text.isWordChar
  let (_, holds) ← signs.find? fun x => r.dropWhile Text.isWordChar = ") ".toList ++ x.1 ++ " 0".toList
  if name = [] then none else return bits e (String.ofList name) holds

theorem readBits_flag (d : Dialect) {e name : String} (hn : IsParamName name) (test : FlagTest) (b : Int64) :
    readBits d.sigil e (d.flag test e name b).sql = some (bits e name (flagHolds test)) := by
  obtain ⟨sign, htext, hsign⟩ : ∃ sign : List Char,
      (d.flag test e name b).sql.toList = ("(" ++ e ++ " & " ++ String.singleton d.sigil).toList ++
        (name.toList ++ (") ".toList ++ sign ++ " 0".toList)) ∧
      (signs.find? fun x => ") ".toList ++ sign ++ " 0".toList = ") ".toList ++ x.1 ++ " 0".toList) =
        some (sign, flagHolds test) := by
    cases test with
    | has => exact ⟨"<>".toList, by simp [Dialect.flag, Dialect.placeholder], rfl⟩
    | hasNot => exact ⟨"=".toList, by simp [Dialect.flag, Dialect.placeholder], rfl⟩
  obtain ⟨htake, hdrop⟩ := Piece.takeWhile_append_of_head (s := ") ".toList ++ sign ++ " 0".toList) hn.2
    (by simp [Text.isWordChar])
  rw [readBits, htext, List.dropPrefix?_append_of_beq _ (beq_self_eq_true _)]
  simp only [Option.bind_eq_bind, Option.bind_some, htake, hdrop, hsign, if_neg hn.1, String.ofList_toList]
  rfl

end Predicate

/-! ### Emission -/

namespace Query

variable (q : Query) (c : Column) (sql : String)

private theorem emit_bare {t : Test} (ht : t.tag? = none) :
    (t.condition q.dialect sql "").param = none ∧ (q.emit c sql t).namer = q.namer ∧
      (q.emit c sql t).params = q.params := by
  have hparam := Test.param_condition q.dialect sql "" t
  rw [ht, Option.map_none, Option.map_eq_none_iff] at hparam
  simp only [emit, ht, push, hparam, and_self]

private theorem emit_named {t : Test} {tag : String} (ht : t.tag? = some tag) :
    (q.emit c sql t).namer = (q.namer.next c tag).2 ∧
      ∃ v, (t.condition q.dialect sql (q.namer.next c tag).1).param = some ((q.namer.next c tag).1, v) ∧
        (q.emit c sql t).params = q.params.set (q.namer.next c tag).1 v := by
  have hname := Test.param_condition q.dialect sql (q.namer.next c tag).1 t
  rw [ht, Option.map_some, Option.map_eq_some_iff] at hname
  obtain ⟨⟨name, v⟩, hparam, hfirst⟩ := hname
  obtain rfl : name = (q.namer.next c tag).1 := hfirst
  refine ⟨?_, v, hparam, ?_⟩
  · simp only [emit, ht, push]
  · simp only [emit, ht, push, hparam]

/-- The value of a name is set by tests of its tag only. -/
private theorem get?_emitAll {tag : String} (htag : '_' ∉ tag.toList) (stem : String) (k : Nat) {tests : List Test}
    (h : tag ∉ tests.filterMap Test.tag?) :
    (q.emitAll c sql tests).params.get? (Namer.nameOf stem tag k) = q.params.get? (Namer.nameOf stem tag k) := by
  induction tests generalizing q with
  | nil => rfl
  | cons t tests ih =>
    show ((q.emit c sql t).emitAll c sql tests).params.get? _ = _
    cases ht : t.tag? with
    | none =>
      rw [List.filterMap_cons_none ht] at h
      rw [ih _ h, (q.emit_bare c sql ht).2.2]
    | some tag' =>
      rw [List.filterMap_cons_some ht, List.mem_cons, not_or] at h
      obtain ⟨-, v, -, hparams⟩ := q.emit_named c sql ht
      have hne : Namer.nameOf stem tag k ≠ (q.namer.next c tag').1 := by
        intro heq
        obtain ⟨-, hsame, -⟩ := Namer.nameOf_inj htag (Test.tag_facts ht).1 heq
        exact h.1 hsame
      rw [ih _ h.2, hparams, Params.get?_set, if_neg hne]

/-- Tests with tags of their own find their parameters in the bag once all of them are emitted. -/
theorem get?_emitAll_of_mem {tests : List Test} (h : (tests.filterMap Test.tag?).Nodup) {x : Condition}
    (hx : x ∈ (q.namer.conditions q.dialect c sql tests).1) {name : String} {v : Value}
    (hparam : x.param = some (name, v)) : (q.emitAll c sql tests).params.get? name = some v := by
  induction tests generalizing q with
  | nil => cases hx
  | cons t tests ih =>
    show ((q.emit c sql t).emitAll c sql tests).params.get? name = some v
    have hrest := ih (q.emit c sql t)
    rw [dialect_emit] at hrest
    rw [Namer.conditions] at hx
    cases ht : t.tag? with
    | none =>
      rw [List.filterMap_cons_none ht] at h
      rw [ht] at hx
      obtain ⟨hbare, hnamer, -⟩ := q.emit_bare c sql ht
      rw [hnamer] at hrest
      rcases List.mem_cons.1 hx with rfl | hx
      · rw [hbare] at hparam
        cases hparam
      · exact hrest h hx
    | some tag =>
      rw [List.filterMap_cons_some ht, List.nodup_cons] at h
      rw [ht] at hx
      obtain ⟨hnamer, w, hw, hparams⟩ := q.emit_named c sql ht
      rw [hnamer] at hrest
      rcases List.mem_cons.1 hx with rfl | hx
      · obtain ⟨rfl, rfl⟩ : (q.namer.next c tag).1 = name ∧ w = v := by simpa [hw] using hparam
        -- the tests that follow have other tags, and leave what this one sets
        refine (get?_emitAll _ c sql (Test.tag_facts ht).1 c.paramPrefix (q.namer.count c.paramPrefix) h.1).trans ?_
        rw [hparams]
        exact (Params.get?_set ..).trans (if_pos rfl)
      · exact hrest h.2 hx

/-- What the conditions with parameters, which a query emits for a filter on bits, say of a value of the expression. -/
def bitTruths {α : Type} [FlagSet α] (f : FlagsFilter α) (v : Int64) : List (Option Truth) :=
  let after := ((f.tests.forM (Action.emit c sql)).perform q).2
  ((after.conditions.drop q.conditions.length).filter fun x => x.param.isSome).map fun x =>
    Predicate.readBits q.dialect.sigil sql x.sql >>= Predicate.truth? (fun _ => some (.int64 v)) after.params

end Query

/-! ### What the tests say -/

/-- The masks of a filter with the tests on them. -/
def FlagsFilter.masks {α : Type} [FlagSet α] (f : FlagsFilter α) : List (FlagTest × Int64) :=
  f.has.toList.map (fun x => (.has, bits x)) ++ f.hasNot.toList.map (fun x => (.hasNot, bits x))

theorem FlagsFilter.tests_eq {α : Type} [FlagSet α] (f : FlagsFilter α) :
    f.tests = (f.masks.map fun m => Test.flag m.1 m.2) ++ nullTests f.isNull := by
  rw [tests, masks, List.map_append, List.map_map, List.map_map]
  rfl

theorem FlagsFilter.nodup_tags {α : Type} [FlagSet α] (f : FlagsFilter α) : (f.tests.filterMap Test.tag?).Nodup := by
  have hnull : (nullTests f.isNull).filterMap Test.tag? = [] := by
    cases f.isNull <;> rfl
  rw [tests_eq, List.filterMap_append, hnull, List.append_nil, masks]
  cases f.has <;> cases f.hasNot <;> simp [Test.tag?, FlagTest.tag]

/-- The truth value of a test of bits on a value. -/
def FlagTest.truth (v : Int64) : FlagTest × Int64 → Truth
  | (.has, a) => .ofBool (v &&& a ≠ 0)
  | (.hasNot, b) => .ofBool (v &&& b = 0)

theorem FlagTest.bitTest?_eq (v : Int64) (test : FlagTest) (b : Int64) :
    Predicate.bitTest? (Predicate.flagHolds test) (some (.int64 v)) b = some (truth v (test, b)) := by
  have horder : ValueType.order .int64 (v &&& b) 0 = .eq ↔ v &&& b = 0 := by
    unfold ValueType.order
    rw [compare_eq_iff_eq, Int64.toInt_inj]
  have hscalar : Value.scalarOf? .int64 (.int64 v) = some v := rfl
  rw [Predicate.bitTest?]
  simp only [hscalar, Option.map_some]
  cases test with
  | has =>
    simp only [truth, Predicate.flagHolds]
    congr 2
    rw [Bool.eq_iff_iff, Ordering.isNe_iff_ne_eq, decide_eq_true_iff, Ne, horder]
  | hasNot =>
    simp only [truth, Predicate.flagHolds]
    congr 2
    rw [Bool.eq_iff_iff, Ordering.isEq_iff_eq_eq, decide_eq_true_iff, horder]

/-- Conditions of tests of bits, read with the parameters of a bag, say what the tests say. -/
private theorem truths_of_names (d : Dialect) (sql : String) (bag : Params) (v : Int64) (isNull : Option Bool)
    {masks : List (FlagTest × Int64)} {cs : List Condition}
    (h : List.Forall₂ (Test.Names d sql) ((masks.map fun m => Test.flag m.1 m.2) ++ nullTests isNull) cs)
    (hbag : ∀ x ∈ cs, ∀ name w, x.param = some (name, w) → bag.get? name = some w) :
    ((cs.filter fun x => x.param.isSome).map fun x =>
      Predicate.readBits d.sigil sql x.sql >>= Predicate.truth? (fun _ => some (.int64 v)) bag) =
      masks.map fun m => some (FlagTest.truth v m) := by
  induction masks generalizing cs with
  | nil =>
    -- what is left has no parameter
    cases isNull with
    | none =>
      cases h
      rfl
    | some b =>
      obtain ⟨x, cs, ⟨name, rfl, -⟩, hrest, rfl⟩ := List.forall₂_cons_left_iff.1 h
      cases hrest
      rfl
  | cons m masks ih =>
    obtain ⟨test, b⟩ := m
    obtain ⟨x, cs, ⟨name, rfl, hname⟩, hrest, rfl⟩ := List.forall₂_cons_left_iff.1 h
    have hget : bag.get? name = some (.int64 b) := hbag _ (List.mem_cons_self ..) name _ rfl
    have hread : (Predicate.readBits d.sigil sql ((Test.flag test b).condition d sql name).sql >>=
        Predicate.truth? (fun _ => some (.int64 v)) bag) = some (FlagTest.truth v (test, b)) := by
      rw [Test.condition, Predicate.readBits_flag d (hname rfl), ← FlagTest.bitTest?_eq]
      simp [Predicate.truth?, hget, Value.scalarOf?]
    rw [List.filter_cons_of_pos rfl, List.map_cons, List.map_cons, hread,
      ih hrest fun x hx => hbag x (List.mem_cons_of_mem _ hx)]

namespace Query

variable (q : Query) (c : Column) (sql : String) {α : Type} [FlagSet α]

theorem bitTruths_eq (f : FlagsFilter α) (v : Int64) :
    q.bitTruths c sql f v = f.masks.map fun m => some (FlagTest.truth v m) := by
  have hafter : ((f.tests.forM (Action.emit c sql)).perform q).2 = q.emitAll c sql f.tests := by
    rw [Action.perform_emitAll]
  obtain ⟨params, heq⟩ := q.emitAll_eq c sql f.tests
  have hadded : (q.emitAll c sql f.tests).conditions.drop q.conditions.length =
      (q.namer.conditions q.dialect c sql f.tests).1 := by
    rw [heq, List.drop_left]
  unfold bitTruths
  rw [hafter]
  dsimp only
  rw [hadded]
  refine truths_of_names q.dialect sql _ v f.isNull ?_ fun x hx name w => q.get?_emitAll_of_mem c sql f.nodup_tags hx
  rw [← f.tests_eq]
  exact q.namer.names_conditions q.dialect c sql f.tests

/-- For all masks of any type, whatever the query, the column and its text are: a filter that asks for bits of one mask
and none of another passes if and only if the second mask is not zero and some value makes both conditions true; with
the first mask only, if and only if some value makes its condition true; with the second only, if and only if some value
makes its condition false.  The conditions are those that are emitted, read from their texts with the parameters in the
bag. -/
theorem flags_pass_iff_satisfiable (isNull : Option Bool) (sort : Option SortKey) (x y : α) :
    let a := bits x
    let b := bits y
    let both : FlagsFilter α := ⟨some x, some y, isNull, sort⟩
    let has : FlagsFilter α := ⟨some x, none, isNull, sort⟩
    let hasNot : FlagsFilter α := ⟨none, some y, isNull, sort⟩
    (both.findings [] = [] ↔ b ≠ 0 ∧ ∃ v, q.bitTruths c sql both v = [some .yes, some .yes]) ∧
    (has.findings [] = [] ↔ ∃ v, q.bitTruths c sql has v = [some .yes]) ∧
    (hasNot.findings [] = [] ↔ ∃ v, q.bitTruths c sql hasNot v = [some .no]) ∧
    ∀ v, q.bitTruths c sql both v = [some (.ofBool (v &&& a ≠ 0)), some (.ofBool (v &&& b = 0))] ∧
      q.bitTruths c sql has v = [some (.ofBool (v &&& a ≠ 0))] ∧
      q.bitTruths c sql hasNot v = [some (.ofBool (v &&& b = 0))] := by
  intro a b both has hasNot
  have hboth : ∀ v, q.bitTruths c sql both v = [some (.ofBool (v &&& a ≠ 0)), some (.ofBool (v &&& b = 0))] :=
    q.bitTruths_eq c sql both
  have hhas : ∀ v, q.bitTruths c sql has v = [some (.ofBool (v &&& a ≠ 0))] := q.bitTruths_eq c sql has
  have hhasNot : ∀ v, q.bitTruths c sql hasNot v = [some (.ofBool (v &&& b = 0))] := q.bitTruths_eq c sql hasNot
  refine ⟨?_, ?_, ?_, fun v => ⟨hboth v, hhas v, hhasNot v⟩⟩
  · have hyes : ∀ v, q.bitTruths c sql both v = [some .yes, some .yes] ↔ v &&& a ≠ 0 ∧ v &&& b = 0 := by
      intro v
      simp [hboth]
    rw [FlagsFilter.findings_both, exists_congr hyes]
  · have hyes : ∀ v, q.bitTruths c sql has v = [some .yes] ↔ v &&& a ≠ 0 := by
      intro v
      simp [hhas]
    rw [FlagsFilter.findings_has, exists_congr hyes]
  · have hno : ∀ v, q.bitTruths c sql hasNot v = [some .no] ↔ v &&& b ≠ 0 := by
      intro v
      by_cases hv : v &&& b = 0 <;> simp [hhasNot, hv, Truth.ofBool]
    rw [FlagsFilter.findings_hasNot, exists_congr hno]

/-- Masks may overlap as long as a bit is left to ask for. -/
example : (⟨some 3, some 1, none, none⟩ : FlagsFilter Int64).findings [] = [] ∧
    (⟨some 3, some (-1), none, none⟩ : FlagsFilter Int64).findings [] ≠ [] := by
  decide

end Query

end SqlFilter
