import SqlFilter.Proofs.ParamNames

/-!
# Names of a namer and its clones

A namer knows only how often it was asked for each stem.  Together with what was asked it is a log, and the logs of a
namer and of its clones stand side by side, each found by its number.  Every name is that of its stem, its tag and the
number of earlier asks with this stem, whatever tables, columns and tags these were for, and no name is given twice
(`NamerLog.numbered_and_distinct`).  A clone starts with the log that it was made from; afterwards each of the two is
changed by what is asked of itself only.
-/

namespace SqlFilter

/-- What a namer is asked: a name for a column and the tag of an operator. -/
structure Ask where
  column : Column
  tag : String

/-- What the name starts with. -/
def Ask.stem (a : Ask) : String := a.column.paramPrefix

/-- A namer with what was asked of it, or of what it was cloned from, and the names that were given. -/
structure NamerLog where
  namer : Namer
  asks : List Ask
  names : List String

/-- Something is asked of one namer, or a clone of it is made. -/
inductive NamerEvent
  | ask (i : Nat) (a : Ask)
  | clone (i : Nat)

/-- What is asked of one namer, in order. -/
def NamerEvent.asksTo (i : Nat) (events : List NamerEvent) : List Ask :=
  events.filterMap fun
    | ask j a => if j = i then some a else none
    | clone _ => none

/-- The names that asks have, in order: each is numbered by the earlier asks with its stem. -/
def Ask.numbered (asks : List Ask) : List String :=
  asks.mapIdx fun k a =>
    a.stem ++ "_" ++ a.tag ++ "_" ++ toString ((asks.take k).countP fun b => b.stem = a.stem)

namespace NamerLog

def new : NamerLog := ⟨{}, [], []⟩

def ask (l : NamerLog) (a : Ask) : NamerLog :=
  ⟨(l.namer.next a.column a.tag).2, l.asks ++ [a], l.names ++ [(l.namer.next a.column a.tag).1]⟩

/-- The logs after an event; a clone comes last. -/
def step (logs : List NamerLog) : NamerEvent → List NamerLog
  | .ask i a => logs.modify i fun l => l.ask a
  | .clone i => logs ++ logs[i]?.toList

/-- The logs after some events, from that of a new namer on. -/
def run (events : List NamerEvent) : List NamerLog := events.foldl step [new]

/-! ### Names are numbered -/

private theorem numbered_append (asks : List Ask) (a : Ask) :
    Ask.numbered (asks ++ [a]) =
      Ask.numbered asks ++ [Namer.nameOf a.stem a.tag (asks.countP fun b => b.stem = a.stem)] := by
  unfold Ask.numbered
  rw [List.mapIdx_concat, List.take_left]
  refine congrArg (· ++ _) (List.ext_getElem (by simp) fun k hk _ => ?_)
  rw [List.length_mapIdx] at hk
  rw [List.getElem_mapIdx, List.getElem_mapIdx, List.take_append_of_le_length (Nat.le_of_lt hk)]

/-- Between two asks with the same stem the first one is counted. -/
private theorem countP_take_lt {asks : List Ask} {i j : Nat} (hi : i < asks.length) (hij : i < j) :
    ((asks.take i).countP fun b => b.stem = asks[i].stem) < (asks.take j).countP fun b => b.stem = asks[i].stem := by
  calc ((asks.take i).countP fun b => b.stem = asks[i].stem)
      < (asks.take (i + 1)).countP fun b => b.stem = asks[i].stem := by
        rw [List.take_succ_eq_append_getElem hi, List.countP_append]
        simp
    _ ≤ (asks.take j).countP fun b => b.stem = asks[i].stem := (List.take_prefix_take_left hij).countP_le

/-- Names that are read from the right tell their asks apart. -/
private theorem nodup_numbered {asks : List Ask} (htags : ∀ a ∈ asks, '_' ∉ a.tag.toList) :
    (Ask.numbered asks).Nodup := by
  rw [List.Nodup, List.pairwise_iff_getElem]
  intro i j hi hj hij h
  simp only [Ask.numbered, List.length_mapIdx] at hi hj
  simp only [Ask.numbered, List.getElem_mapIdx] at h
  obtain ⟨hstem, -, hcount⟩ := Namer.nameOf_inj (htags _ (List.getElem_mem hi)) (htags _ (List.getElem_mem hj)) h
  have hlt := countP_take_lt hi hij
  rw [hstem] at hlt hcount
  exact absurd hcount (Nat.ne_of_lt hlt)

/-- The namer has counted what was asked, and the names are numbered by it. -/
structure Numbered (l : NamerLog) : Prop where
  counts : ∀ stem, l.namer.count stem = l.asks.countP fun b => b.stem = stem
  names : l.names = Ask.numbered l.asks
  tags : ∀ a ∈ l.asks, '_' ∉ a.tag.toList

theorem Numbered.ask {l : NamerLog} (h : l.Numbered) {a : Ask} (ha : '_' ∉ a.tag.toList) : (l.ask a).Numbered := by
  refine ⟨fun stem => ?_, ?_, ?_⟩
  · show (l.namer.next a.column a.tag).2.count stem = (l.asks ++ [a]).countP fun b => b.stem = stem
    have hstem : stem = a.column.paramPrefix ↔ a.stem = stem := eq_comm
    rw [Namer.count_next, h.counts, List.countP_append, List.countP_singleton]
    by_cases hs : a.stem = stem <;> simp [hstem, hs]
  · show l.names ++ [(l.namer.next a.column a.tag).1] = Ask.numbered (l.asks ++ [a])
    rw [numbered_append, ← h.names, ← h.counts]
    rfl
  · show ∀ b ∈ l.asks ++ [a], _
    rw [List.forall_mem_append, List.forall_mem_singleton]
    exact ⟨h.tags, ha⟩

private theorem numbered_step {logs : List NamerLog} (h : ∀ l ∈ logs, l.Numbered) {e : NamerEvent}
    (he : ∀ i a, e = .ask i a → '_' ∉ a.tag.toList) : ∀ l ∈ step logs e, l.Numbered := by
  cases e with
  | ask i a =>
    intro l hl
    obtain ⟨j, hj⟩ := List.mem_iff_getElem?.1 hl
    rw [step, List.getElem?_modify, Option.map_eq_map, Option.map_eq_some_iff] at hj
    obtain ⟨l₀, hl₀, rfl⟩ := hj
    have hnumbered := h l₀ (List.mem_of_getElem? hl₀)
    split
    · exact hnumbered.ask (he i a rfl)
    · exact hnumbered
  | clone i =>
    rw [step, List.forall_mem_append]
    refine ⟨h, fun l hl => h l ?_⟩
    exact List.mem_of_getElem? (Option.mem_toList.1 hl)

private theorem numbered_foldl_step {logs : List NamerLog} (h : ∀ l ∈ logs, l.Numbered) {events : List NamerEvent}
    (he : ∀ i a, .ask i a ∈ events → '_' ∉ a.tag.toList) : ∀ l ∈ events.foldl step logs, l.Numbered := by
  induction events generalizing logs with
  | nil => exact h
  | cons e events ih =>
    refine ih (numbered_step h fun i a hea => ?_) fun i a ha => he i a (List.mem_cons_of_mem e ha)
    exact he i a (hea ▸ List.mem_cons_self ..)

private theorem numbered_new : new.Numbered := ⟨fun _ => rfl, rfl, nofun⟩

/-! ### Clones are apart -/

open NamerEvent (asksTo)

private theorem asks_foldl_ask (l : NamerLog) (as : List Ask) : (as.foldl ask l).asks = l.asks ++ as := by
  induction as generalizing l with
  | nil => simp
  | cons a as ih =>
    rw [List.foldl_cons, ih]
    simp [ask]

/-- A log that is there is changed by what is asked of its own namer only. -/
private theorem getElem?_step {logs : List NamerLog} {i : Nat} (hi : i < logs.length) (e : NamerEvent) :
    (step logs e)[i]? = logs[i]?.map fun l => (asksTo i [e]).foldl ask l := by
  cases e with
  | ask j a =>
    rw [step, List.getElem?_modify, Option.map_eq_map]
    refine congrArg (Option.map · _) (funext fun l => ?_)
    by_cases h : j = i <;> simp [asksTo, h]
  | clone j =>
    rw [step, List.getElem?_append_left hi]
    simp [asksTo]

private theorem length_le_step (logs : List NamerLog) (e : NamerEvent) : logs.length ≤ (step logs e).length := by
  cases e <;> simp [step]

private theorem getElem?_foldl_step {logs : List NamerLog} {i : Nat} (hi : i < logs.length)
    (events : List NamerEvent) :
    (events.foldl step logs)[i]? = logs[i]?.map fun l => (asksTo i events).foldl ask l := by
  induction events generalizing logs with
  | nil => simp [asksTo]
  | cons e events ih =>
    have hcons : asksTo i (e :: events) = asksTo i [e] ++ asksTo i events := by
      rw [asksTo, ← List.singleton_append, List.filterMap_append]
      rfl
    rw [List.foldl_cons, ih (Nat.lt_of_lt_of_le hi (length_le_step logs e)), getElem?_step hi, Option.map_map, hcons]
    refine congrArg (Option.map · _) (funext fun l => ?_)
    rw [List.foldl_append]
    rfl

/-- What was asked of a log that is there is followed by what is asked of its own namer. -/
private theorem asks_foldl_step {logs : List NamerLog} {i : Nat} {l : NamerLog} (hl : logs[i]? = some l)
    (events : List NamerEvent) :
    (events.foldl step logs)[i]?.map asks = some (l.asks ++ asksTo i events) := by
  have hi : i < logs.length := (List.getElem?_eq_some_iff.1 hl).1
  rw [getElem?_foldl_step hi, hl, Option.map_some, Option.map_some, asks_foldl_ask]

/-- Whatever is asked of a namer and its clones, for any tables and columns and for tags without a separator, no log has
a name twice, and its names are numbered by its earlier asks with the same stem.  The log of the namer is that of what
is asked of it.  After a clone is made, the log that it was made from goes on with what is asked of this namer only, and
the clone goes on from the same log with what is asked of the clone only. -/
theorem numbered_and_distinct (events : List NamerEvent) (he : ∀ i a, .ask i a ∈ events → '_' ∉ a.tag.toList) :
    (∀ l ∈ run events, l.names.Nodup ∧
      l.names = l.asks.mapIdx fun k a =>
        Text.sanitize a.column.table ++ "_" ++ Text.sanitize a.column.expression ++ "_" ++ a.tag ++ "_" ++
          toString ((l.asks.take k).countP fun b => b.column.paramPrefix = a.column.paramPrefix)) ∧
      (run events)[0]?.map asks = some (asksTo 0 events) ∧
      ∀ before i after, events = before ++ .clone i :: after → ∀ l, (run before)[i]? = some l →
        (run events)[i]?.map asks = some (l.asks ++ asksTo i after) ∧
        (run events)[(run before).length]?.map asks = some (l.asks ++ asksTo (run before).length after) := by
  refine ⟨fun l hl => ?_, ?_, ?_⟩
  · have hnumbered := numbered_foldl_step (List.forall_mem_singleton.2 numbered_new) he l hl
    have hnodup := nodup_numbered hnumbered.tags
    rw [← hnumbered.names] at hnodup
    exact ⟨hnodup, hnumbered.names⟩
  · have hnew : [new][0]? = some new := rfl
    exact asks_foldl_step hnew events
  · rintro before i after rfl l hl
    have hi : i < (run before).length := (List.getElem?_eq_some_iff.1 hl).1
    have hrun : run (before ++ .clone i :: after) = after.foldl step (run before ++ [l]) := by
      rw [run, List.foldl_append, List.foldl_cons, ← run, step, hl]
      rfl
    rw [hrun]
    refine ⟨asks_foldl_step ?_ after, asks_foldl_step ?_ after⟩
    · rw [List.getElem?_append_left hi, hl]
    · exact List.getElem?_concat_length ..

/-- Columns that share a stem, one that has a tag in its stem, one without a word character, and a clone that is asked
before its original is. -/
theorem numbered_and_distinct_shared_stem :
    let events : List NamerEvent := [.ask 0 ⟨⟨"a", "b->>'c'"⟩, "eq"⟩, .ask 0 ⟨⟨"a_b", "c"⟩, "eq"⟩, .clone 0,
      .ask 1 ⟨⟨"a", "b_c"⟩, "gt"⟩, .ask 1 ⟨⟨"a_b", "c_gt"⟩, "eq"⟩, .ask 0 ⟨⟨"a", "b_c"⟩, "gt"⟩,
      .ask 0 ⟨⟨"", "->"⟩, "eq"⟩]
    (∀ i a, .ask i a ∈ events → '_' ∉ a.tag.toList) ∧
      (run events).map names = [["a_b_c_eq_0", "a_b_c_eq_1", "a_b_c_gt_2", "__eq_0"],
        ["a_b_c_eq_0", "a_b_c_eq_1", "a_b_c_gt_2", "a_b_c_gt_eq_0"]] ∧
      (∀ l ∈ run events, l.names.Nodup) ∧
      (run events)[1]?.map asks = some ((asksTo 0 (events.take 2)) ++ asksTo 1 (events.drop 3)) := by
  intro events
  have htags : ∀ i a, .ask i a ∈ events → '_' ∉ a.tag.toList := by
    intro i a h
    simp only [events, List.mem_cons, List.not_mem_nil, NamerEvent.ask.injEq, reduceCtorEq, or_false, false_or] at h
    rcases h with ⟨-, rfl⟩ | ⟨-, rfl⟩ | ⟨-, rfl⟩ | ⟨-, rfl⟩ | ⟨-, rfl⟩ | ⟨-, rfl⟩ <;> decide
  obtain ⟨hnames, -, hclone⟩ := numbered_and_distinct events htags
  refine ⟨htags, by decide +kernel, fun l hl => (hnames l hl).1, ?_⟩
  exact (hclone (events.take 2) 0 (events.drop 3) rfl _ rfl).2

end NamerLog

end SqlFilter
