import SqlFilter.Proofs.Scanning

/-!
# A scan divides the text

Each step of a scanner passes a span of bytes.  As the scanner always stands between two characters, where the first
piece of the rest starts, no span is empty or goes beyond the end and the spans divide the text that they cover
(`Scanner.Passed`).  So a scan has no more steps than the text has bytes; it ends at the end of the text, with the
numbered statement, or at a name without a value (`Scanner.scanning_always_advances`).
-/

namespace SqlFilter

namespace Scanner

open Text (encode)

/-- Steps from the start of the text lead to a scanner.  The spans are those that the steps passed, in order. -/
inductive Reaches (st : Statement) : List (Nat × Nat) → Scanner → Prop
  | start : Reaches st [] {}
  | step {spans : List (Nat × Nat)} {a b : Scanner} : Reaches st spans a → a.step st = .ok b →
    Reaches st (spans ++ [(a.index, b.index)]) b

/-- Spans divide the text up to a byte into texts: the first one starts the text, each other one starts where the one
before it ends, and the last one ends at the byte. -/
structure Divides (s : String) (spans : List (Nat × Nat)) (texts : List String) (stop : Nat) : Prop where
  adjacent : 0 :: spans.map Prod.snd = spans.map Prod.fst ++ [stop]
  nonempty : ∀ e ∈ spans, e.1 < e.2
  slices : spans.map (fun e => Text.slice? s e.1 e.2) = texts.map some
  joined : Text.slice? s 0 stop = some (String.join texts)

variable {s t : String} {st : Statement} {params : Params} {a b : Scanner} {spans : List (Nat × Nat)}
  {texts : List String} {i j : Nat} {p : Piece} {ps done : List Piece} {front back rest : List Char}

theorem Divides.concat (h : Divides s spans texts i) (hij : i < j) (ht : Text.slice? s i j = some t)
    (hj : Text.slice? s 0 j = some (String.join (texts ++ [t]))) :
    Divides s (spans ++ [(i, j)]) (texts ++ [t]) j := by
  refine ⟨?_, ?_, ?_, hj⟩
  · rw [List.map_append, List.map_append, List.map_singleton, List.map_singleton, ← h.adjacent]
    rfl
  · rw [List.forall_mem_append, List.forall_mem_singleton]
    exact ⟨h.nonempty, hij⟩
  · rw [List.map_append, List.map_append, h.slices, List.map_singleton, List.map_singleton, ht]

theorem join_sources (ps : List Piece) :
    String.join (ps.map fun p => String.ofList p.source) = String.ofList (ps.flatMap Piece.source) := by
  have hsource : ∀ p : Piece, (String.toList ∘ fun p => String.ofList p.source) p = p.source :=
    fun _ => String.toList_ofList
  rw [String.join_eq, List.map_map, List.flatMap_def, List.map_congr_left fun p _ => hsource p]

/-! ### What a scanner has written -/

/-- The numbered statement that a scanner comes to if pieces follow. -/
def finish (params : Params) (a : Scanner) (ps : List Piece) : Except QueryError PositionalStatement :=
  (Statement.number params a.seen ps).map fun r => ⟨a.sql ++ r.1, r.2⟩

theorem finish_new (st : Statement) : finish st.params {} (Piece.ofChars st.sql.toList) = st.toPositional := by
  rw [finish, Statement.toPositional]
  simp only [String.empty_append]

/-- A piece is passed and something is written for it, or its name is refused, just as when it is numbered. -/
theorem take_cases (params : Params) (a : Scanner) (p : Piece) :
    (∃ w seen, a.take params p = .ok ⟨a.index + (encode p.source).length, a.sql ++ w, seen⟩ ∧
      ∀ ps, Statement.number params a.seen (p :: ps) =
        (Statement.number params seen ps).map fun r => (w ++ r.1, r.2)) ∨
    ∃ n, a.take params p = .error (.unknownParameter n) ∧
      ∀ ps, Statement.number params a.seen (p :: ps) = .error (.unknownParameter n) := by
  cases p with
  | placeholder name =>
    cases hk : a.seen.findIdx? fun e => e.1 = String.ofList name with
    | some k =>
      refine .inl ⟨Statement.placeholder (k + 1), a.seen, ?_, fun ps => ?_⟩
      · rw [take, replace, hk]
        rfl
      · rw [Statement.number, hk]
    | none =>
      cases hv : params.get? (String.ofList name) with
      | some v =>
        refine .inl ⟨Statement.placeholder (a.seen.length + 1), a.seen ++ [(String.ofList name, v)], ?_, fun ps => ?_⟩
        · rw [take, replace, hk]
          dsimp only
          rw [hv]
          rfl
        · rw [Statement.number, hk]
          dsimp only
          rw [hv]
      | none =>
        refine .inr ⟨String.ofList name, ?_, fun ps => ?_⟩
        · rw [take, replace, hk]
          dsimp only
          rw [hv]
        · rw [Statement.number, hk]
          dsimp only
          rw [hv]
  | literal | doubled | mark | run =>
    refine .inl ⟨_, a.seen, rfl, fun ps => ?_⟩
    rw [Statement.number]
    intro _ hp
    cases hp

theorem index_take (h : a.take params p = .ok b) : b.index = a.index + (encode p.source).length := by
  obtain ⟨w, seen, hb, -⟩ | ⟨n, hn, -⟩ := take_cases params a p
  · rw [hb] at h
    cases h
    rfl
  · rw [hn] at h
    cases h

/-- Passing a piece does not change what the scanner comes to. -/
theorem finish_take (h : a.take params p = .ok b) : a.finish params (p :: ps) = b.finish params ps := by
  obtain ⟨w, seen, hb, hnumber⟩ | ⟨n, hn, -⟩ := take_cases params a p
  · rw [hb] at h
    cases h
    rw [finish, hnumber, finish]
    cases Statement.number params seen ps with
    | error e => rfl
    | ok r =>
      have happend : a.sql ++ (w ++ r.1) = a.sql ++ w ++ r.1 := String.append_assoc.symm
      exact congrArg (fun s => Except.ok (PositionalStatement.mk s r.2)) happend
  · rw [hn] at h
    cases h

/-- Only a name without a value stops a scanner before a piece. -/
theorem finish_of_take_error {e : Stop} (h : a.take params p = .error e) :
    ∃ n, e = .unknownParameter n ∧ ∀ ps, a.finish params (p :: ps) = .error (.unknownParameter n) := by
  obtain ⟨w, seen, hb, -⟩ | ⟨n, hn, hnumber⟩ := take_cases params a p
  · rw [hb] at h
    cases h
  · rw [hn] at h
    cases h
    refine ⟨n, rfl, fun ps => ?_⟩
    rw [finish, hnumber]
    rfl

/-! ### Passed pieces -/

theorem StandsAt.take (h : StandsAt st a front back) (hp : Piece.First back p rest)
    (hb : a.take st.params p = .ok b) : StandsAt st b (front ++ p.source) rest := by
  refine ⟨?_, ?_⟩
  · rw [h.text, ← hp.append, List.append_assoc]
  · rw [index_take hb, h.index, Text.length_encode_append]

theorem StandsAt.size_eq (h : StandsAt st a front back) : st.sql.utf8ByteSize = a.index + (encode back).length := by
  rw [← Text.length_bytes, Text.bytes_eq, h.text, Text.length_encode_append, h.index]

theorem StandsAt.isBoundary (h : StandsAt st a front back) : Text.IsBoundary st.sql a.index :=
  Text.isBoundary_iff.2 ⟨front, back, h.text, h.index⟩

/-- The scanner has passed pieces, each in a span of its own, and stands before the rest of the text. -/
structure Passed (st : Statement) (spans : List (Nat × Nat)) (a : Scanner) (done : List Piece) (back : List Char) :
    Prop where
  stands : StandsAt st a (done.flatMap Piece.source) back
  divides : Divides st.sql spans (done.map fun p => String.ofList p.source) a.index
  count : spans.length ≤ a.index
  finish : a.finish st.params (Piece.ofChars back) = st.toPositional

theorem Passed.start (st : Statement) : Passed st [] {} [] st.sql.toList := by
  refine ⟨⟨rfl, rfl⟩, ⟨rfl, ?_, rfl, ?_⟩, Nat.le_refl 0, finish_new st⟩
  · intro e he
    cases he
  · exact Text.slice?_of_split (a := []) (w := []) (r := st.sql.toList) rfl

/-- Passing one more piece keeps what is said of a scanner, and takes it further. -/
theorem Passed.take (h : Passed st spans a done back) (hp : Piece.First back p rest)
    (hb : a.take st.params p = .ok b) :
    a.index < b.index ∧ Passed st (spans ++ [(a.index, b.index)]) b (done ++ [p]) rest := by
  have hstands := h.stands.take hp hb
  have hlt : a.index < b.index := by
    have := Text.encode_ne_nil hp.source_ne_nil
    have := index_take hb
    omega
  have hsources : (done ++ [p]).flatMap Piece.source = done.flatMap Piece.source ++ p.source := by
    rw [List.flatMap_append, List.flatMap_singleton]
  have hslice : Text.slice? st.sql a.index b.index = some (String.ofList p.source) := by
    rw [h.stands.index, hstands.index]
    exact Text.slice?_of_split hstands.text
  have hfront : Text.slice? st.sql 0 b.index =
      some (String.join ((done.map fun p => String.ofList p.source) ++ [String.ofList p.source])) := by
    have hjoin := join_sources (done ++ [p])
    rw [List.map_append, List.map_singleton] at hjoin
    rw [hjoin, hsources, hstands.index]
    exact Text.slice?_of_split (a := []) hstands.text
  refine ⟨hlt, ?_, ?_, ?_, ?_⟩
  · rwa [hsources]
  · rw [List.map_append, List.map_singleton]
    exact h.divides.concat hlt hslice hfront
  · have := h.count
    rw [List.length_append, List.length_singleton]
    omega
  · rw [← finish_take hb, ← hp.ofChars, h.finish]

/-- A step from pieces that were passed ends the scan, is refused for a name or passes one more piece. -/
theorem Passed.step (h : Passed st spans a done back) :
    (back = [] ∧ a.step st = .error .ended) ∨
    (back ≠ [] ∧ ∃ n, a.step st = .error (.unknownParameter n) ∧ st.toPositional = .error (.unknownParameter n)) ∨
    ∃ b p rest, a.step st = .ok b ∧ a.index < b.index ∧
      Passed st (spans ++ [(a.index, b.index)]) b (done ++ [p]) rest := by
  by_cases hback : back = []
  · subst hback
    exact .inl ⟨rfl, step_nil h.stands⟩
  · obtain ⟨p, rest, hp⟩ := Piece.exists_first hback
    have hstep := h.stands.step_eq_take hp
    cases htake : a.take st.params p with
    | ok b =>
      rw [htake] at hstep
      exact .inr (.inr ⟨b, p, rest, hstep, h.take hp htake⟩)
    | error e =>
      rw [htake] at hstep
      obtain ⟨n, rfl, hfinish⟩ := finish_of_take_error htake
      have hrefused := hfinish (Piece.ofChars rest)
      rw [← hp.ofChars, h.finish] at hrefused
      exact .inr (.inl ⟨hback, n, hstep, hrefused⟩)

/-- A scanner has passed whole pieces wherever it comes to. -/
theorem Reaches.passed (h : Reaches st spans a) : ∃ done back, Passed st spans a done back := by
  induction h with
  | start => exact ⟨[], st.sql.toList, Passed.start st⟩
  | step _ hb ih =>
    obtain ⟨done, back, hpassed⟩ := ih
    obtain ⟨-, hstop⟩ | ⟨-, n, hstop, -⟩ | ⟨b, p, rest, hstep, -, hnext⟩ := hpassed.step
    · rw [hstop] at hb
      cases hb
    · rw [hstop] at hb
      cases hb
    · rw [hstep] at hb
      cases hb
      exact ⟨_, _, hnext⟩

theorem Passed.index_le (h : Passed st spans a done back) : a.index ≤ st.sql.utf8ByteSize := h.stands.isBoundary.le

/-- Behind the last piece the whole text has been passed and its numbered statement been written. -/
theorem Passed.ended (h : Passed st spans a done []) :
    a.index = st.sql.utf8ByteSize ∧ String.join (done.map fun p => String.ofList p.source) = st.sql ∧
      st.toPositional = .ok ⟨a.sql, a.seen.map Prod.snd⟩ := by
  refine ⟨?_, ?_, ?_⟩
  · rw [h.stands.size_eq]
    rfl
  · have htext := h.stands.text
    rw [List.append_nil] at htext
    rw [join_sources, ← htext, String.ofList_toList]
  · rw [← h.finish, Piece.ofChars, Scanner.finish, Statement.number]
    exact congrArg (fun s => Except.ok (PositionalStatement.mk s (a.seen.map Prod.snd))) String.append_empty

/-- As the index grows with each step and stays within the text, every scan stops. -/
theorem Reaches.exists_stop (h : Reaches st spans a) :
    ∃ spans a stop, Reaches st spans a ∧ a.step st = .error stop := by
  induction hn : st.sql.utf8ByteSize - a.index using Nat.strongRecOn generalizing spans a with
  | _ n ih =>
    obtain ⟨done, back, hpassed⟩ := h.passed
    obtain ⟨-, hstop⟩ | ⟨-, n, hstop, -⟩ | ⟨b, p, rest, hstep, hlt, hnext⟩ := hpassed.step
    · exact ⟨spans, a, _, h, hstop⟩
    · exact ⟨spans, a, _, h, hstop⟩
    · have := hnext.index_le
      exact ih _ (by omega) (h.step hstep) rfl

/-- A scan always advances between characters, whatever the text and the bag are.  From any opening quote on, closed
later or not, the literal ends behind the quote and within the text; the next boundary from a byte that is neither mark
nor quote is found if and only if a character starts there, and lies behind the byte and within the text.  Wherever a
scan comes to, it stands between two characters within the text, has made no more steps than it has passed bytes, and
the spans of its steps divide what it has passed; its next step goes on to a later byte within the text, ends at the end
of the text with the numbered statement, or is refused for a name without a value as numbering is, but never cuts a
character.  So every scan stops. -/
theorem scanning_always_advances (st : Statement) :
    let s := st.sql
    let bytes := Text.bytes s
    (∀ i, bytes[i]? = some quote →
      i < literalEnd bytes i ∧ literalEnd bytes i ≤ bytes.length ∧ Text.IsBoundary s (literalEnd bytes i)) ∧
    (∀ i b, bytes[i]? = some b → b ≠ mark → b ≠ quote →
      ((nextBoundary? s i).isSome = true ↔ Text.IsBoundary s i) ∧
        ∀ j, nextBoundary? s i = some j → i < j ∧ j ≤ bytes.length ∧ Text.IsBoundary s j) ∧
    (∀ spans a, Reaches st spans a →
      spans.length ≤ a.index ∧ a.index ≤ bytes.length ∧ Text.IsBoundary s a.index ∧
        ∃ texts, Divides s spans texts a.index ∧
          match a.step st with
          | .ok b => a.index < b.index ∧ b.index ≤ bytes.length
          | .error .ended =>
            a.index = bytes.length ∧ String.join texts = s ∧ st.toPositional = .ok ⟨a.sql, a.seen.map Prod.snd⟩
          | .error (.unknownParameter n) =>
            a.index < bytes.length ∧ st.toPositional = .error (.unknownParameter n)
          | .error (.badSlice _ _) => False) ∧
    ∃ spans a stop, Reaches st spans a ∧ a.step st = .error stop := by
  intro s bytes
  have hsize : bytes.length = s.utf8ByteSize := Text.length_bytes s
  rw [hsize]
  refine ⟨?_, ?_, ?_, Reaches.start.exists_stop⟩
  · intro i hi
    obtain ⟨hlt, hboundary⟩ := literalEnd_bounds hi
    exact ⟨hlt, hboundary.le, hboundary⟩
  · intro i b hb hmark hquote
    refine ⟨isSome_nextBoundary?, fun j hj => ?_⟩
    obtain ⟨hlt, hboundary⟩ := nextBoundary?_bounds hb hmark hquote hj
    exact ⟨hlt, hboundary.le, hboundary⟩
  · intro spans a hreaches
    obtain ⟨done, back, h⟩ := hreaches.passed
    refine ⟨h.count, h.index_le, h.stands.isBoundary, _, h.divides, ?_⟩
    obtain ⟨rfl, hstep⟩ | ⟨hback, n, hstep, hrefused⟩ | ⟨b, p, rest, hstep, hlt, hnext⟩ := h.step
    · rw [hstep]
      exact h.ended
    · rw [hstep]
      have := Text.encode_ne_nil hback
      have hlt : a.index < st.sql.utf8ByteSize := by
        rw [h.stands.size_eq]
        omega
      exact ⟨hlt, hrefused⟩
    · rw [hstep]
      exact ⟨hlt, hnext.index_le⟩

/-- Characters of two bytes before a doubled mark and in a literal that ends with the text after a doubled quote. -/
theorem scanning_always_advances_accents :
    let st : Statement := { sql := "é @@@id'ü''", params := .ofList [("id", .int64 7)] }
    let bytes := Text.bytes st.sql
    (bytes[8]? = some quote ∧ 8 < literalEnd bytes 8 ∧ literalEnd bytes 8 ≤ bytes.length ∧
      Text.IsBoundary st.sql (literalEnd bytes 8)) ∧
    (bytes[1]? = some 169 ∧ (169 : UInt8) ≠ mark ∧ (169 : UInt8) ≠ quote ∧
      ((nextBoundary? st.sql 1).isSome = true ↔ Text.IsBoundary st.sql 1)) ∧
    (bytes[0]? = some 195 ∧ nextBoundary? st.sql 0 = some 3 ∧ 0 < 3 ∧ 3 ≤ bytes.length ∧ Text.IsBoundary st.sql 3) ∧
    Reaches st [(0, 3), (3, 5), (5, 8), (8, 13)] ⟨13, "é @@$1'ü''", [("id", .int64 7)]⟩ ∧
    (∃ texts, Divides st.sql [(0, 3), (3, 5), (5, 8), (8, 13)] texts 13 ∧ String.join texts = st.sql) ∧
    st.toPositional = .ok ⟨"é @@$1'ü''", [.int64 7]⟩ := by
  intro st bytes
  obtain ⟨hliteral, hboundary, hscan, -⟩ := scanning_always_advances st
  have hquote : bytes[8]? = some quote := by decide +kernel
  have hinner : bytes[1]? = some 169 := by decide +kernel
  have hfirst : bytes[0]? = some 195 := by decide +kernel
  have hnext : nextBoundary? st.sql 0 = some 3 := by decide +kernel
  have hreaches : Reaches st [(0, 3), (3, 5), (5, 8), (8, 13)] ⟨13, "é @@$1'ü''", [("id", .int64 7)]⟩ := by
    have hrun : step st {} = .ok ⟨3, "é ", []⟩ := by decide +kernel
    have hdoubled : step st ⟨3, "é ", []⟩ = .ok ⟨5, "é @@", []⟩ := by decide +kernel
    have hname : step st ⟨5, "é @@", []⟩ = .ok ⟨8, "é @@$1", [("id", .int64 7)]⟩ := by decide +kernel
    have hopen : step st ⟨8, "é @@$1", [("id", .int64 7)]⟩ = .ok ⟨13, "é @@$1'ü''", [("id", .int64 7)]⟩ := by
      decide +kernel
    exact (((Reaches.start.step hrun).step hdoubled).step hname).step hopen
  obtain ⟨-, -, -, texts, hdivides, hend⟩ := hscan _ _ hreaches
  have hended : step st ⟨13, "é @@$1'ü''", [("id", .int64 7)]⟩ = .error .ended := by decide +kernel
  rw [hended] at hend
  obtain ⟨-, hjoin, hpositional⟩ := hend
  exact ⟨⟨hquote, hliteral 8 hquote⟩,
    ⟨hinner, by decide, by decide, (hboundary 1 _ hinner (by decide) (by decide)).1⟩,
    ⟨hfirst, hnext, by decide, ((hboundary 0 _ hfirst (by decide) (by decide)).2 3 hnext).2⟩,
    hreaches, ⟨texts, hdivides, hjoin⟩, hpositional⟩

end Scanner

end SqlFilter
