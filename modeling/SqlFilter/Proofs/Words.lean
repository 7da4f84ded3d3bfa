import SqlFilter.Text.Identifier

/-!
# Words and column expressions

What `sanitize` leaves of a text are word characters only, and a text that the automaton of column expressions accepts
falls into an identifier and hops (`exists_hops`).
-/

namespace SqlFilter.Text

/-! ### Sanitized text -/

private theorem mem_intercalate {α : Type} {x : α} {sep : List α} {l : List (List α)} (h : x ∈ sep.intercalate l) :
    x ∈ sep ∨ ∃ w ∈ l, x ∈ w := by
  induction l with
  | nil => cases h
  | cons w l ih =>
    cases l with
    | nil =>
      rw [List.intercalate_singleton] at h
      exact .inr ⟨w, List.mem_cons_self .., h⟩
    | cons w' l =>
      rw [List.intercalate_cons_cons, List.mem_append, List.mem_append] at h
      rcases h with (h | h) | h
      · exact .inr ⟨w, List.mem_cons_self .., h⟩
      · exact .inl h
      · rcases ih h with h | ⟨v, hv, h⟩
        · exact .inl h
        · exact .inr ⟨v, List.mem_cons_of_mem _ hv, h⟩

private theorem isWordChar_of_mem_stretches {s : List Char} :
    (∀ c ∈ (stretches s).1, isWordChar c = true) ∧ ∀ w ∈ (stretches s).2, ∀ c ∈ w, isWordChar c = true := by
  induction s with
  | nil => exact ⟨fun c hc => (nomatch hc), fun w hw => (nomatch hw)⟩
  | cons c s ih =>
    rw [stretches]
    dsimp only
    split
    · rename_i hc
      refine ⟨?_, ih.2⟩
      intro d hd
      rcases List.mem_cons.1 hd with rfl | hd
      · exact hc
      · exact ih.1 d hd
    · refine ⟨fun d hd => (nomatch hd), ?_⟩
      intro w hw
      rcases List.mem_cons.1 hw with rfl | hw
      · exact ih.1
      · exact ih.2 w hw

/-- Sanitized text has word characters only. -/
theorem isWordChar_of_mem_sanitize {s : String} {c : Char} (h : c ∈ (sanitize s).toList) : isWordChar c = true := by
  rw [sanitize, String.toList_ofList] at h
  rcases mem_intercalate h with h | ⟨w, hw, h⟩
  · rw [List.mem_singleton.1 h]
    rfl
  · rcases List.mem_cons.1 (List.mem_filter.1 hw).1 with rfl | hw
    · exact isWordChar_of_mem_stretches.1 c h
    · exact isWordChar_of_mem_stretches.2 w hw c h

/-! ### Identifiers and hops -/

private theorem isWordChar_of_isWordStart {c : Char} (h : isWordStart c = true) : isWordChar c = true := by
  simp only [isWordStart, isWordChar, Char.isAlphanum, Bool.or_eq_true] at h ⊢
  rcases h with h | h
  · exact .inl (.inl h)
  · exact .inr h

theorem isKeyChar_of_isWordChar {c : Char} (h : isWordChar c = true) : isKeyChar c = true := by
  rw [isKeyChar, h, Bool.true_or]

/-- A character of a column expression: that of a key, an arrow or a quote. -/
def isColumnChar (c : Char) : Bool := isKeyChar c || c = '>' || c = '\''

private theorem PathState.isColumnChar_of_step {q q' : PathState} {c : Char} (h : q.step c = some q') :
    isColumnChar c = true := by
  have hword : isWordChar c = true → isColumnChar c = true := fun hc => by
    rw [isColumnChar, isKeyChar_of_isWordChar hc, Bool.true_or, Bool.true_or]
  cases q with
  | start =>
    rw [step] at h
    split at h
    · exact hword (isWordChar_of_isWordStart ‹_›)
    · cases h
  | word | dash | arrow | wideArrow | keyStart | key | closed => grind [step, isColumnChar, isKeyChar]

private theorem PathState.isColumnChar_of_accepts {q : PathState} {s : List Char} (h : q.accepts s = true) :
    ∀ c ∈ s, isColumnChar c = true := by
  induction s generalizing q with
  | nil => exact fun c hc => nomatch hc
  | cons c r ih =>
    rw [accepts] at h
    cases hq : q.step c with
    | none =>
      rw [hq] at h
      cases h
    | some q' =>
      rw [hq] at h
      exact List.forall_mem_cons.2 ⟨isColumnChar_of_step hq, ih h⟩

theorem isColumnChar_of_isColumnExpression {s : String} (h : isColumnExpression s = true) :
    ∀ c ∈ s.toList, isColumnChar c = true :=
  PathState.isColumnChar_of_accepts h

theorem isWordChar_of_isIdentifier {s : String} (h : isIdentifier s = true) :
    s.toList ≠ [] ∧ ∀ c ∈ s.toList, isWordChar c = true := by
  unfold isIdentifier at h
  cases hs : s.toList with
  | nil => rw [hs] at h; cases h
  | cons c r =>
    rw [hs] at h
    simp only [isWord, Bool.and_eq_true, List.all_eq_true] at h
    refine ⟨List.cons_ne_nil c r, ?_⟩
    intro d hd
    rcases List.mem_cons.1 hd with rfl | hd
    · exact isWordChar_of_isWordStart h.1
    · exact h.2 d hd

/-- A hop into a JSON document: `->` or `->>` and a quoted key. -/
structure Hop where
  wide : Bool
  key : List Char
deriving DecidableEq, Repr

namespace Hop

/-- The characters of the arrow after its `->`. -/
def head (h : Hop) : List Char := if h.wide then ['>'] else []

/-- The characters of a hop. -/
def chars (h : Hop) : List Char := '-' :: '>' :: (h.head ++ '\'' :: h.key ++ ['\''])

/-- The key has at least one character and key characters only. -/
def WellFormed (h : Hop) : Prop := h.key ≠ [] ∧ ∀ c ∈ h.key, isKeyChar c = true

end Hop

theorem hasArrow_append (w r : List Char) : hasArrow (w ++ '-' :: '>' :: r) = true := by
  induction w with
  | nil => rfl
  | cons c w ih => rw [List.cons_append, hasArrow, ih, Bool.or_true]

/-- What the automaton of column expressions has to read on from a state. -/
private def PathState.Rest : PathState → List Char → Prop
  | .start, s => ∃ w, ∃ hops : List Hop, isWord w = true ∧ (∀ h ∈ hops, h.WellFormed) ∧ s = w ++ hops.flatMap Hop.chars
  | .word, s => ∃ w, ∃ hops : List Hop, (∀ c ∈ w, isWordChar c = true) ∧ (∀ h ∈ hops, h.WellFormed) ∧
      s = w ++ hops.flatMap Hop.chars
  | .closed, s => ∃ hops : List Hop, (∀ h ∈ hops, h.WellFormed) ∧ s = hops.flatMap Hop.chars
  | .dash, s => ∃ hop : Hop, ∃ hops : List Hop, (∀ h ∈ hop :: hops, h.WellFormed) ∧
      '-' :: s = hop.chars ++ hops.flatMap Hop.chars
  | .arrow, s => ∃ hop : Hop, ∃ hops : List Hop, (∀ h ∈ hop :: hops, h.WellFormed) ∧
      '-' :: '>' :: s = hop.chars ++ hops.flatMap Hop.chars
  | .wideArrow, s => ∃ hop : Hop, ∃ hops : List Hop, (∀ h ∈ hop :: hops, h.WellFormed) ∧
      '-' :: '>' :: '>' :: s = hop.chars ++ hops.flatMap Hop.chars
  | .keyStart, s => ∃ key, ∃ hops : List Hop, key ≠ [] ∧ (∀ c ∈ key, isKeyChar c = true) ∧
      (∀ h ∈ hops, h.WellFormed) ∧ s = key ++ '\'' :: hops.flatMap Hop.chars
  | .key, s => ∃ key, ∃ hops : List Hop, (∀ c ∈ key, isKeyChar c = true) ∧ (∀ h ∈ hops, h.WellFormed) ∧
      s = key ++ '\'' :: hops.flatMap Hop.chars

/-- The states are read off the hops that are left: one case for each state that the automaton goes on in. -/
private theorem PathState.rest_of_accepts {q : PathState} {s : List Char} (h : q.accepts s = true) : q.Rest s := by
  -- a character leads to one state at most, and what is left after it is known by induction
  induction s generalizing q with
  | nil =>
    cases q with
    | word => exact ⟨[], [], by simp, by simp, rfl⟩
    | closed => exact ⟨[], by simp, rfl⟩
    | _ => cases h
  | cons c s ih =>
    rw [accepts] at h
    cases q with
    | start =>
      by_cases hc : isWordStart c = true
      · simp only [step, hc, ↓reduceIte] at h
        obtain ⟨w, hops, hw, hh, rfl⟩ := ih h
        exact ⟨c :: w, hops, by simpa [isWord, hc] using hw, hh, rfl⟩
      · simp [step, hc] at h
    | word =>
      by_cases hc : isWordChar c = true
      · simp only [step, hc, ↓reduceIte] at h
        obtain ⟨w, hops, hw, hh, rfl⟩ := ih h
        exact ⟨c :: w, hops, by simpa [hc] using hw, hh, rfl⟩
      · by_cases hd : c = '-'
        · subst hd
          obtain ⟨k, hops, hh, hs⟩ := ih (q := .dash) h
          exact ⟨[], k :: hops, by simp, hh, by simpa using hs⟩
        · simp [step, hc, hd] at h
    | closed =>
      by_cases hd : c = '-'
      · subst hd
        obtain ⟨k, hops, hh, hs⟩ := ih (q := .dash) h
        exact ⟨k :: hops, hh, by simpa using hs⟩
      · simp [step, hd] at h
    | dash =>
      by_cases hc : c = '>'
      · subst hc
        exact ih (q := .arrow) h
      · simp [step, hc] at h
    | arrow =>
      by_cases hc : c = '>'
      · subst hc
        exact ih (q := .wideArrow) h
      · by_cases hq : c = '\''
        · subst hq
          obtain ⟨key, hops, hne, hk, hh, rfl⟩ := ih (q := .keyStart) h
          refine ⟨⟨false, key⟩, hops, ?_, by simp [Hop.chars, Hop.head]⟩
          exact List.forall_mem_cons.2 ⟨⟨hne, hk⟩, hh⟩
        · simp [step, hc, hq] at h
    | wideArrow =>
      by_cases hq : c = '\''
      · subst hq
        obtain ⟨key, hops, hne, hk, hh, rfl⟩ := ih (q := .keyStart) h
        refine ⟨⟨true, key⟩, hops, ?_, by simp [Hop.chars, Hop.head]⟩
        exact List.forall_mem_cons.2 ⟨⟨hne, hk⟩, hh⟩
      · simp [step, hq] at h
    | keyStart =>
      by_cases hc : isKeyChar c = true
      · simp only [step, hc, ↓reduceIte] at h
        obtain ⟨key, hops, hk, hh, rfl⟩ := ih h
        exact ⟨c :: key, hops, List.cons_ne_nil c key, List.forall_mem_cons.2 ⟨hc, hk⟩, hh, rfl⟩
      · simp [step, hc] at h
    | key =>
      by_cases hc : isKeyChar c = true
      · simp only [step, hc, ↓reduceIte] at h
        obtain ⟨key, hops, hk, hh, rfl⟩ := ih h
        exact ⟨c :: key, hops, List.forall_mem_cons.2 ⟨hc, hk⟩, hh, rfl⟩
      · by_cases hq : c = '\''
        · subst hq
          obtain ⟨hops, hh, rfl⟩ := ih (q := .closed) h
          exact ⟨[], hops, by simp, hh, rfl⟩
        · simp [step, hc, hq] at h

/-- A column expression is an identifier followed by hops. -/
theorem exists_hops {s : String} (h : isColumnExpression s = true) :
    ∃ w, ∃ hops : List Hop, isWord w = true ∧ (∀ h ∈ hops, h.WellFormed) ∧
      s.toList = w ++ hops.flatMap Hop.chars :=
  PathState.rest_of_accepts (q := .start) h

end SqlFilter.Text
