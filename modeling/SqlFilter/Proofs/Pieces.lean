import SqlFilter.Proofs.Numbering

/-!
# Pieces of a text

A run is as long as it can be, so putting a character in front of a text changes the first run only.  With all runs cut
into single characters (`Piece.atoms`) the pieces of a text are those of its front followed by those of its rest,
wherever the text is cut between pieces.  So what holds of the empty text, and of a piece in front of a text if it holds
of the text, holds of all texts (`Piece.text_induction`).
-/

namespace SqlFilter

namespace Piece

/-- A piece with a run cut into its characters. -/
def cut : Piece → List Piece
  | run s => s.map fun c => run [c]
  | p => [p]

/-- The pieces of a text with all runs cut into characters. -/
def atoms (s : List Char) : List Piece := (ofChars s).flatMap cut

variable {c : Char} {s b name : List Char}

theorem ne_of_isNameChar (h : isNameChar c = true) : c ≠ '@' ∧ c ≠ '\'' := by
  refine ⟨?_, ?_⟩
  · rintro rfl
    cases h
  · rintro rfl
    cases h

theorem ofChars_cons (h : isRunChar c = true) :
    ofChars (c :: s) = run (c :: s.takeWhile isRunChar) :: ofChars (s.dropWhile isRunChar) := by
  simp only [isRunChar, Bool.and_eq_true, decide_eq_true_eq] at h
  rw [ofChars]
  · exact fun hc => absurd hc h.2
  · exact fun _ hc => absurd hc h.1
  · exact fun hc => absurd hc h.1

private theorem atoms_takeWhile (s : List Char) :
    atoms s = (s.takeWhile isRunChar).map (fun c => run [c]) ++ atoms (s.dropWhile isRunChar) := by
  cases s with
  | nil => rfl
  | cons c s =>
    cases h : isRunChar c with
    | false => simp [h]
    | true =>
      rw [List.takeWhile_cons, List.dropWhile_cons, h, atoms, ofChars_cons h, List.flatMap_cons]
      rfl

theorem atoms_nil : atoms [] = [] := by
  rw [atoms, ofChars]
  rfl

theorem atoms_cons (h : isRunChar c = true) : atoms (c :: s) = run [c] :: atoms s := by
  rw [atoms, ofChars_cons h, List.flatMap_cons, atoms_takeWhile s]
  rfl

theorem atoms_append {w : List Char} (hw : ∀ c ∈ w, isRunChar c = true) (s : List Char) :
    atoms (w ++ s) = w.map (fun c => run [c]) ++ atoms s := by
  induction w with
  | nil => rfl
  | cons c w ih =>
    rw [List.forall_mem_cons] at hw
    rw [List.cons_append, atoms_cons hw.1, ih hw.2]
    rfl

theorem atoms_doubled : atoms ('@' :: '@' :: s) = doubled :: atoms s := by
  rw [atoms, ofChars, List.flatMap_cons]
  rfl

theorem takeWhile_append_of_head {p : Char → Bool} (hname : ∀ c ∈ name, p c = true)
    (hs : ∀ c ∈ s.head?, p c = false) : (name ++ s).takeWhile p = name ∧ (name ++ s).dropWhile p = s := by
  rw [List.takeWhile_append_of_pos hname, List.dropWhile_append_of_pos hname]
  cases s with
  | nil => exact ⟨List.append_nil name, rfl⟩
  | cons c s =>
    have hc : p c = false := hs c rfl
    rw [List.takeWhile_cons, List.dropWhile_cons, hc]
    exact ⟨List.append_nil name, rfl⟩

/-- A mark that neither a name nor another mark follows stands alone. -/
theorem ofChars_mark (hs : ∀ c ∈ s.head?, isNameChar c = false ∧ c ≠ '@') : ofChars ('@' :: s) = mark :: ofChars s := by
  have hname : s.takeWhile isNameChar = [] := by
    cases s with
    | nil => rfl
    | cons c s => rw [List.takeWhile_cons, (hs c rfl).1, if_neg Bool.false_ne_true]
  rw [ofChars]
  · rw [hname]
    rfl
  · rintro t rfl
    exact (hs '@' rfl).2 rfl

theorem atoms_mark (hs : ∀ c ∈ s.head?, isNameChar c = false ∧ c ≠ '@') : atoms ('@' :: s) = mark :: atoms s := by
  rw [atoms, ofChars_mark hs, List.flatMap_cons]
  rfl

/-- What follows a name as long as it can be does not go on with it. -/
theorem isNameChar_head_dropWhile (r : List Char) :
    ∀ c ∈ (r.dropWhile isNameChar).head?, isNameChar c = false := by
  intro c hc
  have := List.head?_dropWhile_not isNameChar r
  rw [Option.mem_def.1 hc] at this
  simpa using this

/-- The name of a placeholder goes on until a character that is none of a name. -/
theorem ofChars_placeholder (hne : name ≠ []) (hname : ∀ c ∈ name, isNameChar c = true)
    (hs : ∀ c ∈ s.head?, isNameChar c = false) : ofChars ('@' :: (name ++ s)) = placeholder name :: ofChars s := by
  obtain ⟨htake, hdrop⟩ := takeWhile_append_of_head hname hs
  obtain ⟨c, r, rfl⟩ := List.exists_cons_of_ne_nil hne
  have hc : c ≠ '@' := (ne_of_isNameChar (hname c (List.mem_cons_self ..))).1
  rw [ofChars]
  · rw [htake, hdrop]
    rfl
  · intro t ht
    rw [List.cons_append] at ht
    exact hc (List.cons.inj ht).1

theorem atoms_placeholder (hne : name ≠ []) (hname : ∀ c ∈ name, isNameChar c = true)
    (hs : ∀ c ∈ s.head?, isNameChar c = false) : atoms ('@' :: (name ++ s)) = placeholder name :: atoms s := by
  rw [atoms, ofChars_placeholder hne hname hs, List.flatMap_cons]
  rfl

theorem splitLiteral_append_quote (hb : '\'' ∉ b) (hs : s.head? ≠ some '\'') :
    splitLiteral (b ++ '\'' :: s) = (b ++ ['\''], s) := by
  induction b with
  | nil =>
    rw [List.nil_append, splitLiteral]
    · rfl
    · rintro t rfl
      exact hs rfl
  | cons c b ih =>
    rw [List.mem_cons, not_or] at hb
    have hc : c ≠ '\'' := fun h => hb.1 h.symm
    rw [List.cons_append, splitLiteral, ih hb.2]
    · rfl
    · exact fun _ h _ => absurd h hc
    · exact fun h => absurd h hc

theorem atoms_quote (r : List Char) :
    atoms ('\'' :: r) = literal ('\'' :: (splitLiteral r).1) :: atoms (splitLiteral r).2 := by
  rw [atoms, ofChars, List.flatMap_cons]
  rfl

theorem atoms_literal (hb : '\'' ∉ b) (hs : s.head? ≠ some '\'') :
    atoms ('\'' :: (b ++ '\'' :: s)) = literal ('\'' :: (b ++ ['\''])) :: atoms s := by
  rw [atoms_quote, splitLiteral_append_quote hb hs]

/-- The text after a literal does not start with a quote. -/
theorem head?_splitLiteral (r : List Char) : (splitLiteral r).2.head? ≠ some '\'' := by
  fun_induction splitLiteral r with
  | case1 =>
    intro hhead
    cases hhead
  | case2 r s t hst ih => rwa [hst] at ih
  | case3 r hr =>
    intro hhead
    obtain ⟨t, rfl⟩ := List.head?_eq_some_iff.1 hhead
    exact hr t rfl
  | case4 c r _ _ s t hst ih => rwa [hst] at ih

/-- A literal ends where it did in front of any other text, unless a quote goes on with it.  One that was never closed
has no text after it. -/
theorem splitLiteral_append_rest {r t : List Char} (hend : (splitLiteral r).2 = [] → t = [])
    (ht : t.head? ≠ some '\'') : splitLiteral ((splitLiteral r).1 ++ t) = ((splitLiteral r).1, t) := by
  fun_induction splitLiteral r with
  | case1 =>
    rw [hend rfl]
    rfl
  | case2 r s u hsu ih =>
    rw [hsu] at ih
    rw [List.cons_append, List.cons_append, splitLiteral, ih hend]
  | case3 r =>
    rw [List.singleton_append, splitLiteral]
    rintro u rfl
    exact ht rfl
  | case4 c r hdoubled hc s u hsu ih =>
    rw [hsu] at ih
    rw [List.cons_append, splitLiteral, ih hend]
    · exact fun _ h _ => hc h
    · exact hc

/-! ### Induction on the pieces of a text -/

/-- The first piece of a text and the rest of the text, which does not go on with the piece. -/
inductive First : List Char → Piece → List Char → Prop
  | literal (r : List Char) : First ('\'' :: r) (literal ('\'' :: (splitLiteral r).1)) (splitLiteral r).2
  | doubled (r : List Char) : First ('@' :: '@' :: r) doubled r
  | mark (r : List Char) : (∀ c ∈ r.head?, isNameChar c = false ∧ c ≠ '@') → First ('@' :: r) mark r
  | placeholder (name r : List Char) : name ≠ [] → (∀ c ∈ name, isNameChar c = true) →
    (∀ c ∈ r.head?, isNameChar c = false) → First ('@' :: (name ++ r)) (placeholder name) r
  | run (c : Char) (r : List Char) : isRunChar c = true →
    First (c :: r) (run (c :: r.takeWhile isRunChar)) (r.dropWhile isRunChar)

variable {p : Piece} {l rest : List Char}

theorem First.ofChars (h : First l p rest) : ofChars l = p :: ofChars rest := by
  cases h with
  | literal => rw [Piece.ofChars]
  | doubled => rw [Piece.ofChars]
  | mark _ hr => exact ofChars_mark hr
  | placeholder _ _ hne hname hr => exact ofChars_placeholder hne hname hr
  | run _ _ hc => exact ofChars_cons hc

theorem First.append (h : First l p rest) : p.source ++ rest = l := by
  cases h with
  | literal r => rw [source, List.cons_append, splitLiteral_append]
  | run c r => rw [source, List.cons_append, List.takeWhile_append_dropWhile]
  | doubled | mark | placeholder => rfl

theorem First.source_ne_nil (h : First l p rest) : p.source ≠ [] := by
  cases h <;> exact List.cons_ne_nil _ _

theorem First.length_lt (h : First l p rest) : rest.length < l.length := by
  have := List.length_pos_iff.2 h.source_ne_nil
  rw [← h.append, List.length_append]
  omega

/-- Every text but the empty one has a first piece. -/
theorem exists_first (hl : l ≠ []) : ∃ p rest, First l p rest := by
  fun_cases Piece.ofChars l with
  | case1 => exact absurd rfl hl
  | case2 r => exact ⟨_, _, .literal r⟩
  | case3 r => exact ⟨_, _, .doubled r⟩
  | case4 r hr name hname =>
    refine ⟨_, _, .mark r fun c hc => ?_⟩
    obtain ⟨t, rfl⟩ := List.head?_eq_some_iff.1 hc
    have hc : c ≠ '@' := by
      rintro rfl
      exact hr t rfl
    refine ⟨?_, hc⟩
    cases h : isNameChar c with
    | false => rfl
    | true => simp [name, h] at hname
  | case5 r hr name hname =>
    have hall : ∀ c ∈ name, isNameChar c = true := List.all_eq_true.1 (List.all_takeWhile ..)
    have := First.placeholder name _ (fun hnil => hname (List.isEmpty_iff.2 hnil)) hall (isNameChar_head_dropWhile r)
    rw [List.takeWhile_append_dropWhile] at this
    exact ⟨_, _, this⟩
  | case6 c r hq hd hm =>
    refine ⟨_, _, .run c r ?_⟩
    simp only [isRunChar, Bool.and_eq_true, decide_eq_true_eq]
    exact ⟨hm, hq⟩

/-- A text is empty, or one of the pieces and a text that does not go on with it. -/
@[elab_as_elim]
theorem text_induction {P : List Char → Prop} (nil : P [])
    (char : ∀ c s, isRunChar c = true → P s → P (c :: s))
    (literal : ∀ r, P (splitLiteral r).2 → P ('\'' :: r))
    (doubled : ∀ s, P s → P ('@' :: '@' :: s))
    (mark : ∀ s, (∀ c ∈ s.head?, isNameChar c = false ∧ c ≠ '@') → P s → P ('@' :: s))
    (placeholder : ∀ name s, name ≠ [] → (∀ c ∈ name, isNameChar c = true) →
      (∀ c ∈ s.head?, isNameChar c = false) → P s → P ('@' :: (name ++ s)))
    (s : List Char) : P s := by
  induction hn : s.length using Nat.strongRecOn generalizing s with
  | _ n ih =>
    subst hn
    by_cases hs : s = []
    · subst hs
      exact nil
    · obtain ⟨p, rest, hfirst⟩ := exists_first hs
      have hrest : P rest := ih _ hfirst.length_lt rest rfl
      cases hfirst with
      | literal r => exact literal r hrest
      | doubled => exact doubled rest hrest
      | mark _ hr => exact mark rest hr hrest
      | placeholder name _ hne hname hr => exact placeholder name rest hne hname hr hrest
      | run c r hc =>
        -- the characters of the run are put in front of the rest one by one
        have hrun : ∀ w : List Char, (∀ d ∈ w, isRunChar d = true) → P (w ++ r.dropWhile isRunChar) := by
          intro w hw
          induction w with
          | nil => exact hrest
          | cons d w ihw =>
            rw [List.forall_mem_cons] at hw
            exact char d _ hw.1 (ihw hw.2)
        have hall : ∀ d ∈ r.takeWhile isRunChar, isRunChar d = true := List.all_eq_true.1 (List.all_takeWhile ..)
        have := char c _ hc (hrun _ hall)
        rwa [List.takeWhile_append_dropWhile] at this

/-! ### Reading pieces off atoms -/

theorem flatMap_written_atoms (f : String → List Char) (s : List Char) :
    (atoms s).flatMap (written f) = (ofChars s).flatMap (written f) := by
  rw [atoms, List.flatMap_assoc]
  congr 1
  funext p
  cases p with
  | run s =>
    rw [cut, List.flatMap_map]
    exact List.flatMap_singleton' s
  | literal | doubled | placeholder | mark => exact List.append_nil _

theorem filterMap_name?_atoms (s : List Char) : (atoms s).filterMap name? = (ofChars s).filterMap name? := by
  rw [atoms]
  induction ofChars s with
  | nil => rfl
  | cons p ps ih =>
    rw [List.flatMap_cons, List.filterMap_append, ih]
    cases p with
    | run s =>
      -- a run has no names, cut or not
      have hnone : ∀ s : List Char, (s.map fun c => run [c]).filterMap name? = [] := by
        intro s
        simp [List.filterMap_map, name?]
      rw [cut, hnone]
      rfl
    | literal | doubled | placeholder | mark => rfl

end Piece

end SqlFilter
