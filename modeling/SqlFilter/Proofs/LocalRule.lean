import SqlFilter.Proofs.Pieces

/-!
# Placeholders by position

Whether a mark `@` starts a placeholder can be told at its place: the number of quotes before it is even, the run of
marks that it ends is odd in length, and a character of a name follows.  Cutting a text into pieces from the left finds
just these placeholders (`Placeholder.piecesAfter_eq`), because between two pieces the quotes are even in
number and neither a run of marks nor a name goes on (`Placeholder.Between`).  So numbering a statement follows the
local rule (`Statement.positional_conversion_is_local`).
-/

namespace SqlFilter

namespace Placeholder

/-! ### The local rule -/

/-- The number of marks `@` at the end of a text. -/
def marksAtEnd (s : List Char) : Nat := (s.reverse.takeWhile (· = '@')).length

/-- A placeholder starts at a position: a mark stands there that is not in a literal, ends a run of marks of odd length,
and has a character of a name after it. -/
def startsAt (s : List Char) (i : Nat) : Bool :=
  s[i]? = some '@' && (s.take i).count '\'' % 2 = 0 && marksAtEnd (s.take (i + 1)) % 2 = 1 &&
    s[i + 1]?.any isNameChar

/-- The longest name after a position. -/
def nameAt (s : List Char) (i : Nat) : List Char := (s.drop (i + 1)).takeWhile isNameChar

/-- The position belongs to the name of a placeholder that starts before it. -/
def isInside (s : List Char) (j : Nat) : Bool :=
  (List.range j).any fun i => startsAt s i && decide (j ≤ i + (nameAt s i).length)

/-- The names of the placeholders of a text, from left to right. -/
def names (s : List Char) : List String :=
  ((List.range s.length).filter (startsAt s)).map fun i => String.ofList (nameAt s i)

/-- A text with each placeholder replaced according to its name and every other character as it is. -/
def replaced (f : String → List Char) (s : List Char) : List Char :=
  (List.range s.length).flatMap fun i =>
    if startsAt s i then f (String.ofList (nameAt s i)) else if isInside s i then [] else s[i]?.toList

/-- What the local rule finds at a position: a placeholder, nothing inside its name, or a single character. -/
def pieceAt (s : List Char) (i : Nat) : List Piece :=
  if startsAt s i then [.placeholder (nameAt s i)]
  else if isInside s i then [] else s[i]?.toList.map fun c => .run [c]

variable {a b w r : List Char} {c : Char}

theorem replaced_eq (f : String → List Char) (s : List Char) :
    replaced f s = ((List.range s.length).flatMap (pieceAt s)).flatMap (Piece.written f) := by
  rw [replaced, List.flatMap_assoc]
  congr 1
  funext i
  unfold pieceAt
  by_cases hs : startsAt s i
  · simp [hs, Piece.written]
  · by_cases hi : isInside s i
    · simp [hs, hi]
    · cases s[i]? <;> simp [hs, hi, Piece.written, Piece.source]

theorem names_eq (s : List Char) : names s = ((List.range s.length).flatMap (pieceAt s)).filterMap Piece.name? := by
  rw [names, List.filterMap_flatMap]
  induction List.range s.length with
  | nil => rfl
  | cons i l ih =>
    rw [List.flatMap_cons, ← ih]
    unfold pieceAt
    by_cases hs : startsAt s i
    · simp [hs, Piece.name?]
    · by_cases hi : isInside s i
      · simp [hs, hi]
      · cases s[i]? <;> simp [hs, hi, Piece.name?]

/-! ### The rule between two texts -/

theorem marksAtEnd_append_mark (a : List Char) : marksAtEnd (a ++ ['@']) = marksAtEnd a + 1 := by
  simp [marksAtEnd]

theorem marksAtEnd_append (a : List Char) (h : c ≠ '@') : marksAtEnd (a ++ [c]) = 0 := by
  simp [marksAtEnd, h]

theorem startsAt_append :
    startsAt (a ++ c :: b) a.length = true ↔
      c = '@' ∧ a.count '\'' % 2 = 0 ∧ marksAtEnd a % 2 = 0 ∧ b.head?.any isNameChar = true := by
  have hnext : (a ++ c :: b)[a.length + 1]? = b.head? := by
    cases b <;> simp
  have htake : (a ++ c :: b).take (a.length + 1) = a ++ [c] := by
    rw [List.take_length_add_append]
    rfl
  have hhere : (a ++ c :: b)[a.length]? = some c := by simp
  unfold startsAt
  rw [hnext, htake, hhere, List.take_left]
  by_cases hc : c = '@'
  · subst hc
    rw [marksAtEnd_append_mark]
    simp only [decide_true, Bool.true_and, Bool.and_eq_true, decide_eq_true_eq, true_and, and_assoc]
    have hodd : (marksAtEnd a + 1) % 2 = 1 ↔ marksAtEnd a % 2 = 0 := by omega
    rw [hodd]
  · simp [hc]

theorem nameAt_append : nameAt (a ++ c :: b) a.length = b.takeWhile isNameChar := by
  rw [nameAt, List.drop_length_add_append]
  rfl

/-- No name of a placeholder in the first text goes on in the second. -/
def Closed (a b : List Char) : Prop :=
  ∀ i, i < a.length → startsAt (a ++ b) i = true → i + (nameAt (a ++ b) i).length < a.length

/-- The place between two texts is one between pieces. -/
structure Between (a b : List Char) : Prop where
  quotes : b ≠ [] → a.count '\'' % 2 = 0
  marks : b.head? = some '@' → marksAtEnd a % 2 = 0
  closed : Closed a b

/-- A character at which no placeholder starts stands for itself. -/
theorem pieceAt_of_not_startsAt (h : Closed a (c :: b)) (hs : startsAt (a ++ c :: b) a.length = false) :
    pieceAt (a ++ c :: b) a.length = [.run [c]] ∧ Closed (a ++ [c]) b := by
  have hinside : isInside (a ++ c :: b) a.length = false := by
    refine List.any_eq_false.2 fun i hi hstart => ?_
    have hia : i < a.length := List.mem_range.1 hi
    obtain ⟨hs, hle⟩ := Bool.and_eq_true_iff.1 hstart
    have := h i hia hs
    have := of_decide_eq_true hle
    omega
  constructor
  · simp [pieceAt, hs, hinside]
  · intro i hi hstart
    rw [List.append_assoc] at hstart ⊢
    rw [List.length_append, List.length_singleton] at hi ⊢
    by_cases hia : i = a.length
    · rw [hia] at hstart
      rw [show [c] ++ b = c :: b from rfl, hs] at hstart
      cases hstart
    · have := h i (by omega) hstart
      exact Nat.lt_succ_of_lt this

/-- What the local rule finds at the places of the second text. -/
def piecesAfter (a w b : List Char) : List Piece :=
  (List.range' a.length w.length).flatMap (pieceAt (a ++ (w ++ b)))

theorem piecesAfter_append (a w r b : List Char) :
    piecesAfter a (w ++ r) b = piecesAfter a w (r ++ b) ++ piecesAfter (a ++ w) r b := by
  unfold piecesAfter
  rw [List.length_append, ← List.range'_append_1, List.flatMap_append, List.length_append, List.append_assoc,
    List.append_assoc]

/-- Characters at which no placeholder starts stand for themselves. -/
theorem piecesAfter_of_not_startsAt (h : Closed a (w ++ b))
    (hw : ∀ x c y, w = x ++ c :: y → startsAt ((a ++ x) ++ c :: (y ++ b)) (a ++ x).length = false) :
    piecesAfter a w b = w.map (fun c => .run [c]) ∧ Closed (a ++ w) b := by
  induction w generalizing a with
  | nil =>
    rw [List.append_nil]
    exact ⟨rfl, h⟩
  | cons c w ih =>
    have hc := hw [] c w rfl
    rw [List.append_nil] at hc
    obtain ⟨hpiece, hclosed⟩ := pieceAt_of_not_startsAt h hc
    obtain ⟨hrest, hb⟩ := ih hclosed fun x d y hx => by
      have := hw (c :: x) d y (by rw [hx]; rfl)
      rwa [List.append_cons a c x] at this
    rw [← List.append_cons] at hb
    refine ⟨?_, hb⟩
    have hfirst : piecesAfter a [c] (w ++ b) = [.run [c]] := by
      rw [← hpiece]
      exact List.append_nil _
    rw [show c :: w = [c] ++ w from rfl, piecesAfter_append, hfirst, hrest]
    rfl

/-! ### Pieces follow the rule -/

/-- A piece with all but the name of a placeholder cut into characters. -/
def letters : Piece → List Piece
  | .placeholder name => [.placeholder name]
  | p => p.source.map fun c => .run [c]

theorem flatMap_written_letters (f : String → List Char) (p : Piece) :
    (letters p).flatMap (Piece.written f) = p.written f := by
  have hsource : ∀ s : List Char, (s.map fun c => Piece.run [c]).flatMap (Piece.written f) = s := by
    intro s
    rw [List.flatMap_map]
    exact List.flatMap_singleton' s
  cases p with
  | placeholder name => exact List.append_nil _
  | literal | doubled | mark | run => exact hsource _

theorem filterMap_name?_letters (p : Piece) : (letters p).filterMap Piece.name? = p.name?.toList := by
  have hsource : ∀ s : List Char, (s.map fun c => Piece.run [c]).filterMap Piece.name? = [] := by
    intro s
    simp [List.filterMap_map, Piece.name?]
  cases p with
  | placeholder name => rfl
  | literal | doubled | mark | run => exact hsource _

/-- Inside a literal the quotes before a mark are odd in number with the opening one. -/
theorem count_of_mark_in_literal {x y : List Char} (h : (Piece.splitLiteral r).1 = x ++ '@' :: y) :
    x.count '\'' % 2 = 0 := by
  fun_induction Piece.splitLiteral r generalizing x with
  | case1 => simp at h
  | case2 r s t hst ih =>
    rcases x with _ | ⟨_, _ | ⟨_, x⟩⟩
    · simp at h
    · simp at h
    · simp only [List.cons_append, List.cons.injEq] at h
      obtain ⟨rfl, rfl, h⟩ := h
      have := ih (by rw [hst]; exact h)
      simp only [List.count_cons_self]
      omega
  | case3 r =>
    rcases x with _ | ⟨_, x⟩ <;> simp at h
  | case4 c r _ hc s t hst ih =>
    rcases x with _ | ⟨_, x⟩
    · rfl
    · simp only [List.cons_append, List.cons.injEq] at h
      obtain ⟨rfl, h⟩ := h
      have := ih (by rw [hst]; exact h)
      rw [List.count_cons_of_ne hc]
      exact this

/-- A literal that text follows ends in a quote that is not written twice. -/
theorem exists_close_of_rest (h : (Piece.splitLiteral r).2 ≠ []) :
    ∃ x, (Piece.splitLiteral r).1 = x ++ ['\''] ∧ x.count '\'' % 2 = 0 := by
  fun_induction Piece.splitLiteral r with
  | case1 => exact absurd rfl h
  | case2 r s t hst ih =>
    rw [hst] at ih
    obtain ⟨x, rfl, hx⟩ := ih h
    refine ⟨'\'' :: '\'' :: x, rfl, ?_⟩
    simp only [List.count_cons_self]
    omega
  | case3 r => exact ⟨[], rfl, rfl⟩
  | case4 c r _ hc s t hst ih =>
    rw [hst] at ih
    obtain ⟨x, rfl, hx⟩ := ih h
    refine ⟨c :: x, rfl, ?_⟩
    rw [List.count_cons_of_ne hc]
    exact hx

/-! ### Cutting from piece to piece -/

theorem not_startsAt_of_getElem? {s : List Char} {i : Nat} (h : s[i]? ≠ some '@') : startsAt s i = false := by
  simp [startsAt, h]

theorem not_startsAt_of_ne (h : c ≠ '@') : startsAt (a ++ c :: b) a.length = false := by
  refine not_startsAt_of_getElem? ?_
  simp [h]

theorem between_literal (h : Between a ('\'' :: r)) :
    piecesAfter a ('\'' :: (Piece.splitLiteral r).1) (Piece.splitLiteral r).2 =
        letters (.literal ('\'' :: (Piece.splitLiteral r).1)) ∧
      Between (a ++ '\'' :: (Piece.splitLiteral r).1) (Piece.splitLiteral r).2 := by
  have hquotes := h.quotes (List.cons_ne_nil _ _)
  have hclosed := h.closed
  rw [← Piece.splitLiteral_append r, ← List.cons_append] at hclosed
  have hnone : ∀ x c y, '\'' :: (Piece.splitLiteral r).1 = x ++ c :: y →
      startsAt ((a ++ x) ++ c :: (y ++ (Piece.splitLiteral r).2)) (a ++ x).length = false := by
    intro x c y hx
    by_cases hc : c = '@'
    · subst hc
      rw [Bool.eq_false_iff]
      intro hs
      have heven := (startsAt_append.1 hs).2.1
      cases x with
      | nil => cases (List.cons.inj hx).1
      | cons d x =>
        obtain ⟨rfl, hbody⟩ := List.cons.inj hx
        have := count_of_mark_in_literal hbody
        rw [List.count_append, List.count_cons_self] at heven
        omega
    · exact not_startsAt_of_ne hc
  obtain ⟨hpieces, hafter⟩ := piecesAfter_of_not_startsAt hclosed hnone
  refine ⟨hpieces, ?_, ?_, hafter⟩
  · intro hne
    obtain ⟨x, hx, hcount⟩ := exists_close_of_rest hne
    rw [hx, List.count_append, List.count_cons_self, List.count_append, List.count_singleton_self]
    omega
  · intro hhead
    have hne : (Piece.splitLiteral r).2 ≠ [] := by
      intro hnil
      rw [hnil] at hhead
      cases hhead
    obtain ⟨x, hx, -⟩ := exists_close_of_rest hne
    rw [hx, ← List.cons_append, ← List.append_assoc, marksAtEnd_append _ (by decide)]

theorem between_doubled (h : Between a ('@' :: '@' :: r)) :
    piecesAfter a ['@', '@'] r = letters .doubled ∧ Between (a ++ ['@', '@']) r := by
  have hquotes := h.quotes (List.cons_ne_nil _ _)
  have hmarks := h.marks rfl
  have hsplit : a ++ ['@', '@'] = a ++ ['@'] ++ ['@'] := by simp
  have hnone : ∀ x c y, ['@', '@'] = x ++ c :: y → startsAt ((a ++ x) ++ c :: (y ++ r)) (a ++ x).length = false := by
    intro x c y hx
    rw [Bool.eq_false_iff]
    intro hs
    obtain ⟨-, -, heven, hnext⟩ := startsAt_append.1 hs
    rcases x with _ | ⟨d, _ | ⟨e, x⟩⟩
    · -- after the first mark comes the second, which is no character of a name
      obtain ⟨rfl, rfl⟩ := List.cons.inj hx
      cases hnext
    · -- the second mark ends a run that is even in length
      obtain ⟨rfl, -⟩ := List.cons.inj hx
      rw [marksAtEnd_append_mark] at heven
      omega
    · simp at hx
  obtain ⟨hpieces, hafter⟩ := piecesAfter_of_not_startsAt h.closed hnone
  refine ⟨hpieces, ?_, ?_, hafter⟩
  · intro _
    rw [List.count_append]
    exact hquotes
  · intro _
    rw [hsplit, marksAtEnd_append_mark, marksAtEnd_append_mark]
    omega

theorem between_mark (h : Between a ('@' :: r)) (hr : ∀ c ∈ r.head?, isNameChar c = false ∧ c ≠ '@') :
    piecesAfter a ['@'] r = letters .mark ∧ Between (a ++ ['@']) r := by
  have hnone : ∀ x c y, ['@'] = x ++ c :: y → startsAt ((a ++ x) ++ c :: (y ++ r)) (a ++ x).length = false := by
    intro x c y hx
    rw [Bool.eq_false_iff]
    intro hs
    obtain ⟨-, -, -, hnext⟩ := startsAt_append.1 hs
    cases x with
    | nil =>
      obtain ⟨rfl, rfl⟩ := List.cons.inj hx
      obtain ⟨d, hd, hname⟩ := (Option.any_eq_true _ _).1 hnext
      rw [(hr d hd).1] at hname
      cases hname
    | cons d x => simp at hx
  obtain ⟨hpieces, hafter⟩ := piecesAfter_of_not_startsAt h.closed hnone
  refine ⟨hpieces, ?_, fun hhead => absurd rfl (hr '@' hhead).2, hafter⟩
  intro _
  rw [List.count_append]
  exact h.quotes (List.cons_ne_nil _ _)

theorem between_run (h : Between a (w ++ b)) (hw : ∀ c ∈ w, Piece.isRunChar c = true) (hne : w ≠ []) :
    piecesAfter a w b = letters (.run w) ∧ Between (a ++ w) b := by
  have hrun : ∀ c ∈ w, c ≠ '@' ∧ c ≠ '\'' := by
    intro c hc
    simpa [Piece.isRunChar] using hw c hc
  have hnone : ∀ x c y, w = x ++ c :: y → startsAt ((a ++ x) ++ c :: (y ++ b)) (a ++ x).length = false := by
    intro x c y hx
    exact not_startsAt_of_ne (hrun c (by rw [hx]; simp)).1
  obtain ⟨hpieces, hafter⟩ := piecesAfter_of_not_startsAt h.closed hnone
  refine ⟨hpieces, ?_, ?_, hafter⟩
  · intro _
    have hcount : w.count '\'' = 0 := List.count_eq_zero.2 fun hq => (hrun _ hq).2 rfl
    have := h.quotes (by simp [hne])
    rw [List.count_append, hcount]
    omega
  · intro _
    obtain ⟨w, c, rfl⟩ := List.eq_nil_or_concat w |>.resolve_left hne
    rw [List.concat_eq_append, ← List.append_assoc, marksAtEnd_append _ (hrun c (by simp)).1]

section

variable {name : List Char} (hname : ∀ c ∈ name, isNameChar c = true)

include hname

theorem not_startsAt_in_name {j : Nat} (haj : a.length < j) (hj : j < a.length + 1 + name.length) :
    startsAt (a ++ '@' :: (name ++ b)) j = false := by
  refine not_startsAt_of_getElem? fun hmark => ?_
  obtain ⟨k, rfl⟩ : ∃ k, j = a.length + (k + 1) := ⟨j - (a.length + 1), by omega⟩
  have hk : k < name.length := by omega
  rw [List.getElem?_append_right (Nat.le_add_right _ _), Nat.add_sub_cancel_left, List.getElem?_cons_succ,
    List.getElem?_append_left hk] at hmark
  exact (Piece.ne_of_isNameChar (hname _ (List.mem_of_getElem? hmark))).1 rfl

theorem piecesAfter_placeholder (hstart : startsAt (a ++ '@' :: (name ++ b)) a.length = true)
    (hnameAt : nameAt (a ++ '@' :: (name ++ b)) a.length = name) :
    piecesAfter a ('@' :: name) b = letters (.placeholder name) := by
  have hmark : piecesAfter a ['@'] (name ++ b) = [.placeholder name] := by
    show pieceAt (a ++ '@' :: (name ++ b)) a.length ++ [] = _
    simp [pieceAt, hstart, hnameAt]
  have hrest : piecesAfter (a ++ ['@']) name b = [] := by
    refine List.flatMap_eq_nil_iff.2 fun j hj => ?_
    rw [List.mem_range'_1, List.length_append, List.length_singleton] at hj
    have hinside : isInside (a ++ '@' :: (name ++ b)) j = true := by
      refine List.any_eq_true.2 ⟨a.length, List.mem_range.2 (by omega), ?_⟩
      rw [hstart, hnameAt, Bool.true_and, decide_eq_true_eq]
      omega
    rw [List.append_assoc]
    show pieceAt (a ++ '@' :: (name ++ b)) j = []
    simp [pieceAt, not_startsAt_in_name hname (show a.length < j by omega) hj.2, hinside]
  rw [show '@' :: name = ['@'] ++ name from rfl, piecesAfter_append, hmark, hrest]
  rfl

theorem between_placeholder (h : Between a ('@' :: (name ++ b))) (hne : name ≠ [])
    (hb : ∀ c ∈ b.head?, isNameChar c = false) :
    piecesAfter a ('@' :: name) b = letters (.placeholder name) ∧ Between (a ++ '@' :: name) b := by
  have hquotes := h.quotes (List.cons_ne_nil _ _)
  have hstart : startsAt (a ++ '@' :: (name ++ b)) a.length = true := by
    refine startsAt_append.2 ⟨rfl, hquotes, h.marks rfl, ?_⟩
    cases name with
    | nil => exact absurd rfl hne
    | cons c name => exact hname c (List.mem_cons_self ..)
  have hnameAt : nameAt (a ++ '@' :: (name ++ b)) a.length = name := by
    rw [nameAt_append]
    exact (Piece.takeWhile_append_of_head hname hb).1
  refine ⟨piecesAfter_placeholder hname hstart hnameAt, ?_, ?_, ?_⟩
  · intro _
    have hcount : name.count '\'' = 0 :=
      List.count_eq_zero.2 fun hq => (Piece.ne_of_isNameChar (hname _ hq)).2 rfl
    rw [List.count_append, List.count_cons_of_ne (by decide), hcount]
    omega
  · intro _
    obtain ⟨x, c, rfl⟩ := List.eq_nil_or_concat name |>.resolve_left hne
    have hc := (Piece.ne_of_isNameChar (hname c (by simp))).1
    rw [List.concat_eq_append, ← List.cons_append, ← List.append_assoc, marksAtEnd_append _ hc]
  · intro i hi hs
    rw [List.append_assoc] at hs ⊢
    rw [List.length_append, List.length_cons] at hi ⊢
    rcases Nat.lt_trichotomy i a.length with hia | rfl | hia
    · have := h.closed i hia hs
      exact Nat.lt_of_lt_of_le this (Nat.le_add_right _ _)
    · show a.length + (nameAt (a ++ '@' :: (name ++ b)) a.length).length < _
      rw [hnameAt]
      omega
    · rw [List.cons_append, not_startsAt_in_name hname hia (by omega)] at hs
      cases hs

end

theorem flatMap_letters_atoms (s : List Char) :
    (Piece.atoms s).flatMap letters = (Piece.ofChars s).flatMap letters := by
  rw [Piece.atoms, List.flatMap_assoc]
  congr 1
  funext p
  cases p with
  | run s =>
    rw [Piece.cut, List.flatMap_map]
    exact List.map_eq_flatMap.symm
  | literal | doubled | placeholder | mark => exact List.append_nil _

private theorem piecesAfter_cons {p : Piece} (hw : piecesAfter a w b = letters p)
    (hb : piecesAfter (a ++ w) b [] = (Piece.atoms b).flatMap letters) :
    piecesAfter a (w ++ b) [] = (p :: Piece.atoms b).flatMap letters := by
  rw [piecesAfter_append, List.append_nil, hw, hb, List.flatMap_cons]

/-- The pieces of a text are what the local rule finds in it. -/
theorem piecesAfter_eq (h : Between a r) : piecesAfter a r [] = (Piece.atoms r).flatMap letters := by
  -- the text that the invariant splits grows by one atom at each step
  induction r using Piece.text_induction generalizing a with
  | nil =>
    rw [Piece.atoms_nil]
    rfl
  | char c s hc ih =>
    obtain ⟨hp, hb⟩ := between_run (w := [c]) h (List.forall_mem_singleton.2 hc) (List.cons_ne_nil _ _)
    rw [Piece.atoms_cons hc]
    have := piecesAfter_cons hp (ih hb)
    exact this
  | literal r ih =>
    obtain ⟨hp, hb⟩ := between_literal h
    have := piecesAfter_cons hp (ih hb)
    rwa [List.cons_append, Piece.splitLiteral_append, ← Piece.atoms_quote] at this
  | doubled s ih =>
    obtain ⟨hp, hb⟩ := between_doubled h
    rw [Piece.atoms_doubled]
    have := piecesAfter_cons hp (ih hb)
    exact this
  | mark s hs ih =>
    obtain ⟨hp, hb⟩ := between_mark h hs
    rw [Piece.atoms_mark hs]
    have := piecesAfter_cons hp (ih hb)
    exact this
  | placeholder name s hne hname hs ih =>
    obtain ⟨hp, hb⟩ := between_placeholder hname h hne hs
    rw [Piece.atoms_placeholder hne hname hs]
    have := piecesAfter_cons hp (ih hb)
    exact this

/-- At the front of a text nothing has been read yet. -/
theorem flatMap_pieceAt (s : List Char) :
    (List.range s.length).flatMap (pieceAt s) = (Piece.ofChars s).flatMap letters := by
  have hfront : Between [] s := ⟨fun _ => rfl, fun _ => rfl, fun i hi => absurd hi (Nat.not_lt_zero i)⟩
  have := piecesAfter_eq hfront
  rwa [piecesAfter, List.append_nil, List.nil_append, List.length_nil, ← List.range_eq_range',
    flatMap_letters_atoms] at this

theorem filterMap_name?_ofChars (s : List Char) : (Piece.ofChars s).filterMap Piece.name? = names s := by
  rw [names_eq, flatMap_pieceAt, List.filterMap_flatMap]
  induction Piece.ofChars s with
  | nil => rfl
  | cons p ps ih =>
    rw [List.flatMap_cons, filterMap_name?_letters, ← ih, List.filterMap_cons]
    cases p.name? <;> rfl

theorem flatMap_written_ofChars (f : String → List Char) (s : List Char) :
    (Piece.ofChars s).flatMap (Piece.written f) = replaced f s := by
  rw [replaced_eq, flatMap_pieceAt, List.flatMap_assoc]
  congr 1
  funext p
  exact (flatMap_written_letters f p).symm

end Placeholder

namespace Statement

theorem map_some_filterMap {α β : Type} {f : α → Option β} {l : List α} (h : ∀ x ∈ l, (f x).isSome = true) :
    (l.filterMap f).map some = l.map f := by
  induction l with
  | nil => rfl
  | cons x l ih =>
    rw [List.forall_mem_cons] at h
    obtain ⟨y, hy⟩ := Option.isSome_iff_exists.1 h.1
    rw [List.filterMap_cons, hy, List.map_cons, List.map_cons, ih h.2, hy]

variable {st : Statement}

/-- The first name of a placeholder that has no value is reported. -/
theorem toPositional_of_missing {n : String}
    (hn : (Placeholder.names st.sql.toList).find? (fun n => !st.params.contains n) = some n) :
    st.toPositional = .error (.unknownParameter n) := by
  rw [← Placeholder.filterMap_name?_ofChars] at hn
  exact toPositional_eq_error hn

/-- If all names have values, placeholders are numbered in order of the first occurrence of names. -/
theorem toPositional_of_forall_contains (h : ∀ n ∈ Placeholder.names st.sql.toList, st.params.contains n = true) :
    let order := (Placeholder.names st.sql.toList).eraseDups
    st.toPositional = .ok ⟨String.ofList (Placeholder.replaced (numbered order) st.sql.toList),
      order.filterMap st.params.get?⟩ := by
  intro order
  have horder : noted [] (Placeholder.names st.sql.toList) = order := by
    have hnew : ∀ n ∈ Placeholder.names st.sql.toList, decide (n ∉ ([] : List String)) = true := fun _ _ => rfl
    rw [noted_eq_eraseDups, List.filter_eq_self.2 hnew]
    rfl
  rw [← Placeholder.filterMap_name?_ofChars] at h horder
  rw [toPositional_eq h horder, Placeholder.flatMap_written_ofChars]

theorem forall_contains_of_toPositional {p : PositionalStatement} (h : st.toPositional = .ok p) :
    ∀ n ∈ Placeholder.names st.sql.toList, st.params.contains n = true := by
  intro n hn
  cases hfind : (Placeholder.names st.sql.toList).find? fun n => !st.params.contains n with
  | none =>
    have := List.find?_eq_none.1 hfind n hn
    simpa using this
  | some n =>
    rw [toPositional_of_missing hfind] at h
    cases h

/-- Numbering follows the local rule, whatever the text and the bag are: it succeeds if and only if every name of a
placeholder has a value, and reports the first name that has none; on success each placeholder is replaced by the place
of its name among the different names in order of their first occurrence, every other character stays, and the values
are those of these names. -/
theorem positional_conversion_is_local (st : Statement) :
    let s := st.sql.toList
    let order := (Placeholder.names s).eraseDups
    ((∃ p, st.toPositional = .ok p) ↔ ∀ n ∈ Placeholder.names s, st.params.contains n = true) ∧
      (∀ n, (Placeholder.names s).find? (fun n => !st.params.contains n) = some n →
        st.toPositional = .error (.unknownParameter n)) ∧
      ∀ p, st.toPositional = .ok p →
        p.sql = String.ofList (Placeholder.replaced (fun n => '$' :: (toString (order.idxOf n + 1)).toList) s) ∧
          p.params.map some = order.map st.params.get? := by
  intro s order
  refine ⟨⟨?_, ?_⟩, ?_, ?_⟩
  · rintro ⟨p, hp⟩
    exact forall_contains_of_toPositional hp
  · intro hall
    exact ⟨_, toPositional_of_forall_contains hall⟩
  · intro n hn
    exact toPositional_of_missing hn
  · intro p hp
    have hall := forall_contains_of_toPositional hp
    rw [toPositional_of_forall_contains hall] at hp
    cases hp
    have hwritten : numbered order = fun n => '$' :: (toString (order.idxOf n + 1)).toList := by
      funext n
      rw [numbered, placeholder, String.toList_append]
      rfl
    have hget : ∀ n ∈ order, (st.params.get? n).isSome = true := fun n hn => hall n (List.mem_eraseDups.1 hn)
    rw [← hwritten]
    exact ⟨rfl, map_some_filterMap hget⟩

/-- Marks in literals with doubled and missing quotes, after a doubled mark, alone, and before a letter that no name has
in it. -/
theorem positional_conversion_is_local_marks :
    let st : Statement := {
      sql := "x = 'it''s @no' || @@@id @ é@b@id @é '@open",
      params := .ofList [("b", .text "y"), ("no", .text "z"), ("id", .int64 7)] }
    Placeholder.names st.sql.toList = ["id", "b", "id"] ∧
      st.toPositional = .ok {
        sql := "x = 'it''s @no' || @@$1 @ é$2$1 @é '@open", params := [.int64 7, .text "y"] } ∧
      Statement.toPositional { st with params := .ofList [("id", .int64 7)] } = .error (.unknownParameter "b") := by
  intro st
  have hnames : Placeholder.names st.sql.toList = ["id", "b", "id"] := by decide +kernel
  obtain ⟨hiff, -, hok⟩ := positional_conversion_is_local st
  obtain ⟨p, hp⟩ := hiff.2 (by rw [hnames]; decide +kernel)
  obtain ⟨hsql, hparams⟩ := hok p hp
  have hmissing := (positional_conversion_is_local { st with params := .ofList [("id", .int64 7)] }).2.1 "b"
  refine ⟨hnames, ?_, hmissing (by rw [hnames]; decide +kernel)⟩
  have hsql' : p.sql = "x = 'it''s @no' || @@$1 @ é$2$1 @é '@open" := by
    rw [hsql]
    decide +kernel
  have hparams' : p.params = [.int64 7, .text "y"] := by
    have hget : p.params.map some = [Value.int64 7, .text "y"].map some := by
      rw [hparams, hnames]
      decide +kernel
    exact (List.map_inj_right fun _ _ => Option.some.inj).1 hget
  rw [hp, ← hsql', ← hparams']

end Statement

end SqlFilter
