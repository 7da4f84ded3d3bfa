import SqlFilter.Proofs.Fragment
import SqlFilter.Proofs.Pieces

/-!
# Reading numbered statements

A reader of a numbered statement finds the marks `$` with the digits after them (`signs`), and can put the names of the
parameters back in their place (`restore`).  A fragment has no mark `$` of its own and no digit follows its
placeholders, so numbering it loses nothing (`Fragment.restores`).
-/

namespace SqlFilter

/-! ### Reading a numbered statement -/

/-- What a reader of a numbered statement finds: the mark `$` with all digits after it, or another character. -/
inductive Sign
  | index (digits : List Char)
  | char (c : Char)
deriving DecidableEq, Repr

/-- The signs of a numbered statement. -/
def signs : List Char → List Sign
  | [] => []
  | c :: s =>
    if c = '$' then .index (s.takeWhile Char.isDigit) :: signs (s.dropWhile Char.isDigit) else .char c :: signs s
termination_by s => s.length
decreasing_by
  · have := (List.dropWhile_sublist (l := s) Char.isDigit).length_le
    simp only [List.length_cons]
    omega
  · simp

/-- The number of a mark. -/
def Sign.index? : Sign → Option Nat
  | index digits => some (Nat.ofDigitChars 10 digits 0)
  | char _ => none

/-- The characters of a sign, with `@` and the name of its number in place of a mark; numbers without a name stay. -/
def Sign.named (names : List String) : Sign → List Char
  | char c => [c]
  | index digits =>
    match Nat.ofDigitChars 10 digits 0 with
    | 0 => '$' :: digits
    | k + 1 =>
      match names[k]? with
      | some n => '@' :: n.toList
      | none => '$' :: digits

/-- The numbers of the marks in a numbered statement. -/
def indices (sql : String) : List Nat := (signs sql.toList).filterMap Sign.index?

/-- A numbered statement with names in place of its marks. -/
def restore (names : List String) (sql : String) : String :=
  String.ofList ((signs sql.toList).flatMap (Sign.named names))

variable {escapes : Bool} {d : Nat} {c : Char} {s w : List Char} {names all : List String} {n : String}

theorem signs_cons (h : c ≠ '$') (s : List Char) : signs (c :: s) = .char c :: signs s := by
  rw [signs, if_neg h]

theorem signs_append (h : '$' ∉ w) (s : List Char) : signs (w ++ s) = w.map .char ++ signs s := by
  induction w with
  | nil => rfl
  | cons c w ih =>
    rw [List.mem_cons, not_or] at h
    rw [List.cons_append, signs_cons (fun hc => h.1 hc.symm), ih h.2]
    rfl

theorem toList_placeholder (k : Nat) : (Statement.placeholder k).toList = '$' :: Nat.toDigits 10 k := by
  simp [Statement.placeholder]

theorem signs_placeholder (k : Nat) (h : ∀ c ∈ s.head?, c.isDigit = false) :
    signs ((Statement.placeholder k).toList ++ s) = .index (Nat.toDigits 10 k) :: signs s := by
  have hdigit : ∀ c ∈ Nat.toDigits 10 k, c.isDigit = true :=
    fun c hc => Nat.isDigit_of_mem_toDigits (by decide) (by decide) hc
  obtain ⟨htake, hdrop⟩ := Piece.takeWhile_append_of_head hdigit h
  rw [toList_placeholder, List.cons_append, signs, if_pos rfl, htake, hdrop]

/-! ### Fragments are restored -/

/-- The text of a statement with numbers in place of its names. -/
def positionalText (all : List String) (s : List Char) : List Char :=
  (Piece.atoms s).flatMap (Piece.written (Statement.numbered all))

/-- Reading a text with numbers for names gives the text and the numbers of the names in it. -/
def Restores (all names : List String) (s : List Char) : Prop :=
  (signs (positionalText all s)).flatMap (Sign.named all) = s ∧
    (signs (positionalText all s)).filterMap Sign.index? = names.map fun n => all.idxOf n + 1

theorem positionalText_nil (all : List String) : positionalText all [] = [] := by
  rw [positionalText, Piece.atoms_nil]
  rfl

theorem positionalText_cons (h : Piece.isRunChar c = true) (s : List Char) :
    positionalText all (c :: s) = c :: positionalText all s := by
  rw [positionalText, Piece.atoms_cons h]
  rfl

theorem positionalText_quote (r : List Char) : positionalText all ('\'' :: r) =
    '\'' :: ((Piece.splitLiteral r).1 ++ positionalText all (Piece.splitLiteral r).2) := by
  rw [positionalText, Piece.atoms_quote]
  rfl

theorem positionalText_doubled (s : List Char) :
    positionalText all ('@' :: '@' :: s) = '@' :: '@' :: positionalText all s := by
  rw [positionalText, Piece.atoms_doubled]
  rfl

theorem positionalText_mark (hs : ∀ c ∈ s.head?, isNameChar c = false ∧ c ≠ '@') :
    positionalText all ('@' :: s) = '@' :: positionalText all s := by
  rw [positionalText, Piece.atoms_mark hs]
  rfl

theorem positionalText_placeholder {name : List Char} (hne : name ≠ []) (hname : ∀ c ∈ name, isNameChar c = true)
    (hs : ∀ c ∈ s.head?, isNameChar c = false) : positionalText all ('@' :: (name ++ s)) =
      Statement.numbered all (String.ofList name) ++ positionalText all s := by
  rw [positionalText, Piece.atoms_placeholder hne hname hs]
  rfl

/-- Numbering changes the first character of a text only if a placeholder is there. -/
theorem head?_positionalText (all : List String) (s : List Char) :
    (positionalText all s).head? = s.head? ∨ s.head? = some '@' ∧ (positionalText all s).head? = some '$' := by
  induction s using Piece.text_induction with
  | nil => exact .inl (by rw [positionalText_nil])
  | char c s hc _ => exact .inl (by rw [positionalText_cons hc]; rfl)
  | literal r _ => exact .inl (by rw [positionalText_quote]; rfl)
  | doubled s _ => exact .inl (by rw [positionalText_doubled]; rfl)
  | mark s hs _ => exact .inl (by rw [positionalText_mark hs]; rfl)
  | placeholder name s hne hname hs _ =>
    refine .inr ⟨rfl, ?_⟩
    rw [positionalText_placeholder hne hname hs, Statement.numbered, toList_placeholder]
    rfl

theorem Restores.cons (hc : Piece.isRunChar c = true) (hd : c ≠ '$') (h : Restores all names s) :
    Restores all names (c :: s) := by
  unfold Restores
  rw [positionalText_cons hc, signs_cons hd]
  exact ⟨congrArg (c :: ·) h.1, h.2⟩

/-- Characters that stay as they are in front of a text. -/
theorem Restores.append {t : List Char} (hw : '$' ∉ w) (ht : positionalText all t = w ++ positionalText all s)
    (h : Restores all names s) (hs : t = w ++ s) : Restores all names t := by
  unfold Restores
  rw [ht, signs_append hw, List.flatMap_append, List.filterMap_append, List.flatMap_map, List.filterMap_map]
  refine ⟨?_, ?_⟩
  · rw [h.1, hs]
    exact congrArg (· ++ s) (List.flatMap_singleton' w)
  · rw [h.2]
    simp [Sign.index?, Function.comp_def]

theorem Restores.placeholder (hn : IsParamName n) (ha : isApart s = true) (hall : n ∈ all)
    (hhead : ∀ c ∈ (positionalText all s).head?, c.isDigit = false) (h : Restores all names s) :
    Restores all (n :: names) ('@' :: (n.toList ++ s)) := by
  have hs : ∀ c ∈ s.head?, isNameChar c = false := fun c hc => (not_isNameChar_of_isApart ha c hc).2
  have hwritten : positionalText all ('@' :: (n.toList ++ s)) =
      (Statement.placeholder (all.idxOf n + 1)).toList ++ positionalText all s := by
    rw [positionalText_placeholder hn.1 hn.2 hs, String.ofList_toList]
    rfl
  have hk : Nat.ofDigitChars 10 (Nat.toDigits 10 (all.idxOf n + 1)) 0 = all.idxOf n + 1 := by simp
  have hname : all[all.idxOf n]? = some n := by
    rw [List.getElem?_eq_getElem (List.idxOf_lt_length_of_mem hall), List.getElem_idxOf]
  unfold Restores
  rw [hwritten, signs_placeholder _ hhead]
  refine ⟨?_, ?_⟩
  · rw [List.flatMap_cons, h.1, Sign.named, hk]
    dsimp only
    rw [hname]
    rfl
  · rw [List.filterMap_cons, Sign.index?, hk, h.2]
    rfl

theorem isRunChar_of_isTextChar (h : isTextChar c = true) : Piece.isRunChar c = true ∧ c ≠ '$' := by
  have hat : c ≠ '@' := ne_of_isTextChar h rfl
  have hquote : c ≠ '\'' := ne_of_isTextChar h rfl
  refine ⟨?_, ne_of_isTextChar h rfl⟩
  rw [Piece.isRunChar, decide_eq_true hat, decide_eq_true hquote]
  rfl

theorem isNameChar_of_isDigit (h : c.isDigit = true) : isNameChar c = true := by
  rw [isNameChar, Char.isAlphanum, h, Bool.or_true, Bool.true_or]

/-- A number that is written in front of a text apart from it does not go on in the text. -/
theorem isDigit_head_positionalText (ha : isApart s = true) :
    ∀ c ∈ (positionalText all s).head?, c.isDigit = false := by
  intro c hc
  rcases head?_positionalText all s with h | ⟨-, h⟩
  · rw [h] at hc
    have hname := (not_isNameChar_of_isApart ha c hc).2
    cases hd : c.isDigit with
    | false => rfl
    | true =>
      rw [isNameChar_of_isDigit hd] at hname
      cases hname
  · rw [h] at hc
    cases hc
    rfl

theorem positionalText_literal {b : List Char} (hb : isLiteralBody escapes b = true) (ha : isApart s = true) :
    positionalText all ('\'' :: (b ++ '\'' :: s)) = ('\'' :: (b ++ ['\''])) ++ positionalText all s := by
  have hs : s.head? ≠ some '\'' := fun h => (not_isNameChar_of_isApart ha _ h).1 rfl
  rw [positionalText, Piece.atoms_literal (notMem_of_isLiteralBody rfl hb) hs]
  rfl

/-- Numbering the names of a fragment loses nothing. -/
theorem Fragment.restores (h : Fragment escapes d names s) (hall : ∀ n ∈ names, n ∈ all) : Restores all names s := by
  induction h with
  | nil =>
    unfold Restores
    rw [positionalText_nil, signs]
    exact ⟨rfl, rfl⟩
  | char hc _ ih =>
    obtain ⟨hrun, hd⟩ := isRunChar_of_isTextChar hc
    exact (ih hall).cons hrun hd
  | arrow _ ih => exact ((ih hall).cons (c := '>') rfl (by decide)).cons rfl (by decide)
  | opened _ ih => exact (ih hall).cons rfl (by decide)
  | closed _ ih => exact (ih hall).cons rfl (by decide)
  | doubled _ ih =>
    exact (ih hall).append (w := ['@', '@']) (by decide) (positionalText_doubled _) rfl
  | literal hb ha _ ih =>
    refine (ih hall).append ?_ (positionalText_literal hb ha) (by simp)
    have hd := notMem_of_isLiteralBody (x := '$') rfl hb
    simp [hd]
  | placeholder hn ha _ ih =>
    rw [List.forall_mem_cons] at hall
    exact (ih hall.2).placeholder hn ha hall.1 (isDigit_head_positionalText ha)

/-- The placeholders of a fragment are those that numbering finds. -/
theorem Fragment.filterMap_name? (h : Fragment escapes d names s) :
    (Piece.ofChars s).filterMap Piece.name? = names := by
  rw [← Piece.filterMap_name?_atoms]
  induction h with
  | nil => rw [Piece.atoms_nil]; rfl
  | char hc _ ih =>
    rw [Piece.atoms_cons (isRunChar_of_isTextChar hc).1]
    exact ih
  | arrow _ ih =>
    rw [Piece.atoms_cons rfl, Piece.atoms_cons rfl]
    exact ih
  | opened _ ih =>
    rw [Piece.atoms_cons rfl]
    exact ih
  | closed _ ih =>
    rw [Piece.atoms_cons rfl]
    exact ih
  | doubled _ ih =>
    rw [Piece.atoms_doubled]
    exact ih
  | literal hb ha _ ih =>
    have hs := fun h => (not_isNameChar_of_isApart ha _ h).1 rfl
    rw [Piece.atoms_literal (notMem_of_isLiteralBody rfl hb) hs]
    exact ih
  | placeholder hn ha _ ih =>
    rw [Piece.atoms_placeholder hn.1 hn.2 fun c hc => (not_isNameChar_of_isApart ha c hc).2, List.filterMap_cons,
      Piece.name?, String.ofList_toList, ih]

end SqlFilter
