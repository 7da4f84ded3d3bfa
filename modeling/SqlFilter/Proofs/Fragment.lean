import SqlFilter.Proofs.Emitted
import SqlFilter.Statement.Piece

/-!
# Fragments of statements

All text that goes into a statement is of one form (`Fragment`): words and a few signs, arrows, parentheses, quoted
literals with bodies of three or four kinds, doubled marks and placeholders.  A fragment may follow another if it is
apart from it (`Fragment.append`), and identifiers, column expressions and resolved columns are fragments
(`Resolved.fragment`).  What holds of all fragments is shown by induction on the form.
-/

namespace SqlFilter

/-! ### The form of fragments -/

/-- A character that stands for itself: a word character, a space or one of a few signs. -/
def isTextChar (c : Char) : Bool :=
  Text.isWordChar c || [' ', '.', ',', '*', '=', '<', '>', ':', '&', '|'].contains c

/-- The body of a literal: characters of a key or none, a space, or a backslash if the dialect names it as the
character that escapes. -/
def isLiteralBody (escapes : Bool) (body : List Char) : Bool :=
  body.all Text.isKeyChar || body == [' '] || escapes && body == ['\\']

/-- The text can stand after a literal and after a placeholder without changing them. -/
def isApart : List Char → Bool
  | [] => true
  | c :: _ => c != '\'' && !isNameChar c

/-- Text with the names of its placeholders, in order; it closes as many parentheses as are open in front of it. -/
inductive Fragment (escapes : Bool) : Nat → List String → List Char → Prop
  | nil : Fragment escapes 0 [] []
  | char {d : Nat} {names : List String} {c : Char} {s : List Char} : isTextChar c = true →
    Fragment escapes d names s → Fragment escapes d names (c :: s)
  | arrow {d : Nat} {names : List String} {s : List Char} :
    Fragment escapes d names s → Fragment escapes d names ('-' :: '>' :: s)
  | opened {d : Nat} {names : List String} {s : List Char} :
    Fragment escapes (d + 1) names s → Fragment escapes d names ('(' :: s)
  | closed {d : Nat} {names : List String} {s : List Char} :
    Fragment escapes d names s → Fragment escapes (d + 1) names (')' :: s)
  | doubled {d : Nat} {names : List String} {s : List Char} :
    Fragment escapes d names s → Fragment escapes d names ('@' :: '@' :: s)
  | literal {d : Nat} {names : List String} {b s : List Char} : isLiteralBody escapes b = true →
    isApart s = true → Fragment escapes d names s → Fragment escapes d names ('\'' :: (b ++ '\'' :: s))
  | placeholder {d : Nat} {name : String} {names : List String} {s : List Char} : IsParamName name →
    isApart s = true → Fragment escapes d names s → Fragment escapes d (name :: names) ('@' :: (name.toList ++ s))

variable {escapes : Bool} {d e : Nat} {names names' : List String} {s t : List Char}

theorem not_isNameChar_of_isApart (h : isApart s = true) : ∀ c ∈ s.head?, c ≠ '\'' ∧ isNameChar c = false := by
  intro c hc
  cases s with
  | nil => cases hc
  | cons x s =>
    cases hc
    simpa [isApart] using h

theorem isApart_append (hs : isApart s = true) (ht : isApart t = true) : isApart (s ++ t) = true := by
  cases s with
  | nil => exact ht
  | cons c s => exact hs

/-- A fragment is followed by a fragment that is apart from it. -/
theorem Fragment.append (hs : Fragment escapes d names s) (ht : Fragment escapes e names' t)
    (ha : isApart t = true) : Fragment escapes (d + e) (names ++ names') (s ++ t) := by
  -- only literals and placeholders look at what follows them
  induction hs with
  | nil => rwa [Nat.zero_add]
  | char hc _ ih => exact .char hc ih
  | arrow _ ih => exact .arrow ih
  | doubled _ ih => exact .doubled ih
  | opened _ ih =>
    rw [Nat.add_right_comm] at ih
    exact .opened ih
  | closed _ ih =>
    rw [Nat.add_right_comm]
    exact .closed ih
  | literal hb hs _ ih =>
    rw [List.cons_append, List.append_assoc, List.cons_append]
    exact .literal hb (isApart_append hs ha) ih
  | placeholder hn hs _ ih =>
    rw [List.cons_append, List.cons_append, List.append_assoc]
    exact .placeholder hn (isApart_append hs ha) ih

/-! ### Plain text -/

/-- How many parentheses are open after some text in front of which `d` are; none if the text has other characters
than those that stand for themselves and parentheses. -/
def openAfter (d : Nat) : List Char → Option Nat
  | [] => some d
  | c :: s =>
    if c = '(' then openAfter (d + 1) s
    else if c = ')' then if d = 0 then none else openAfter (d - 1) s
    else if isTextChar c then openAfter d s
    else none

theorem Fragment.lead {w : List Char} (hw : openAfter d w = some e) (hs : Fragment escapes e names s) :
    Fragment escapes d names (w ++ s) := by
  induction w generalizing d with
  | nil =>
    cases hw
    exact hs
  | cons c w ih =>
    unfold openAfter at hw
    split at hw
    · rename_i hc
      subst hc
      exact .opened (ih hw)
    · split at hw
      · rename_i hc
        subst hc
        cases d with
        | zero => cases hw
        | succ d => exact .closed (ih hw)
      · split at hw
        · exact .char ‹_› (ih hw)
        · cases hw

theorem isTextChar_of_isWordChar {c : Char} (h : Text.isWordChar c = true) : isTextChar c = true := by
  rw [isTextChar, h, Bool.true_or]

theorem ne_of_isTextChar {c x : Char} (h : isTextChar c = true) (hx : isTextChar x = false) : c ≠ x := by
  rintro rfl
  rw [h] at hx
  cases hx

theorem openAfter_of_isWordChar {w : List Char} (h : ∀ c ∈ w, Text.isWordChar c = true) : openAfter d w = some d := by
  induction w with
  | nil => rfl
  | cons c w ih =>
    rw [List.forall_mem_cons] at h
    have hc := isTextChar_of_isWordChar h.1
    rw [openAfter, if_neg (ne_of_isTextChar hc rfl), if_neg (ne_of_isTextChar hc rfl), if_pos hc]
    exact ih h.2

theorem Fragment.word {w : List Char} (h : ∀ c ∈ w, Text.isWordChar c = true) (hs : Fragment escapes d names s) :
    Fragment escapes d names (w ++ s) :=
  .lead (openAfter_of_isWordChar h) hs

/-! ### Columns -/

theorem isLiteralBody_of_isKeyChar {body : List Char} (h : ∀ c ∈ body, Text.isKeyChar c = true) :
    isLiteralBody escapes body = true := by
  rw [isLiteralBody, List.all_eq_true.2 h]
  rfl

theorem notMem_of_isLiteralBody {x : Char} {b : List Char} (hx : isLiteralBody true [x] = false)
    (h : isLiteralBody escapes b = true) : x ∉ b := by
  intro hb
  simp only [isLiteralBody, Bool.or_eq_true, Bool.and_eq_true, beq_iff_eq] at h
  rcases h with (h | rfl) | ⟨_, rfl⟩
  · have hkey := List.all_eq_true.1 h x hb
    simp [isLiteralBody, hkey] at hx
  · rw [List.mem_singleton.1 hb] at hx
    exact absurd hx (by decide)
  · rw [List.mem_singleton.1 hb] at hx
    exact absurd hx (by decide)

theorem Fragment.hops {hops : List Text.Hop} (hw : ∀ h ∈ hops, h.WellFormed) (hs : Fragment escapes d names s)
    (ha : isApart s = true) : Fragment escapes d names (hops.flatMap Text.Hop.chars ++ s) := by
  induction hops with
  | nil => exact hs
  | cons hop hops ih =>
    rw [List.forall_mem_cons] at hw
    -- the quote that closes the key is followed by the arrow of the next hop, or by `s`
    have hrest : isApart (hops.flatMap Text.Hop.chars ++ s) = true := by
      cases hops with
      | nil => exact ha
      | cons => rfl
    have hkey := Fragment.literal (isLiteralBody_of_isKeyChar hw.1.2) hrest (ih hw.2)
    have hhead : openAfter d hop.head = some d := by
      unfold Text.Hop.head
      split <;> rfl
    have heq : (hop :: hops).flatMap Text.Hop.chars ++ s =
        '-' :: '>' :: (hop.head ++ '\'' :: (hop.key ++ '\'' :: (hops.flatMap Text.Hop.chars ++ s))) := by
      simp [Text.Hop.chars]
    rw [heq]
    exact .arrow (.lead hhead hkey)

theorem fragment_of_isColumnExpression {x : String} (h : Text.isColumnExpression x = true) :
    Fragment escapes 0 [] x.toList := by
  obtain ⟨w, hops, hw, hh, hx⟩ := Text.exists_hops h
  have hword : ∀ c ∈ w, Text.isWordChar c = true := by
    have := Text.isWordChar_of_isIdentifier (s := String.ofList w) (by rwa [Text.isIdentifier, String.toList_ofList])
    rw [String.toList_ofList] at this
    exact this.2
  rw [hx, ← List.append_nil (hops.flatMap _)]
  exact .word hword (.hops hh .nil rfl)

theorem fragment_of_isIdentifier {x : String} (h : Text.isIdentifier x = true) : Fragment escapes 0 [] x.toList := by
  rw [← List.append_nil x.toList]
  exact .word (Text.isWordChar_of_isIdentifier h).2 .nil

theorem fragment_qualified {table x : String} (ht : Text.isIdentifier table = true)
    (hx : Text.isColumnExpression x = true) : Fragment escapes 0 [] (table ++ "." ++ x).toList := by
  rw [String.toList_append, String.toList_append, List.append_assoc]
  exact .word (Text.isWordChar_of_isIdentifier ht).2 (.lead rfl (fragment_of_isColumnExpression hx))

theorem Dialect.mem_known {d : Dialect} : d ∈ known ↔ d = postgres ∨ d = plain ∨ d = ansi ∨ d = colon := by
  simp [known]

private theorem openAfter_of_castType {d : Dialect} (hd : d ∈ Dialect.known) {t : ValueType} {type : String}
    (h : d.castType t = some type) (k : Nat) : openAfter k type.toList = some k := by
  have hpostgres : ∀ t : ValueType, openAfter k t.postgresName.toList = some k := by
    intro t
    cases t <;> rfl
  have hstandard : t.standardName = some type → openAfter k type.toList = some k := by
    intro h
    cases t <;> cases h <;> rfl
  rcases Dialect.mem_known.1 hd with rfl | rfl | rfl | rfl
  · cases h
    exact hpostgres t
  · cases h
    exact hpostgres t
  · exact hstandard h
  · exact hstandard h

private theorem fragment_of_cast {d : Dialect} (hd : d ∈ Dialect.known) {x sql : String} {t : ValueType}
    (hx : Fragment escapes 0 [] x.toList) (h : d.cast x t = .ok sql) : Fragment escapes 0 [] sql.toList := by
  unfold Dialect.cast at h
  split at h
  · cases h
  · rename_i type htype
    have hlead := openAfter_of_castType hd htype
    split at h
    · cases h
      have hclose : Fragment escapes 1 [] (" AS ".toList ++ (type.toList ++ ")".toList)) :=
        .lead rfl (.lead (hlead 1) (.closed .nil))
      simp only [String.toList_append, List.append_assoc]
      exact .lead rfl (hx.append hclose rfl)
    · cases h
      have hclose : Fragment escapes 1 [] (")::".toList ++ (type.toList ++ [])) := .lead rfl (.lead (hlead 0) .nil)
      rw [List.append_nil] at hclose
      simp only [String.toList_append, List.append_assoc]
      exact .lead rfl (hx.append hclose rfl)

/-- Resolved columns are fragments without placeholders. -/
theorem Resolved.fragment {table sql : String} {d : Dialect} (hd : d ∈ Dialect.known)
    (ht : Text.isIdentifier table = true) (h : Resolved table d sql) : Fragment escapes 0 [] sql.toList := by
  obtain ⟨x, t, hx, h⟩ := h
  have hq : Fragment escapes 0 [] (Column.mk table x).qualified.toList := fragment_qualified ht hx
  unfold Dialect.resolve at h
  split at h
  · exact fragment_of_cast hd hq h
  · cases h
    exact hq

end SqlFilter
