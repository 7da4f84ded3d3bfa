/-!
# Pieces of a statement

The text of a statement falls into quoted literals, doubled marks, placeholders, single marks and runs of other
characters.  `Piece.ofChars` cuts a text into its pieces from left to right; their sources put together give the text
back (`flatMap_source_ofChars`).
-/

namespace SqlFilter

/-- A character of the name of a placeholder. -/
def isNameChar (c : Char) : Bool := c.isAlphanum || c = '_'

/-- Letters and digits are characters of ASCII. -/
theorem toNat_lt_of_isAlphanum {c : Char} (h : c.isAlphanum = true) : c.toNat < 128 := by
  have hz : 'z'.val.toNat = 122 := rfl
  have hZ : 'Z'.val.toNat = 90 := rfl
  have h9 : '9'.val.toNat = 57 := rfl
  unfold Char.isAlphanum Char.isAlpha Char.isUpper Char.isLower Char.isDigit at h
  simp only [Bool.or_eq_true, Bool.and_eq_true, decide_eq_true_eq, UInt32.le_iff_toNat_le, ge_iff_le] at h
  rw [Char.toNat]
  omega

/-- A piece of the text of a statement. -/
inductive Piece
  /-- A quoted literal with its quotes; the closing one may be missing at the end of the text. -/
  | literal (source : List Char)
  /-- The mark `@` written twice. -/
  | doubled
  /-- The mark `@` and a name. -/
  | placeholder (name : List Char)
  /-- The mark `@` without a name. -/
  | mark
  /-- Characters other than `@` and quotes. -/
  | run (source : List Char)
deriving DecidableEq, Repr

namespace Piece

def source : Piece → List Char
  | literal s => s
  | doubled => ['@', '@']
  | placeholder name => '@' :: name
  | mark => ['@']
  | run s => s

/-- What follows an opening quote, through the closing one, and the rest.  A quote written twice does not close. -/
def splitLiteral : List Char → List Char × List Char
  | [] => ([], [])
  | '\'' :: '\'' :: r => let (s, t) := splitLiteral r; ('\'' :: '\'' :: s, t)
  | '\'' :: r => (['\''], r)
  | c :: r => let (s, t) := splitLiteral r; (c :: s, t)

/-- The rest after a literal is no longer than what the literal starts with. -/
theorem length_splitLiteral_le (s : List Char) : (splitLiteral s).2.length ≤ s.length := by
  fun_induction splitLiteral s <;> simp_all <;> omega

/-- A character that belongs to a run. -/
def isRunChar (c : Char) : Bool := c ≠ '@' && c ≠ '\''

/-- Cuts a text into its pieces. -/
def ofChars : List Char → List Piece
  | [] => []
  | '\'' :: r => literal ('\'' :: (splitLiteral r).1) :: ofChars (splitLiteral r).2
  | '@' :: '@' :: r => doubled :: ofChars r
  | '@' :: r =>
    let name := r.takeWhile isNameChar
    if name.isEmpty then mark :: ofChars r else placeholder name :: ofChars (r.dropWhile isNameChar)
  | c :: r => run (c :: r.takeWhile isRunChar) :: ofChars (r.dropWhile isRunChar)
termination_by s => s.length
decreasing_by
  all_goals simp only [List.length_cons]
  · have := length_splitLiteral_le r; omega
  · omega
  · omega
  · have := (List.dropWhile_sublist (l := r) isNameChar).length_le; omega
  · have := (List.dropWhile_sublist (l := r) isRunChar).length_le; omega

/-- A literal and what follows it make up the text. -/
theorem splitLiteral_append (s : List Char) : (splitLiteral s).1 ++ (splitLiteral s).2 = s := by
  fun_induction splitLiteral s <;> simp_all

/-- The sources of the pieces make up the text. -/
theorem flatMap_source_ofChars (s : List Char) : (ofChars s).flatMap source = s := by
  fun_induction ofChars s with
  | case5 r _ name _ ih => simp [source, ih, name, List.takeWhile_append_dropWhile]
  | _ => simp_all [source, splitLiteral_append, List.takeWhile_append_dropWhile]

end Piece

end SqlFilter
