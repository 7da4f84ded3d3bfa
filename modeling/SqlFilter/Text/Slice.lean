/-!
# Slices of a text

A text in memory is a row of bytes in which a character takes one to four.  A slice goes from one byte to another; it is
a text only if no character is cut by its ends.
-/

namespace SqlFilter

namespace Text

/-- The bytes of a text in UTF-8. -/
def bytes (s : String) : List UInt8 := s.toUTF8.data.toList

/-- A character starts at the byte, or the text ends there. -/
abbrev IsBoundary (s : String) (i : Nat) : Prop := String.Pos.Raw.IsValid s ⟨i⟩

/-- The text from one byte up to another; none if they are out of order, beyond the end or within a character. -/
def slice? (s : String) (i j : Nat) : Option String :=
  if i ≤ j ∧ IsBoundary s i ∧ IsBoundary s j then some (String.Pos.Raw.extract s ⟨i⟩ ⟨j⟩) else none

/-- The number of bytes before the first character with a property; none if no character has it. -/
def offset? (p : Char → Bool) : List Char → Option Nat
  | [] => none
  | c :: r => if p c then some 0 else (offset? p r).map (c.utf8Size + ·)

end Text

end SqlFilter
