/-!
# LIKE patterns

In a pattern `%` stands for any characters, `_` for any one character, and `\` takes the next character literally.
`escapeLike` writes a term so that it stands for itself; a `Shape` puts `%` on the open sides.
-/

namespace SqlFilter.Text

/-- A character with a meaning of its own in a pattern. -/
def isLikeSpecial (c : Char) : Bool := c = '\\' || c = '%' || c = '_'

/-- One character as a pattern for itself. -/
def escapeLikeChar (c : Char) : List Char := if isLikeSpecial c then ['\\', c] else [c]

/-- A term as a pattern for itself: `\` stands before every special character. -/
def escapeLike (s : String) : String := String.ofList (s.toList.flatMap escapeLikeChar)

end SqlFilter.Text

namespace SqlFilter

/-- Where a pattern looks for its term. -/
inductive Shape
  | contains
  | startsWith
  | endsWith
deriving DecidableEq, Repr

/-- The pattern around an escaped term. -/
def Shape.wrap : Shape → String → String
  | .contains, t => "%" ++ t ++ "%"
  | .startsWith, t => t ++ "%"
  | .endsWith, t => "%" ++ t

end SqlFilter
