/-!
# White space

The property White_Space has 25 characters; a text of such characters only is blank.
-/

namespace SqlFilter.Text

/-- The character has the property White_Space. -/
def isBlankChar (c : Char) : Bool :=
  let n := c.toNat
  (9 ≤ n && n ≤ 13) || n = 0x20 || n = 0x85 || n = 0xA0 || n = 0x1680 || (0x2000 ≤ n && n ≤ 0x200A) ||
    n = 0x2028 || n = 0x2029 || n = 0x202F || n = 0x205F || n = 0x3000

/-- The text is empty once white space is trimmed from its ends. -/
def isBlank (s : String) : Bool := s.toList.all isBlankChar

/-- The characters after the white space in front. -/
def dropBlanks (s : List Char) : List Char := s.dropWhile isBlankChar

end SqlFilter.Text
