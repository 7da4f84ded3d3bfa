import SqlFilter.Dialect.Basic

/-!
# Matching columns with patterns

A dialect writes out the pattern on one column and the search over several columns separately, and each style has its
own two.  All four match a column alike: with one operator and one form of the parameter (`Dialect.like`), against one
pattern (`Dialect.patternOf`).  So what holds of this form holds of patterns and of searches (`Dialect.pattern_eq`,
`Dialect.freeText_eq`).
-/

namespace SqlFilter.Dialect

variable (d : Dialect) (shape : Shape) (column param term : String) (caseSensitive : Bool)

/-- A column matched with the pattern under a parameter. -/
def like : String :=
  match d.patterns with
  | .ilike => column ++ (if caseSensitive then " LIKE " else " ILIKE ") ++ d.placeholder param
  | .lowered =>
    (if caseSensitive then column else lowered column) ++ " LIKE " ++ d.placeholder param ++ " ESCAPE '\\'"

/-- The pattern of a shape around a term. -/
def patternOf : Value := .text (shape.wrap (Text.escapeLike (fold caseSensitive term)))

/-! ### Texts put together in other steps -/

theorem lowered_append (text : String) : "LOWER(" ++ column ++ (")" ++ text) = lowered column ++ text :=
  String.append_assoc.symm

theorem blank_operator (operator : String) : column ++ " " ++ operator ++ " " = column ++ (" " ++ operator ++ " ") := by
  rw [String.append_assoc, String.append_assoc, String.append_assoc]

theorem blank_escapeClause (text : String) : text ++ " " ++ escapeClause = text ++ " ESCAPE '\\'" :=
  String.append_assoc

/-! ### The form of patterns and searches -/

theorem pattern_eq : d.pattern shape column param term caseSensitive =
    ⟨d.like column param caseSensitive, some (param, patternOf shape term caseSensitive)⟩ := by
  unfold pattern like
  cases d.patterns with
  | ilike => cases caseSensitive <;> rfl
  | lowered =>
    have hlowered : "LOWER(" ++ column ++ ") LIKE " = lowered column ++ " LIKE " := lowered_append column " LIKE "
    cases caseSensitive with
    | true =>
      simp only [loweredPattern, blank_escapeClause]
      rfl
    | false =>
      simp only [loweredPattern, blank_escapeClause, hlowered]
      rfl

/-- A search matches every column as a pattern does, and binds the pattern of the texts that contain the term. -/
theorem freeText_eq (columns : List String) : d.freeText columns param term caseSensitive =
    ⟨"(" ++ " OR ".intercalate (columns.map fun c => d.like c param caseSensitive) ++ ")",
      some (param, patternOf .contains term caseSensitive)⟩ := by
  unfold freeText like
  cases d.patterns with
  | ilike =>
    cases caseSensitive with
    | true =>
      have hlike : ∀ c, c ++ " " ++ "LIKE" ++ " " = c ++ " LIKE " := fun c => blank_operator c "LIKE"
      simp only [ilikeSearch, if_true, hlike]
      rfl
    | false =>
      have hlike : ∀ c, c ++ " " ++ "ILIKE" ++ " " = c ++ " ILIKE " := fun c => blank_operator c "ILIKE"
      simp only [ilikeSearch, Bool.false_eq_true, if_false, hlike]
      rfl
  | lowered =>
    have hlowered : ∀ c, "LOWER(" ++ c ++ ") LIKE " = lowered c ++ " LIKE " := fun c => lowered_append c " LIKE "
    cases caseSensitive with
    | true =>
      simp only [loweredSearch, blank_escapeClause]
      rfl
    | false =>
      simp only [loweredSearch, blank_escapeClause, hlowered]
      rfl

theorem param_pattern : (d.pattern shape column param term caseSensitive).param =
    some (param, patternOf shape term caseSensitive) := by
  rw [pattern_eq]

theorem param_freeText (columns : List String) : (d.freeText columns param term caseSensitive).param =
    some (param, patternOf .contains term caseSensitive) := by
  rw [freeText_eq]

end SqlFilter.Dialect
