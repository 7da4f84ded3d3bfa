import SqlFilter.Dialect.Known
import SqlFilter.Proofs.Fragment
import SqlFilter.Proofs.Matching

/-!
# Free text search

A search looks for its term in every column as a filter that asks for texts that contain the term would, and all columns
are matched with one pattern under one parameter.  How the known dialects match a column is written down here form by
form (`Dialect.WritesLike`).  The pattern of a shape around a term is the same in all of them.
-/

namespace SqlFilter.Dialect

/-- How a dialect matches a column with the pattern under a parameter, as it is or without case.  PostgreSQL has an
operator that ignores case; the others put the column in lower case, and name the character that escapes. -/
inductive WritesLike (param : String) : Dialect → Bool → (String → String) → Prop
  | postgres : WritesLike param postgres true fun c => c ++ " LIKE @" ++ param
  | postgresFolded : WritesLike param postgres false fun c => c ++ " ILIKE @" ++ param
  | plain : WritesLike param plain true fun c => c ++ " LIKE @" ++ param ++ " ESCAPE '\\'"
  | plainFolded : WritesLike param plain false fun c => "LOWER(" ++ c ++ ") LIKE @" ++ param ++ " ESCAPE '\\'"
  | ansi : WritesLike param ansi true fun c => c ++ " LIKE @" ++ param ++ " ESCAPE '\\'"
  | ansiFolded : WritesLike param ansi false fun c => "LOWER(" ++ c ++ ") LIKE @" ++ param ++ " ESCAPE '\\'"
  | colon : WritesLike param colon true fun c => c ++ " LIKE :" ++ param ++ " ESCAPE '\\'"
  | colonFolded : WritesLike param colon false fun c => "LOWER(" ++ c ++ ") LIKE :" ++ param ++ " ESCAPE '\\'"

variable {d : Dialect} {param : String} {caseSensitive : Bool} {form : String → String}

/-- Each known dialect has a form, with and without case. -/
theorem exists_writesLike (hd : d ∈ known) (param : String) (caseSensitive : Bool) :
    ∃ form, WritesLike param d caseSensitive form := by
  rcases mem_known.1 hd with rfl | rfl | rfl | rfl <;> cases caseSensitive
  · exact ⟨_, .postgresFolded⟩
  · exact ⟨_, .postgres⟩
  · exact ⟨_, .plainFolded⟩
  · exact ⟨_, .plain⟩
  · exact ⟨_, .ansiFolded⟩
  · exact ⟨_, .ansi⟩
  · exact ⟨_, .colonFolded⟩
  · exact ⟨_, .colon⟩

theorem WritesLike.like_eq (h : WritesLike param d caseSensitive form) (column : String) :
    d.like column param caseSensitive = form column := by
  apply String.toList_inj.1
  cases h with
  | postgres | postgresFolded => simp [like, placeholder, Dialect.postgres]
  | plain | plainFolded => simp [like, placeholder, lowered, Dialect.plain]
  | ansi | ansiFolded => simp [like, placeholder, lowered, Dialect.ansi]
  | colon | colonFolded => simp [like, placeholder, lowered, Dialect.colon, Dialect.ansi]

/-- In every known dialect a search has the conditions that filters for the texts that contain the term have on each
column, in order and with `OR` between them, and binds what each of them binds.  All these conditions are of the one
form that the dialect has for the case.  The pattern of a shape is a matter of the term and its case, and of no
dialect. -/
theorem search_is_or_of_patterns (term : String) (caseSensitive : Bool) :
    let t := if caseSensitive then term else Text.toLower term
    (∀ d ∈ known, ∀ param : String, ∃ form, WritesLike param d caseSensitive form ∧
      (∀ shape column, (d.pattern shape column param term caseSensitive).sql = form column) ∧
      ∀ columns : List String,
        (d.freeText columns param term caseSensitive).sql =
          "(" ++ " OR ".intercalate (columns.map fun c => (d.pattern .contains c param term caseSensitive).sql) ++ ")" ∧
        ∀ column, (d.freeText columns param term caseSensitive).param =
          (d.pattern .contains column param term caseSensitive).param) ∧
    ∀ shape, ∃ pattern, pattern = shape.wrap (Text.escapeLike t) ∧ ∀ d ∈ known, ∀ column param,
      (d.pattern shape column param term caseSensitive).param = some (param, .text pattern) := by
  intro t
  refine ⟨fun d hd param => ?_, fun shape => ⟨_, rfl, fun d _ column param => ?_⟩⟩
  · -- a search matches each column as a pattern does, so only the form of the match depends on the dialect
    obtain ⟨form, hform⟩ := exists_writesLike hd param caseSensitive
    refine ⟨form, hform, fun shape column => ?_, fun columns => ⟨?_, fun column => ?_⟩⟩
    · rw [d.pattern_eq]
      exact hform.like_eq column
    · simp only [d.pattern_eq, d.freeText_eq]
    · rw [d.param_pattern, d.param_freeText]
  · exact d.param_pattern shape column param term caseSensitive

/-- Two columns without case, with a wildcard in the term. -/
theorem search_is_or_of_patterns_wildcard :
    ansi ∈ known ∧
      (ansi.freeText ["t.a", "t.b"] "p" "50%" false).sql =
        "(LOWER(t.a) LIKE @p ESCAPE '\\' OR LOWER(t.b) LIKE @p ESCAPE '\\')" ∧
      (ansi.freeText ["t.a", "t.b"] "p" "50%" false).param = some ("p", .text "%50\\%%") := by
  have hknown : ansi ∈ known := mem_known.2 (.inr (.inr (.inl rfl)))
  obtain ⟨hsearch, hpattern⟩ := search_is_or_of_patterns "50%" false
  obtain ⟨-, -, -, hcolumns⟩ := hsearch ansi hknown "p"
  obtain ⟨htext, hparam⟩ := hcolumns ["t.a", "t.b"]
  obtain ⟨pattern, rfl, hbound⟩ := hpattern .contains
  refine ⟨hknown, ?_, ?_⟩
  · rw [htext]
    decide +kernel
  · rw [hparam "t.a", hbound ansi hknown]
    decide +kernel

end SqlFilter.Dialect
