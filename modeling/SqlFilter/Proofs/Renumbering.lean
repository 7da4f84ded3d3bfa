import Mathlib.Data.List.Basic
import SqlFilter.Proofs.LocalRule
import SqlFilter.Proofs.Signs

/-!
# Numbering a numbered statement

In place of a placeholder numbering writes `$` and digits, which belong to a run.  So the text that comes out is cut
into the pieces of the text that went in, with the characters of a number in place of each placeholder
(`atoms_positionalText`): no literal is opened or closed, no doubled mark is broken up, and no placeholder comes up.  A
text without placeholders stays as it is, whatever the bag is (`Statement.toPositional_of_no_names`), and so does the
text of a statement that was numbered (`Statement.positional_conversion_is_idempotent`).
-/

namespace SqlFilter

/-- The pieces that take the place of a piece when names are numbered: for a placeholder the characters of its number,
for any other piece the piece. -/
def Piece.settled (all : List String) : Piece → List Piece
  | placeholder name => (Statement.numbered all (String.ofList name)).map fun c => run [c]
  | p => [p]

variable {all : List String} {n : String} {c : Char}

theorem isRunChar_of_mem_numbered (hc : c ∈ Statement.numbered all n) : Piece.isRunChar c = true := by
  rw [Statement.numbered, toList_placeholder, List.mem_cons] at hc
  rcases hc with rfl | hc
  · rfl
  · have hdigit : c.isDigit = true := Nat.isDigit_of_mem_toDigits (by decide) (by decide) hc
    obtain ⟨hmark, hquote⟩ := Piece.ne_of_isNameChar (isNameChar_of_isDigit hdigit)
    rw [Piece.isRunChar, decide_eq_true hmark, decide_eq_true hquote]
    rfl

/-- A numbered text has the pieces of the text before, with the characters of its number in place of each
placeholder. -/
theorem atoms_positionalText (all : List String) (s : List Char) :
    Piece.atoms (positionalText all s) = (Piece.atoms s).flatMap (Piece.settled all) := by
  induction s using Piece.text_induction with
  | nil =>
    rw [positionalText_nil, Piece.atoms_nil]
    rfl
  | char c s hc ih =>
    rw [positionalText_cons hc, Piece.atoms_cons hc, Piece.atoms_cons hc, ih]
    rfl
  | literal r ih =>
    -- a number in front of the text after the literal is no quote either, so the literal ends where it did
    have hhead : (positionalText all (Piece.splitLiteral r).2).head? ≠ some '\'' := by
      rcases head?_positionalText all (Piece.splitLiteral r).2 with h | ⟨-, h⟩
      · rw [h]
        exact Piece.head?_splitLiteral r
      · rw [h]
        decide
    have hend : (Piece.splitLiteral r).2 = [] → positionalText all (Piece.splitLiteral r).2 = [] := by
      intro hnil
      rw [hnil, positionalText_nil]
    rw [positionalText_quote, Piece.atoms_quote, Piece.splitLiteral_append_rest hend hhead, Piece.atoms_quote, ih]
    rfl
  | doubled s ih =>
    rw [positionalText_doubled, Piece.atoms_doubled, Piece.atoms_doubled, ih]
    rfl
  | mark s hs ih =>
    have hnext : ∀ c ∈ (positionalText all s).head?, isNameChar c = false ∧ c ≠ '@' := by
      rcases head?_positionalText all s with h | ⟨h, -⟩
      · rw [h]
        exact hs
      · exact absurd rfl (hs '@' h).2
    rw [positionalText_mark hs, Piece.atoms_mark hnext, Piece.atoms_mark hs, ih]
    rfl
  | placeholder name s hne hname hs ih =>
    rw [positionalText_placeholder hne hname hs, Piece.atoms_append fun _ => isRunChar_of_mem_numbered,
      Piece.atoms_placeholder hne hname hs, ih]
    rfl

/-- No placeholder is left in a numbered text. -/
theorem names_positionalText (all : List String) (s : List Char) :
    (Piece.ofChars (positionalText all s)).filterMap Piece.name? = [] := by
  have hsettled : ∀ p : Piece, (p.settled all).filterMap Piece.name? = [] := by
    intro p
    cases p with
    | placeholder name => simp [Piece.settled, Piece.name?]
    | literal | doubled | mark | run => rfl
  rw [← Piece.filterMap_name?_atoms, atoms_positionalText, List.filterMap_flatMap, List.flatMap_eq_nil_iff]
  exact fun p _ => hsettled p

namespace Statement

/-- A text without placeholders stays as it is. -/
theorem toPositional_of_no_names {st : Statement} (h : (Piece.ofChars st.sql.toList).filterMap Piece.name? = []) :
    st.toPositional = .ok ⟨st.sql, []⟩ := by
  have hsource : ∀ p ∈ Piece.ofChars st.sql.toList, Piece.written (numbered []) p = p.source := by
    intro p hp
    have hnone := List.filterMap_eq_nil_iff.1 h p hp
    cases p with
    | placeholder name => cases hnone
    | literal | doubled | mark | run => rfl
  have hnames : ∀ n ∈ (Piece.ofChars st.sql.toList).filterMap Piece.name?, (st.params.get? n).isSome = true := by
    rw [h]
    exact nofun
  have horder : noted [] ((Piece.ofChars st.sql.toList).filterMap Piece.name?) = [] := by
    rw [h]
    rfl
  rw [toPositional_eq hnames horder, List.flatMap_congr hsource, Piece.flatMap_source_ofChars, String.ofList_toList]
  rfl

/-- Numbering a numbered statement succeeds with any bag, keeps the text and takes no values.  For the text has the
pieces that it had before numbering, in the same order, but for the characters of a number in place of each
placeholder. -/
theorem positional_conversion_is_idempotent {st : Statement} {p : PositionalStatement} (h : st.toPositional = .ok p) :
    let order := (Placeholder.names st.sql.toList).eraseDups
    (∀ bag : Params, (⟨p.sql, bag⟩ : Statement).toPositional = .ok ⟨p.sql, []⟩) ∧
      Piece.atoms p.sql.toList = (Piece.atoms st.sql.toList).flatMap (Piece.settled order) := by
  intro order
  have hsql : p.sql.toList = positionalText order st.sql.toList := by
    rw [toPositional_of_forall_contains (forall_contains_of_toPositional h)] at h
    cases h
    rw [String.toList_ofList, positionalText, Piece.flatMap_written_atoms, Placeholder.flatMap_written_ofChars]
  refine ⟨fun bag => toPositional_of_no_names ?_, ?_⟩
  · rw [hsql]
    exact names_positionalText order st.sql.toList
  · rw [hsql]
    exact atoms_positionalText order st.sql.toList

/-- Marks in front of placeholders and literals, and a literal that is never closed. -/
theorem positional_conversion_is_idempotent_marks :
    let st : Statement := {
      sql := "@@@id@'it''s @no'@id @ @b'@open", params := .ofList [("id", .int64 7), ("b", .text "y")] }
    st.toPositional = .ok ⟨"@@$1@'it''s @no'$1 @ $2'@open", [.int64 7, .text "y"]⟩ ∧
      (⟨"@@$1@'it''s @no'$1 @ $2'@open", .empty⟩ : Statement).toPositional =
        .ok ⟨"@@$1@'it''s @no'$1 @ $2'@open", []⟩ := by
  intro st
  have hst : st.toPositional = .ok ⟨"@@$1@'it''s @no'$1 @ $2'@open", [.int64 7, .text "y"]⟩ := by
    have hvalue : st.toPositional.toOption = some ⟨"@@$1@'it''s @no'$1 @ $2'@open", [.int64 7, .text "y"]⟩ := by
      decide +kernel
    revert hvalue
    cases st.toPositional with
    | error e => exact nofun
    | ok p => exact fun h => congrArg Except.ok (Option.some.inj h)
  exact ⟨hst, (positional_conversion_is_idempotent hst).1 .empty⟩

end Statement

end SqlFilter
