import SqlFilter.Error
import SqlFilter.Params
import SqlFilter.Statement.Piece

/-!
# Statements

A statement is a text with named placeholders and the values of the names.  `Statement.toPositional` numbers the
placeholders in the order in which their names first occur; literals and doubled marks stay as they are.
-/

namespace SqlFilter

/-- A text with named placeholders and their values. -/
structure Statement where
  sql : String
  params : Params
deriving DecidableEq

/-- A text with numbered placeholders and the values of the numbers from 1. -/
structure PositionalStatement where
  sql : String
  params : List Value
deriving DecidableEq

namespace Statement

def placeholder (k : Nat) : String := "$" ++ toString k

/-- Writes pieces with numbers for names.  `seen` holds the names that have numbers, in order. -/
def number (params : Params) : List (String × Value) → List Piece → Except QueryError (String × List Value)
  | seen, [] => .ok ("", seen.map Prod.snd)
  | seen, .placeholder name :: r =>
    match seen.findIdx? fun e => e.1 = String.ofList name with
    | some i => (number params seen r).map fun (s, vs) => (placeholder (i + 1) ++ s, vs)
    | none =>
      match params.get? (String.ofList name) with
      | none => .error (.unknownParameter (String.ofList name))
      | some v =>
        (number params (seen ++ [(String.ofList name, v)]) r).map fun (s, vs) =>
          (placeholder (seen.length + 1) ++ s, vs)
  | seen, p :: r => (number params seen r).map fun (s, vs) => (String.ofList p.source ++ s, vs)

/-- The statement with numbered placeholders; refused if a name has no value. -/
def toPositional (s : Statement) : Except QueryError PositionalStatement :=
  (number s.params [] (Piece.ofChars s.sql.toList)).map fun (sql, vs) => ⟨sql, vs⟩

end Statement

end SqlFilter
