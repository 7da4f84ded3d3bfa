import SqlFilter.Column.Basic
import SqlFilter.Dialect.Operator
import SqlFilter.Error
import SqlFilter.Text.Lowercase

/-!
# Dialects

A `Dialect` records how a database writes what databases write differently: placeholders, casts, lists, patterns and
full text search.  Its functions turn an operator, a column and a parameter into a `Condition`.  Values go into
parameters only; columns and names are taken as they are.
-/

namespace SqlFilter

/-- How an expression is converted to a type. -/
inductive CastStyle
  /-- `CAST(e AS t)` -/
  | call
  /-- `(e)::t` -/
  | postfixed
deriving DecidableEq, Repr

/-- How a column is compared with a list. -/
inductive ListStyle
  /-- `c = ANY(p)` and `c <> ALL(p)`; text is compared without case if the filter says so. -/
  | quantified
  /-- `c IN (p)` and `c NOT IN (p)`; text is compared as it is. -/
  | enclosed
deriving DecidableEq, Repr

/-- How a column is matched with a pattern. -/
inductive PatternStyle
  /-- `c LIKE p`, or `c ILIKE p` to ignore case. -/
  | ilike
  /-- `c LIKE p ESCAPE '\'`, with the column in lower case to ignore case. -/
  | lowered
deriving DecidableEq, Repr

/-- The decisions of a database about its language. -/
structure Dialect where
  name : String
  /-- The mark in front of the name of a parameter. -/
  sigil : Char
  /-- The name of a type in a cast. -/
  castType : ValueType → Option String
  casts : CastStyle
  lists : ListStyle
  patterns : PatternStyle
  fullText : Bool

namespace Dialect

variable (d : Dialect)

/-- A parameter in the text of a statement. -/
def placeholder (param : String) : String := String.singleton d.sigil ++ param

/-- An expression converted to a type. -/
def cast (e : String) (t : ValueType) : Except QueryError String :=
  match d.castType t with
  | none => .error (.unsupportedType t.name e)
  | some name =>
    match d.casts with
    | .call => .ok ("CAST(" ++ e ++ " AS " ++ name ++ ")")
    | .postfixed => .ok ("(" ++ e ++ ")::" ++ name)

/-- A column as values of a type: a path into a JSON document is cast. -/
def resolve (c : Column) (t : ValueType) : Except QueryError String :=
  if c.hasPath then d.cast c.qualified t else .ok c.qualified

def lowered (column : String) : String := "LOWER(" ++ column ++ ")"

/-- A term as it is compared. -/
def fold (caseSensitive : Bool) (term : String) : String := if caseSensitive then term else Text.toLower term

/-- A column compared with a value. -/
def comparison (op : Comparison) (column param : String) (v : Value) : Condition :=
  ⟨column ++ " " ++ op.sign ++ " " ++ d.placeholder param, some (param, v)⟩

/-- A column compared with a text. -/
def textComparison (op : Comparison) (column param term : String) (caseSensitive : Bool) : Condition :=
  d.comparison op (if caseSensitive then column else lowered column) param (.text (fold caseSensitive term))

/-- A column tested against a list. -/
def membership (op : Membership) (column param : String) (v : Value) : Condition :=
  let sql := match d.lists, op with
    | .quantified, .isIn => column ++ " = ANY(" ++ d.placeholder param ++ ")"
    | .quantified, .notIn => column ++ " <> ALL(" ++ d.placeholder param ++ ")"
    | .enclosed, .isIn => column ++ " IN (" ++ d.placeholder param ++ ")"
    | .enclosed, .notIn => column ++ " NOT IN (" ++ d.placeholder param ++ ")"
  ⟨sql, some (param, v)⟩

/-- A column tested against a list of texts. -/
def textMembership (op : Membership) (column param : String) (terms : List String) (caseSensitive : Bool) :
    Condition :=
  match d.lists with
  | .enclosed => d.membership op column param (.array .text terms)
  | .quantified =>
    d.membership op (if caseSensitive then column else lowered column) param
      (.array .text (terms.map (fold caseSensitive)))

/-- A column matched with a pattern by an operator that can ignore case. -/
def ilikePattern (shape : Shape) (column param term : String) (caseSensitive : Bool) : Condition :=
  let mark := d.placeholder param
  if caseSensitive then
    ⟨column ++ " LIKE " ++ mark, some (param, .text (shape.wrap (Text.escapeLike term)))⟩
  else
    ⟨column ++ " ILIKE " ++ mark, some (param, .text (shape.wrap (Text.escapeLike (Text.toLower term))))⟩

/-- Several columns searched for a term by an operator that can ignore case. -/
def ilikeSearch (columns : List String) (param term : String) (caseSensitive : Bool) : Condition :=
  let mark := d.placeholder param
  let (operator, term) := if caseSensitive then ("LIKE", term) else ("ILIKE", Text.toLower term)
  let parts := columns.map fun c => c ++ " " ++ operator ++ " " ++ mark
  ⟨"(" ++ " OR ".intercalate parts ++ ")", some (param, .text (Shape.contains.wrap (Text.escapeLike term)))⟩

/-- Names the character that escapes in a pattern, as the standard knows none. -/
def escapeClause : String := "ESCAPE '\\'"

/-- A column matched with a pattern, in lower case to ignore case. -/
def loweredPattern (shape : Shape) (column param term : String) (caseSensitive : Bool) : Condition :=
  let mark := d.placeholder param
  if caseSensitive then
    let pattern := shape.wrap (Text.escapeLike term)
    ⟨column ++ " LIKE " ++ mark ++ " " ++ escapeClause, some (param, .text pattern)⟩
  else
    let pattern := shape.wrap (Text.escapeLike (Text.toLower term))
    ⟨"LOWER(" ++ column ++ ") LIKE " ++ mark ++ " " ++ escapeClause, some (param, .text pattern)⟩

/-- Several columns searched for a term, in lower case to ignore case. -/
def loweredSearch (columns : List String) (param term : String) (caseSensitive : Bool) : Condition :=
  let mark := d.placeholder param
  let (parts, pattern) :=
    if caseSensitive then
      (columns.map fun c => c ++ " LIKE " ++ mark ++ " " ++ escapeClause, Shape.contains.wrap (Text.escapeLike term))
    else
      (columns.map fun c => "LOWER(" ++ c ++ ") LIKE " ++ mark ++ " " ++ escapeClause,
        Shape.contains.wrap (Text.escapeLike (Text.toLower term)))
  ⟨"(" ++ " OR ".intercalate parts ++ ")", some (param, .text pattern)⟩

/-- A column matched with a pattern. -/
def pattern (shape : Shape) (column param term : String) (caseSensitive : Bool) : Condition :=
  match d.patterns with
  | .ilike => d.ilikePattern shape column param term caseSensitive
  | .lowered => d.loweredPattern shape column param term caseSensitive

def flag (test : FlagTest) (column param : String) (bits : Int64) : Condition :=
  let sign := match test with
    | .has => "<>"
    | .hasNot => "="
  ⟨"(" ++ column ++ " & " ++ d.placeholder param ++ ") " ++ sign ++ " 0", some (param, .int64 bits)⟩

def nullCheck (column : String) (isNull : Bool) : Condition :=
  ⟨column ++ (if isNull then " IS NULL" else " IS NOT NULL"), none⟩

/-- Several columns searched for a term. -/
def freeText (columns : List String) (param term : String) (caseSensitive : Bool) : Condition :=
  match d.patterns with
  | .ilike => d.ilikeSearch columns param term caseSensitive
  | .lowered => d.loweredSearch columns param term caseSensitive

/-- The function that reads a search term. -/
def termParser : TermSyntax → String
  | .plain => "plainto_tsquery"
  | .webSearch => "websearch_to_tsquery"

/-- Several columns searched for the words of a term. -/
def fullTextSearch (columns : List String) (config : String) (form : TermSyntax) (param term : String) :
    Except QueryError Condition :=
  if d.fullText then
    let content := " || ' ' || ".intercalate (columns.map fun c => "COALESCE(" ++ c ++ ", '')")
    .ok ⟨"to_tsvector('" ++ config ++ "', " ++ content ++ ") @@ " ++ termParser form ++ "('" ++ config ++ "', " ++
      d.placeholder param ++ ")", some (param, .text term)⟩
  else .error (.noFullText d.name)

/-- An item of an ORDER BY clause. -/
def orderBy (column : String) (descending : Bool) : String := column ++ (if descending then " DESC" else " ASC")

/-- The clause that takes one page of the rows. -/
def paging (limit offset : String) : String :=
  "LIMIT " ++ d.placeholder limit ++ " OFFSET " ++ d.placeholder offset

end Dialect

end SqlFilter
