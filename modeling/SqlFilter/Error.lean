import SqlFilter.Text.Digits
import SqlFilter.Text.Identifier

/-!
# Errors

Every way in which a query or its settings can be refused is one constructor; `QueryError.message` says it in words.
-/

namespace SqlFilter

/-- The kinds of filters. -/
inductive FilterKind
  | boolean
  | date
  | enum
  | flags
  | id
  | numeric
  | text
  | search
  | fullText
  | page
deriving DecidableEq, Repr

/-- The name of a kind in messages. -/
def FilterKind.name : FilterKind → String
  | .boolean => "Boolean"
  | .date => "Date"
  | .enum => "Enum"
  | .flags => "Flags"
  | .id => "Id"
  | .numeric => "Numeric"
  | .text => "String"
  | .search => "Search"
  | .fullText => "Full-text search"
  | .page => "Pagination"

/-- A fault of one field of a filter. -/
structure Finding where
  field : String
  message : String
deriving DecidableEq, Repr

/-- Why a name is refused. -/
inductive NameFault
  | emptyIdentifier
  | notIdentifier
  | emptyColumn
  | notColumn
  | emptySelection
deriving DecidableEq, Repr

def NameFault.reason : NameFault → String
  | .emptyIdentifier => "identifier cannot be empty"
  | .notIdentifier => "must match ^[A-Za-z_][A-Za-z0-9_]*$"
  | .emptyColumn => "column cannot be empty"
  | .notColumn => "must be an identifier optionally followed by ->'key' or ->>'key' hops"
  | .emptySelection => "select list cannot be empty"

/-- Why settings are refused. -/
inductive SettingsFault
  | unreadable (path : String)
  | unparsable
  | maxPageSize (n : Int64)
  | searchConfig (name : String)
deriving DecidableEq, Repr

def SettingsFault.reason : SettingsFault → String
  | .unreadable path => "failed to read config file " ++ path
  | .unparsable => "failed to parse config"
  | .maxPageSize n => "max_page_size must be greater than 0, got " ++ Text.integer n.toInt
  | .searchConfig name => "text_search_config '" ++ name ++ "' is not a valid configuration name"

/-- Why a query or its settings are refused. -/
inductive QueryError
  /-- A table, column or name of an output column is not of the form that names have. -/
  | invalidName (text : String) (fault : NameFault)
  /-- The fields of a filter contradict each other or are malformed. -/
  | invalidFilter (kind : FilterKind) (table column : String) (findings : List Finding)
  /-- A filter is absent although it is required. -/
  | missingFilter (kind : FilterKind) (table column : String)
  /-- The columns to select were chosen before. -/
  | selectAlreadySet
  /-- The columns to select were not chosen. -/
  | missingSelect
  /-- The dialect has no full text search. -/
  | noFullText (dialect : String)
  /-- Values of a type cannot be bound, or the dialect has no cast to it. -/
  | unsupportedType (type column : String)
  /-- The column is sorted by already. -/
  | duplicateSort (column : String)
  /-- A placeholder has no value. -/
  | unknownParameter (name : String)
  /-- The settings are refused. -/
  | settings (fault : SettingsFault)
deriving DecidableEq, Repr

namespace QueryError

def message : QueryError → String
  | invalidName text fault => "Invalid identifier '" ++ text ++ "': " ++ fault.reason
  | invalidFilter kind table column findings =>
    kind.name ++ " filter on " ++ table ++ "." ++ column ++ " is invalid: " ++
      "; ".intercalate (findings.map fun f => f.field ++ ": " ++ f.message)
  | missingFilter kind table column => kind.name ++ " filter on " ++ table ++ "." ++ column ++ " is required"
  | selectAlreadySet => "SELECT clause can only be set once"
  | missingSelect => "No SELECT clause has been set"
  | noFullText dialect => "Full-text search is not supported by the " ++ dialect ++ " dialect"
  | unsupportedType type column => "Unsupported type '" ++ type ++ "' for column '" ++ column ++ "'"
  | duplicateSort column => "Column '" ++ column ++ "' already has a sort directive"
  | unknownParameter name => "Unknown parameter '@" ++ name ++ "'"
  | settings fault => "Configuration error: " ++ fault.reason

/-- The error is about the content of a filter. -/
def isFilterError : QueryError → Bool
  | invalidFilter .. => true
  | _ => false

/-- The error is about the form of a name. -/
def isNameError : QueryError → Bool
  | invalidName .. => true
  | _ => false

/-- The error comes from what was asked of the query before, or from what its dialect can do. -/
def isStateError : QueryError → Bool
  | selectAlreadySet | missingSelect | noFullText _ | unsupportedType _ _ | duplicateSort _ => true
  | _ => false

end QueryError

/-- Refuses a text that is no identifier. -/
def checkIdentifier (s : String) : Except QueryError Unit :=
  if s = "" then .error (.invalidName s .emptyIdentifier)
  else if Text.isIdentifier s then .ok ()
  else .error (.invalidName s .notIdentifier)

/-- Refuses a text that is no column expression. -/
def checkColumn (s : String) : Except QueryError Unit :=
  if s = "" then .error (.invalidName s .emptyColumn)
  else if Text.isColumnExpression s then .ok ()
  else .error (.invalidName s .notColumn)

end SqlFilter
