import SqlFilter.Dialect.Known
import SqlFilter.Document.Reading
import SqlFilter.Document.Toml

/-!
# Settings

What queries have in common: the database, a limit on pages, the configuration of full text search, and whether a
filter may be absent.  Settings are read from a document or a TOML text; other fields than these four are refused.
-/

namespace SqlFilter

/-- The databases that settings can name. -/
inductive Backend
  | postgres
deriving DecidableEq, Repr

namespace Backend

def name : Backend → String
  | .postgres => "postgres"

def ofName? : String → Option Backend
  | "postgres" | "postgresql" | "pg" => some .postgres
  | _ => none

def dialect : Backend → Dialect
  | .postgres => .postgres

end Backend

/-- What queries have in common. -/
structure Settings where
  backend : Backend := .postgres
  /-- The greatest length of a page, where a query sets none. -/
  maxPageSize : Option Int64 := none
  /-- The text search configuration, where a search names none. -/
  searchConfig : String := "english"
  /-- An absent filter asks for nothing; otherwise it is an error. -/
  allowAbsent : Bool := true
deriving DecidableEq, Repr

namespace Settings

/-- Refuses a limit that is not positive, then a configuration that is no identifier. -/
def check (s : Settings) : Except QueryError Unit := do
  if let some n := s.maxPageSize then
    if n ≤ 0 then throw (.settings (.maxPageSize n))
  if !Text.isIdentifier s.searchConfig then throw (.settings (.searchConfig s.searchConfig))

def fields : List String := ["dialect", "max_page_size", "text_search_config", "allow_null_filters"]

/-- Reads settings without checking them.  The database may be named with a content of `isNothing`. -/
def readWith (isNothing : Document → Bool) : Reader Settings := fun d => do
  let known := match d with
    | .table entries => entries.all fun e => fields.contains e.1
    | _ => true
  if !known then none
  let d ← Reader.record fields d
  return {
    backend := ← Reader.defaulted "dialect" .postgres (Reader.oneOfWith isNothing Backend.ofName?) d
    maxPageSize := ← Reader.optional "max_page_size" Reader.int64 d
    searchConfig := ← Reader.defaulted "text_search_config" "english" Reader.text d
    allowAbsent := ← Reader.defaulted "allow_null_filters" true Reader.bool d }

/-- Reads settings without checking them, where null stands for no content. -/
def read : Reader Settings := readWith Document.isNull

/-- Reads and checks settings from a TOML text.  It knows no null, so what is empty stands for no content. -/
def ofToml (text : String) : Except QueryError Settings :=
  match (Toml.read? text).bind (readWith Document.isEmpty) with
  | none => .error (.settings .unparsable)
  | some s => do
    s.check
    return s

/-- Reads and checks settings from the content of a file, which may be missing. -/
def ofFile (path : String) (content : Option String) : Except QueryError Settings :=
  match content with
  | none => .error (.settings (.unreadable path))
  | some text => ofToml text

end Settings

end SqlFilter
