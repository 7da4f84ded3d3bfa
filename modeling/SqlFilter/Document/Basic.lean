import SqlFilter.Number.Binary

/-!
# Documents

A document is data that describes itself, such as the content of a request or of a settings file.  Integers are those of
64 bits, with or without a sign; every other number is a double.  The names of a table differ from each other.
-/

namespace SqlFilter

/-- A tree of data. -/
inductive Document
  | null
  | bool (b : Bool)
  | integer (n : Int)
  | real (x : Double)
  | text (s : String)
  | list (items : List Document)
  | table (entries : List (String × Document))
deriving Inhabited

namespace Document

def isNull : Document → Bool
  | null => true
  | _ => false

/-- The document is a list or a table with nothing in it. -/
def isEmpty : Document → Bool
  | list [] | table [] => true
  | _ => false

/-- The entry of a table under a name. -/
def entry? (name : String) : Document → Option Document
  | table entries => entries.lookup name
  | _ => none

end Document

end SqlFilter
