import SqlFilter.Statement.Basic
import SqlFilter.Text.Slice

/-!
# Scanning a statement byte by byte

A scanner numbers the placeholders of a statement by its bytes.  It stands at a byte, finds the byte behind the piece
that starts there, copies or replaces the piece and goes on behind it.  Text is taken out between two bytes, which fails
if one of them is within a character; nothing in the rules prevents that, or makes sure that the scanner moves on and
stays within the text.
-/

namespace SqlFilter

/-- Where a scanner stands, what it has written and the names that have numbers, in order. -/
structure Scanner where
  index : Nat := 0
  sql : String := ""
  seen : List (String × Value) := []
deriving DecidableEq

namespace Scanner

/-- Why a scanner stops. -/
inductive Stop
  /-- There is no byte left. -/
  | ended
  /-- The name of a placeholder has no value. -/
  | unknownParameter (name : String)
  /-- What lies between two bytes is no text. -/
  | badSlice (start stop : Nat)
deriving DecidableEq, Repr

/-! ### Where pieces end -/

def quote : UInt8 := '\''.toUInt8

def mark : UInt8 := '@'.toUInt8

/-- A byte of the name of a placeholder. -/
def isNameByte (b : UInt8) : Bool := isNameChar (Char.ofUInt8 b)

/-- The byte behind the first quote from a byte on that is not written twice; the end if there is none. -/
def closing (bytes : List UInt8) (i : Nat) : Nat :=
  if h : i < bytes.length then
    if bytes[i] = quote then
      if bytes[i + 1]? = some quote then closing bytes (i + 2) else i + 1
    else closing bytes (i + 1)
  else bytes.length
termination_by bytes.length - i

/-- The byte behind the literal whose opening quote is at a byte. -/
def literalEnd (bytes : List UInt8) (start : Nat) : Nat := closing bytes (start + 1)

/-- The byte behind the name that starts at a byte. -/
def nameEnd (bytes : List UInt8) (i : Nat) : Nat :=
  if h : i < bytes.length then
    if isNameByte bytes[i] then nameEnd bytes (i + 1) else i
  else i
termination_by bytes.length - i

/-- The byte of the next `@` or quote, or the end of the text; none if the text cannot be cut at the byte. -/
def nextBoundary? (s : String) (i : Nat) : Option Nat :=
  (Text.slice? s i s.utf8ByteSize).map fun rest =>
    match Text.offset? (fun c => c = '@' || c = '\'') rest.toList with
    | some k => i + k
    | none => s.utf8ByteSize

/-! ### Steps -/

/-- Copies the text up to a byte. -/
def copy (s : String) (a : Scanner) (stop : Nat) : Except Stop Scanner :=
  match Text.slice? s a.index stop with
  | some text => .ok { a with index := stop, sql := a.sql ++ text }
  | none => .error (.badSlice a.index stop)

/-- Writes the number of a name, a new one if the name has none yet, and goes to a byte. -/
def replace (params : Params) (a : Scanner) (name : String) (stop : Nat) : Except Stop Scanner :=
  match a.seen.findIdx? fun e => e.1 = name with
  | some k => .ok { a with index := stop, sql := a.sql ++ Statement.placeholder (k + 1) }
  | none =>
    match params.get? name with
    | none => .error (.unknownParameter name)
    | some v =>
      .ok {
        index := stop
        sql := a.sql ++ Statement.placeholder (a.seen.length + 1)
        seen := a.seen ++ [(name, v)] }

/-- Passes the piece that starts where the scanner stands. -/
def step (st : Statement) (a : Scanner) : Except Stop Scanner :=
  let bytes := Text.bytes st.sql
  match bytes[a.index]? with
  | none => .error .ended
  | some b =>
    if b = quote then a.copy st.sql (literalEnd bytes a.index)
    else if b = mark then
      if bytes[a.index + 1]? = some mark then .ok { a with index := a.index + 2, sql := a.sql ++ "@@" }
      else
        let start := a.index + 1
        let stop := nameEnd bytes start
        if stop = start then .ok { a with index := start, sql := a.sql ++ "@" }
        else
          match Text.slice? st.sql start stop with
          | some name => a.replace st.params name stop
          | none => .error (.badSlice start stop)
    else
      match nextBoundary? st.sql a.index with
      | some stop => a.copy st.sql stop
      | none => .error (.badSlice a.index st.sql.utf8ByteSize)

end Scanner

end SqlFilter
