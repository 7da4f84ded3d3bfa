import SqlFilter.Text.Digits

/-!
# Quoted text

A text between double quotes: quotes, backslashes and control characters are written with a backslash, all other
characters stand for themselves.  What may follow a backslash in reading depends on the format, so the reader takes that
as an argument.
-/

namespace SqlFilter.Text

def quoteChar (c : Char) : List Char :=
  match c with
  | '"' => ['\\', '"']
  | '\\' => ['\\', '\\']
  | '\x08' => ['\\', 'b']
  | '\t' => ['\\', 't']
  | '\n' => ['\\', 'n']
  | '\x0c' => ['\\', 'f']
  | '\r' => ['\\', 'r']
  | c => if c.toNat < 32 then ['\\', 'u'] ++ hexPadded 4 c.toNat else [c]

def quote (s : String) : String := String.ofList ('"' :: s.toList.flatMap quoteChar ++ ['"'])

/-- Reads up to the closing quote.  `fuel` bounds the number of characters. -/
private def readQuotedWith? (escape : List Char → Option (Char × List Char)) (isPlain : Char → Bool) :
    Nat → List Char → Option (List Char × List Char)
  | fuel + 1, c :: r =>
    if c = '"' then some ([], r)
    else if c = '\\' then do
      let (x, r) ← escape r
      let (s, r) ← readQuotedWith? escape isPlain fuel r
      return (x :: s, r)
    else if isPlain c then (readQuotedWith? escape isPlain fuel r).map fun (s, r) => (c :: s, r)
    else none
  | _, _ => none

/-- Reads up to the closing quote: `escape` reads what follows a backslash, and a character of `isPlain` stands for
itself. -/
def readQuoted? (escape : List Char → Option (Char × List Char)) (isPlain : Char → Bool) (s : List Char) :
    Option (List Char × List Char) := readQuotedWith? escape isPlain (s.length + 1) s

end SqlFilter.Text
