import SqlFilter.Text.Quoted

/-!
# Words of TOML

Blanks, comments, names and the texts and integers that lines are made of.  A text in three quotes may run over several
lines, whose ends it keeps as they are.  Control characters other than the tab stand nowhere, and a line ends with a
line feed, which a carriage return may precede.
-/

namespace SqlFilter.Toml

open Text

def isSpace (c : Char) : Bool := c = ' ' || c = '\t'

/-- A character that may stand in a comment or between quotes. -/
def isPlain (c : Char) : Bool := c = '\t' || (32 ≤ c.toNat && c.toNat ≠ 127)

def skipSpaces (s : List Char) : List Char := s.dropWhile isSpace

/-- Drops the end of a line, if one stands in front. -/
def newline? : List Char → Option (List Char)
  | '\n' :: r => some r
  | '\r' :: '\n' :: r => some r
  | _ => none

/-- Drops blanks, a comment and the end of a line; the text may end instead. -/
def endOfLine? (s : List Char) : Option (List Char) :=
  let s := skipSpaces s
  let s := if s.head? = some '#' then s.dropWhile isPlain else s
  if s.isEmpty then some [] else newline? s

/-- Drops blanks and the ends of lines. -/
def skipLines : List Char → List Char
  | '\r' :: '\n' :: r => skipLines r
  | c :: r => if isSpace c || c = '\n' then skipLines r else c :: r
  | [] => []

/-- Drops blanks, comments and the ends of lines.  A character that no comment may hold is left in front. -/
def skipGap (inComment : Bool) : List Char → List Char
  | '\r' :: '\n' :: r => skipGap false r
  | c :: r =>
    if c = '\n' then skipGap false r
    else if inComment then if isPlain c then skipGap true r else c :: r
    else if c = '#' then skipGap true r
    else if isSpace c then skipGap false r
    else c :: r
  | [] => []

/-- The character of a code in hexadecimal digits, if there is one. -/
def ofCode? (ds : List Char) : Option Char := do
  let n ← ofHex? 0 ds
  if n.isValidChar then some (Char.ofNat n) else none

/-- The character that a letter stands for after a backslash. -/
def escaped? : Char → Option Char
  | 'b' => some '\x08'
  | 't' => some '\t'
  | 'n' => some '\n'
  | 'f' => some '\x0c'
  | 'r' => some '\r'
  | 'e' => some '\x1b'
  | '"' => some '"'
  | '\\' => some '\\'
  | _ => none

/-- The number of hexadecimal digits after a letter that starts a code. -/
def codeLength? : Char → Option Nat
  | 'x' => some 2
  | 'u' => some 4
  | 'U' => some 8
  | _ => none

/-- Reads the character after a backslash. -/
def readEscape? : List Char → Option (Char × List Char)
  | [] => none
  | c :: r =>
    match codeLength? c with
    | some n => if n ≤ r.length then (ofCode? (r.take n)).map (·, r.drop n) else none
    | none => (escaped? c).map (·, r)

/-- Reads up to the closing double quote of a line. -/
def readBasic? (s : List Char) : Option (List Char × List Char) := readQuoted? readEscape? isPlain s

/-- Reads up to the closing single quote of a line. -/
def readLiteral? (s : List Char) : Option (List Char × List Char) :=
  let body := s.takeWhile fun c => isPlain c && c ≠ '\''
  match s.drop body.length with
  | '\'' :: r => some (body, r)
  | _ => none

/-- Reads up to three closing quotes.  One or two quotes more belong to the text.  With `escapes` a backslash has a
meaning; at the end of a line it takes away the line's end and the blanks after it.  `fuel` bounds the number of
characters. -/
def readLong? (quote : Char) (escapes : Bool) : Nat → List Char → Option (List Char × List Char)
  | fuel + 1, c :: r =>
    if c = quote then
      let more := r.takeWhile (· = quote)
      let rest := r.drop more.length
      if more.length < 2 then (readLong? quote escapes fuel rest).map fun (s, r) => (c :: more ++ s, r)
      else if more.length ≤ 4 then some (more.drop 2, rest)
      else none
    else if escapes ∧ c = '\\' then
      match newline? (skipSpaces r) with
      | some r => readLong? quote escapes fuel (skipLines r)
      | none => do
        let (x, r) ← readEscape? r
        let (s, r) ← readLong? quote escapes fuel r
        return (x :: s, r)
    else if isPlain c ∨ (newline? (c :: r)).isSome then
      (readLong? quote escapes fuel r).map fun (s, r) => (c :: s, r)
    else none
  | _, _ => none

/-- Reads a text in three quotes.  The end of a line right after the opening quotes does not count. -/
def readLongAfter? (quote : Char) (escapes : Bool) (s : List Char) : Option (List Char × List Char) :=
  readLong? quote escapes (s.length + 1) ((newline? s).getD s)

/-- Reads a text in any of its quotes. -/
def readText? (s : List Char) : Option (String × List Char) :=
  let body :=
    match s with
    | '"' :: '"' :: '"' :: r => readLongAfter? '"' true r
    | '\'' :: '\'' :: '\'' :: r => readLongAfter? '\'' false r
    | '"' :: r => readBasic? r
    | '\'' :: r => readLiteral? r
    | _ => none
  body.map fun (t, r) => (String.ofList t, r)

/-- The digits of a number without `_`, which may stand between two digits only. -/
def dropUnderscores? (isDigit : Char → Bool) : List Char → Option (List Char)
  | [] => none
  | [c] => if isDigit c then some [c] else none
  | c :: '_' :: r => if isDigit c then (dropUnderscores? isDigit r).map (c :: ·) else none
  | c :: r => if isDigit c then (dropUnderscores? isDigit r).map (c :: ·) else none

def ofBase? (base : Nat) (s : List Char) : Option Nat := do
  let isDigit (c : Char) : Bool := ((hexDigit? c).map fun d => decide (d < base)).getD false
  let ds ← dropUnderscores? isDigit s
  return ds.foldl (fun n c => base * n + (hexDigit? c).getD 0) 0

/-- Reads an integer of 64 bits: decimal with a sign, or with a mark of its base. -/
def ofInteger? (s : List Char) : Option Int := do
  let n : Int ←
    match s with
    | '0' :: 'x' :: r => (ofBase? 16 r).map Int.ofNat
    | '0' :: 'o' :: r => (ofBase? 8 r).map Int.ofNat
    | '0' :: 'b' :: r => (ofBase? 2 r).map Int.ofNat
    | _ =>
      let ds := if s.head? = some '-' ∨ s.head? = some '+' then s.drop 1 else s
      if ds.head? = some '0' ∧ ds.length ≠ 1 then none
      else (ofBase? 10 ds).map fun n => if s.head? = some '-' then -(n : Int) else n
  if Int64.minValue.toInt ≤ n ∧ n ≤ Int64.maxValue.toInt then some n else none

/-- A character that ends a word which is not quoted. -/
def isWordEnd (c : Char) : Bool := isSpace c || ['\n', '\r', '#', ',', ']', '\x7d'].contains c

/-- Reads a name: a bare word or a text between single or double quotes. -/
def readName? (s : List Char) : Option (String × List Char) :=
  match s with
  | '"' :: r => (readBasic? r).map fun (k, r) => (String.ofList k, r)
  | '\'' :: r => (readLiteral? r).map fun (k, r) => (String.ofList k, r)
  | _ =>
    let word := s.takeWhile fun c => c.isAlphanum || c = '_' || c = '-'
    if word.isEmpty then none else some (String.ofList word, s.drop word.length)

/-- The names that lead from a table to one of its parts: those of the tables on the way, and the last. -/
structure Path where
  tables : List String
  last : String

/-- Reads names with points between them and drops blanks around them.  `fuel` bounds their number. -/
def readPath? : Nat → List Char → Option (Path × List Char)
  | 0, _ => none
  | fuel + 1, s => do
    let (name, r) ← readName? (skipSpaces s)
    match skipSpaces r with
    | '.' :: r => (readPath? fuel r).map fun (p, r) => (⟨name :: p.tables, p.last⟩, r)
    | r => some (⟨[], name⟩, r)

end SqlFilter.Toml
