import SqlFilter.Document.Basic
import SqlFilter.Named
import SqlFilter.Number.Notation
import SqlFilter.Text.Quoted

/-!
# JSON

Reads a document from a JSON text.  A number without point and exponent is an integer if 64 bits, with or without a
sign, can hold it; every other number is the nearest double, which must be finite.  Minus zero is a double, since no
integer has its sign.  Where a table names a field twice, the last one counts.
-/

namespace SqlFilter

open Text

namespace Json

/-- White space between the parts of a text. -/
def isSpace (c : Char) : Bool := c = ' ' || c = '\t' || c = '\n' || c = '\r'

def skipSpaces (s : List Char) : List Char := s.dropWhile isSpace

/-- The character that a letter stands for after a backslash. -/
def escaped? : Char → Option Char
  | 'b' => some '\x08'
  | 't' => some '\t'
  | 'n' => some '\n'
  | 'f' => some '\x0c'
  | 'r' => some '\r'
  | '"' => some '"'
  | '\\' => some '\\'
  | '/' => some '/'
  | _ => none

/-- Reads a number of 16 bits in four hexadecimal digits. -/
def readUnit? (s : List Char) : Option (Nat × List Char) :=
  if 4 ≤ s.length then (ofHex? 0 (s.take 4)).map (·, s.drop 4) else none

/-- Reads the code of a character.  One past the first 65536 is written in two units, each of which gives ten bits. -/
def readCode? (s : List Char) : Option (Char × List Char) := do
  let (high, r) ← readUnit? s
  if high.isValidChar then some (Char.ofNat high, r)
  else
    match r with
    | '\\' :: 'u' :: r => do
      let (low, r) ← readUnit? r
      if high < 0xDC00 ∧ 0xDC00 ≤ low ∧ low < 0xE000 then
        some (Char.ofNat (0x10000 + 0x400 * (high - 0xD800) + (low - 0xDC00)), r)
      else none
    | _ => none

/-- Reads the character after a backslash. -/
def readEscape? : List Char → Option (Char × List Char)
  | [] => none
  | 'u' :: r => readCode? r
  | c :: r => (escaped? c).map (·, r)

/-- Reads a text after its opening quote. -/
def readText? (s : List Char) : Option (String × List Char) :=
  (readQuoted? readEscape? (fun c => 32 ≤ c.toNat) s).map fun (t, r) => (String.ofList t, r)

/-- Reads the digits after a point, if one stands in front. -/
def readFraction? : List Char → Option (List Char × List Char)
  | '.' :: r => readDigits? r.length r
  | s => some ([], s)

/-- Reads an exponent, if one stands in front. -/
def readExponent? : List Char → Option (Option Int × List Char)
  | 'e' :: r | 'E' :: r =>
    let (negative, t) := readSign r
    (readDigits? t.length t).map fun (ds, u) =>
      (some (if negative then -(ofDecimal ds : Int) else ofDecimal ds), u)
  | s => some (none, s)

/-- The number with a sign, digits before and after the point, and an exponent. -/
def ofNumber? (negative : Bool) (whole fraction : List Char) (exponent : Option Int) : Option Document :=
  let n : Int := if negative then -(ofDecimal whole : Int) else ofDecimal whole
  let fits : Bool := Int64.minValue.toInt ≤ n ∧ n < UInt64.size ∧ ¬(negative = true ∧ n = 0)
  if fraction.isEmpty && exponent.isNone && fits then some (.integer n)
  else
    let x := Binary.ofDecimal negative (ofDecimal (whole ++ fraction)) (exponent.getD 0 - fraction.length)
    if x.isFinite then some (.real x) else none

/-- Reads a number.  Its first digit is zero only if no digit follows before the point. -/
def readNumber? (s : List Char) : Option (Document × List Char) := do
  let negative := s.head? = some '-'
  let (whole, r) ← readDigits? s.length (if negative then s.drop 1 else s)
  let (fraction, r) ← readFraction? r
  let (exponent, r) ← readExponent? r
  if whole.head? = some '0' ∧ whole.length ≠ 1 then none
  else (ofNumber? negative whole fraction exponent).map (·, r)

mutual

/-- Reads a value.  `fuel` bounds the nesting and the number of the parts. -/
def readValue? : Nat → List Char → Option (Document × List Char)
  | 0, _ => none
  | fuel + 1, s =>
    match s with
    | 'n' :: 'u' :: 'l' :: 'l' :: r => some (.null, r)
    | 't' :: 'r' :: 'u' :: 'e' :: r => some (.bool true, r)
    | 'f' :: 'a' :: 'l' :: 's' :: 'e' :: r => some (.bool false, r)
    | '"' :: r => (readText? r).map fun (t, r) => (.text t, r)
    | '[' :: r =>
      match skipSpaces r with
      | ']' :: r => some (.list [], r)
      | r => (readItems? fuel r).map fun (xs, r) => (.list xs, r)
    | '\x7b' :: r =>
      match skipSpaces r with
      | '\x7d' :: r => some (.table [], r)
      | r => (readEntries? fuel [] r).map fun (es, r) => (.table es, r)
    | _ => readNumber? s

/-- Reads the items of a list, at least one, and the bracket after them. -/
def readItems? : Nat → List Char → Option (List Document × List Char)
  | 0, _ => none
  | fuel + 1, s => do
    let (x, r) ← readValue? fuel s
    match skipSpaces r with
    | ']' :: r => some ([x], r)
    | ',' :: r => (readItems? fuel (skipSpaces r)).map fun (xs, r) => (x :: xs, r)
    | _ => none

/-- Reads the entries of a table, at least one, after those before, and the brace after them. -/
def readEntries? : Nat → List (String × Document) → List Char → Option (List (String × Document) × List Char)
  | 0, _, _ => none
  | fuel + 1, entries, s =>
    match s with
    | '"' :: r => do
      let (name, r) ← readText? r
      match skipSpaces r with
      | ':' :: r => do
        let (x, r) ← readValue? fuel (skipSpaces r)
        let entries := Named.put name x entries
        match skipSpaces r with
        | '\x7d' :: r => some (entries, r)
        | ',' :: r => readEntries? fuel entries (skipSpaces r)
        | _ => none
      | _ => none
    | _ => none

end

/-- Reads a value that takes up the whole text. -/
def read? (s : String) : Option Document := do
  let cs := skipSpaces s.toList
  let (d, r) ← readValue? (2 * cs.length + 2) cs
  if (skipSpaces r).isEmpty then some d else none

end Json

end SqlFilter
