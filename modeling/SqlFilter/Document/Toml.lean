import SqlFilter.Document.Toml.Draft

/-!
# TOML

Reads a document from a TOML text: lines `key = value`, headers of tables, and tables and lists as values.  A value is a
text, an integer of 64 bits, a truth value, a list or a table.  Numbers with a fraction, dates and headers of lists of
tables are refused, as is a key that occurs twice.  Within braces and brackets blanks, comments and the ends of lines
may stand between all parts but those of a key.
-/

namespace SqlFilter

namespace Toml

/-- Reads a truth value or an integer. -/
def readWord? (s : List Char) : Option (Document × List Char) :=
  let word := s.takeWhile fun c => !isWordEnd c
  let rest := s.drop word.length
  if word = ['t', 'r', 'u', 'e'] then some (.bool true, rest)
  else if word = ['f', 'a', 'l', 's', 'e'] then some (.bool false, rest)
  else (ofInteger? word).map fun n => (.integer n, rest)

mutual

/-- Reads a value.  `fuel` bounds the nesting and the number of the parts. -/
def readValue? : Nat → List Char → Option (Document × List Char)
  | 0, _ => none
  | fuel + 1, s =>
    match s with
    | '[' :: r => (readItems? fuel r).map fun (xs, r) => (.list xs, r)
    | '\x7b' :: r => (readEntries? fuel [] r).map fun (es, r) => (.table (Draft.toEntries es), r)
    | '"' :: _ | '\'' :: _ => (readText? s).map fun (t, r) => (.text t, r)
    | _ => readWord? s

/-- Reads the items of a list and the bracket after them.  A comma may follow the last. -/
def readItems? : Nat → List Char → Option (List Document × List Char)
  | 0, _ => none
  | fuel + 1, s =>
    match skipGap false s with
    | ']' :: r => some ([], r)
    | s => do
      let (x, r) ← readValue? fuel s
      match skipGap false r with
      | ']' :: r => some ([x], r)
      | ',' :: r => (readItems? fuel r).map fun (xs, r) => (x :: xs, r)
      | _ => none

/-- Reads the entries of a table after those before, and the brace after them.  A comma may follow the last. -/
def readEntries? : Nat → List (String × Draft) → List Char → Option (List (String × Draft) × List Char)
  | 0, _, _ => none
  | fuel + 1, entries, s =>
    match skipGap false s with
    | '\x7d' :: r => some (entries, r)
    | s => do
      let ((p, x), r) ← readAssignment? (skipGap false) fuel s
      let entries ← Draft.assign? p x entries
      match skipGap false r with
      | '\x7d' :: r => some (entries, r)
      | ',' :: r => readEntries? fuel entries r
      | _ => none

/-- Reads a key and its value.  What `skip` drops may stand around the equals sign. -/
def readAssignment? (skip : List Char → List Char) : Nat → List Char → Option ((Path × Document) × List Char)
  | 0, _ => none
  | fuel + 1, s => do
    let (p, r) ← readPath? (fuel + 1) s
    match skip r with
    | '=' :: r => (readValue? fuel (skip r)).map fun (x, r) => ((p, x), r)
    | _ => none

end

/-- Reads lines after the entries of those before, where `opened` leads to the table that was opened last.  `fuel`
bounds the number of lines. -/
def readLines? : Nat → List String → List (String × Draft) → List Char → Option (List (String × Draft))
  | 0, _, _, _ => none
  | fuel + 1, opened, entries, s =>
    match skipGap false s with
    | [] => some entries
    | '[' :: r => do
      let (p, r) ← readPath? (r.length + 1) r
      match r with
      | ']' :: r => do
        let entries ← Draft.openTable? p entries
        readLines? fuel (p.tables ++ [p.last]) entries (← endOfLine? r)
      | _ => none
    | s => do
      let ((p, x), r) ← readAssignment? skipSpaces (2 * s.length + 2) s
      let entries ← Draft.assignIn? opened p x entries
      readLines? fuel opened entries (← endOfLine? r)

/-- Reads a whole text as a table.  A byte order mark may stand in front. -/
def read? (s : String) : Option Document :=
  let cs := s.toList
  let cs := if cs.head? = some '\ufeff' then cs.drop 1 else cs
  (readLines? (cs.length + 1) [] [] cs).map fun entries => .table (Draft.toEntries entries)

end Toml

end SqlFilter
