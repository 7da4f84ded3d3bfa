import SqlFilter.Text.Lowercase.Table

/-!
# Lower-casing

`toLower` replaces every letter by its full lower-case form: one character for all letters but `İ`, which becomes `i`
and a combining dot.  A capital sigma at the end of a word becomes `ς`, elsewhere `σ`.
-/

namespace SqlFilter.Text

/-- The character with the given code point shifted by a distance. -/
private def shifted (n : Nat) (d : Int) : Char := Char.ofNat (n + d).toNat

/-- The lower-case form of a character outside any context. -/
def lowerChar (c : Char) : List Char :=
  if c = 'İ' then ['i', '\u0307']
  else
    match lowercaseRuns.find? (fun r => r.covers c.toNat) with
    | some r => [shifted c.toNat r.shift]
    | none => [c]

/-- The first character that is not ignored for case is cased. -/
def meetsCased (s : List Char) : Bool :=
  match s.find? (fun c => !inRanges caseIgnorableRanges c.toNat) with
  | some c => inRanges casedRanges c.toNat
  | none => false

/-- A sigma between these characters ends a word; those before it are given in reverse. -/
def endsWord (before after : List Char) : Bool := meetsCased before && !meetsCased after

/-- Lower-cases the characters after `before`, which is given in reverse. -/
def lowerAfter (before : List Char) : List Char → List Char
  | [] => []
  | c :: r =>
    (if c = 'Σ' then [if endsWord before r then 'ς' else 'σ'] else lowerChar c) ++ lowerAfter (c :: before) r

def toLower (s : String) : String := String.ofList (lowerAfter [] s.toList)

end SqlFilter.Text
