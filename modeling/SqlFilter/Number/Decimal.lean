import SqlFilter.Number.Notation

/-!
# Scaled decimals

A decimal is a sign, a coefficient below `2 ^ 96` and a number of decimal places, at most 28.  The places are kept in
text (`1.50` stays `1.50`) and do not count in comparison.  Reading rounds away the digits that do not fit, a half away
from zero.  A zero that is written as one has no sign; a negative number that its exponent rounds to zero keeps its own.
-/

namespace SqlFilter

open Text

/-- All coefficients are below this: `2 ^ 96`. -/
def Decimal.limit : Nat := 79228162514264337593543950336

/-- A coefficient with a sign, divided by a power of ten. -/
structure Decimal where
  negative : Bool
  coefficient : Nat
  /-- The number of decimal places. -/
  scale : Nat
  coefficient_lt : coefficient < Decimal.limit
  scale_le : scale ≤ 28
deriving DecidableEq, Repr

namespace Decimal

/-- The decimal with the given parts, if they are in range. -/
def ofParts? (negative : Bool) (coefficient scale : Nat) : Option Decimal :=
  if h : coefficient < limit ∧ scale ≤ 28 then some ⟨negative, coefficient, scale, h.1, h.2⟩ else none

/-- An integer as a decimal without places, if it is in range. -/
def ofInt? (n : Int) : Option Decimal := ofParts? (n < 0) n.natAbs 0

/-- The integer that is left when the point is taken away. -/
def unscaled (d : Decimal) : Int := if d.negative then -d.coefficient else d.coefficient

instance : PartialCompare Decimal :=
  ⟨fun a b => some (compare (a.unscaled * Nat.pow 10 b.scale) (b.unscaled * Nat.pow 10 a.scale))⟩

/-- The text with all decimal places. -/
def text (d : Decimal) : String :=
  let ds := decimalPadded (d.scale + 1) d.coefficient
  let whole := ds.take (ds.length - d.scale)
  String.ofList ((if d.negative then ['-'] else []) ++ whole ++
    if d.scale = 0 then [] else '.' :: ds.drop (ds.length - d.scale))

/-- The digits of an unsigned decimal read so far. -/
structure Progress where
  /-- The number without its point. -/
  mantissa : Nat
  /-- The digits after the point. -/
  places : Nat
  /-- The point was read. -/
  point : Bool
  /-- A digit was read. -/
  seen : Bool

def Progress.isFull (p : Progress) : Bool := p.point && p.places = 28

/-- Adds one unit of the last place, which is given up if the number becomes too large. -/
def Progress.roundUp? (p : Progress) : Option Progress :=
  if p.mantissa + 1 < limit then some { p with mantissa := p.mantissa + 1 }
  else if p.places = 0 then none
  else some { p with mantissa := (p.mantissa + 5) / 10, places := p.places - 1 }

/-- A `_` behind the last place counts as a zero in coefficients below this, and is skipped in those from it on. -/
def separatorLimit : Nat := 18446744073709549060

/-- Ends reading at digits that do not fit.  The first of them decides on rounding. -/
def Progress.finish? (p : Progress) (rest : List Char) : Option Progress :=
  if rest.all fun c => c.isDigit || c = '_' then
    let deciding := if p.mantissa < separatorLimit then rest.take 1 else rest
    match deciding.find? Char.isDigit with
    | some c => if c < '5' then some p else p.roundUp?
    | none => some p
  else none

/-- Reads digits with at most one point; `_` may stand after a digit. -/
def Progress.read? (p : Progress) : List Char → Option Progress
  | [] => if p.seen then some p else none
  | c :: r =>
    if p.isFull then p.finish? (c :: r)
    else if c.isDigit then
      let m := 10 * p.mantissa + (c.toNat - 48)
      if m < limit then
        read? { p with mantissa := m, places := if p.point then p.places + 1 else 0, seen := true } r
      else if p.point then p.finish? (c :: r) else none
    else if c = '.' then if p.point then none else read? { p with point := true } r
    else if c = '_' then if p.seen then read? p r else none
    else none

private def ofDigits? (s : List Char) : Option Decimal := do
  let (negative, r) := readSign s
  let p ← Progress.read? ⟨0, 0, false, false⟩ r
  ofParts? (negative && p.mantissa ≠ 0) p.mantissa p.places

/-- The decimal times `10 ^ k`.  Its places are used up before its coefficient grows. -/
def scaleUp? (d : Decimal) (k : Nat) : Option Decimal :=
  ofParts? d.negative (d.coefficient * Nat.pow 10 (k - d.scale)) (d.scale - k)

/-- The decimal divided by `10 ^ k`.  Places past the last are rounded away. -/
def scaleDown? (d : Decimal) (k : Nat) : Option Decimal :=
  let excess := d.scale + k - 28
  ofParts? d.negative (divNearest .greater d.coefficient (Nat.pow 10 excess)) (d.scale + k - excess)

/-- Reads a number up to 28.  A minus sign may stand in front, then a plus sign. -/
private def readPower? (s : List Char) : Option (Bool × Nat) :=
  let negative := s.head? = some '-'
  let r := if negative then s.drop 1 else s
  let ds := if r.head? = some '+' then r.drop 1 else r
  if !ds.isEmpty && ds.all Char.isDigit && ofDecimal ds ≤ 28 then some (negative, ofDecimal ds) else none

/-- Reads a decimal, with or without an exponent. -/
def ofText? (s : String) : Option Decimal :=
  let isMark (c : Char) : Bool := c = 'e' || c = 'E'
  match ofDigits? s.toList with
  | some d => some d
  | none =>
    match s.toList.dropWhile (fun c => !isMark c) with
    | [] => none
    | _ :: tail => do
      let d ← ofDigits? (s.toList.takeWhile (fun c => !isMark c))
      let (negative, k) ← readPower? tail
      if negative then d.scaleDown? k else d.scaleUp? k

/-- The decimal that the shortest digits of a finite number stand for, a tie between digits going up. -/
def ofDouble? (x : Double) : Option Decimal :=
  if x.isFinite then
    let (whole, fraction) := (x.shortest .greater).positional
    ofDigits? ((if x.isNegative then ['-'] else []) ++ whole ++ '.' :: fraction)
  else none

end Decimal

end SqlFilter
