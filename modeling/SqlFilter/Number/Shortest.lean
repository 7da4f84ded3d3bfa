import SqlFilter.Number.Binary

/-!
# Shortest decimal digits

`Binary.shortest` finds the fewest significant digits that read back as a given positive finite number, and among those
the nearest to it; a tie goes where the caller says.  For one digit, two digits and so on it tries the two neighbours of
the number on that decimal grid; the first grid with a neighbour in the interval of reals that round to the number wins.
-/

namespace SqlFilter

/-- A coefficient times a power of ten. -/
structure DecimalDigits where
  coefficient : Nat
  exponent : Int
deriving DecidableEq, Repr

/-- The reals that round to a number, all scaled by one positive factor. -/
structure RoundingInterval where
  low : Nat
  value : Nat
  high : Nat
  /-- The ends belong to the interval. -/
  closed : Bool
  /-- The factor that takes the scaled numbers back: `value / scale` is the number. -/
  scale : Nat

namespace RoundingInterval

/-- A scaled number lies in the interval. -/
def contains (r : RoundingInterval) (n : Nat) : Bool :=
  if r.closed then r.low ≤ n && n ≤ r.high else r.low < n && n < r.high

/-- The decimal exponent of the first digit of the value, which is positive. -/
def firstExponent (r : RoundingInterval) : Int :=
  if r.scale ≤ r.value then ((Nat.toDigits 10 (r.value / r.scale)).length : Int) - 1
  else
    let d := (Nat.toDigits 10 (r.scale / r.value)).length
    -- `10 ^ (d - 1) ≤ scale / value < 10 ^ d`
    if r.scale ≤ r.value * Nat.pow 10 (d - 1) then -((d - 1 : Nat) : Int) else -(d : Int)

/-- The better of the value's neighbours on the grid of multiples of `10 ^ e` that lie in the interval. -/
def onGrid (r : RoundingInterval) (tie : Tie) (e : Int) : Option Nat :=
  let unit := r.scale * Nat.pow 10 e.toNat
  let shift := Nat.pow 10 (-e).toNat
  let q := r.value * shift / unit
  let inside (n : Nat) : Bool :=
    let s : RoundingInterval := { r with low := r.low * shift, value := r.value * shift, high := r.high * shift }
    s.contains (n * unit)
  match inside q, inside (q + 1) with
  | false, false => none
  | true, false => some q
  | false, true => some (q + 1)
  | true, true => some (divNearest tie (r.value * shift) unit)

/-- Tries grids of `n`, `n + 1`, … digits, `fuel` of them, where the first digit has the exponent `e`. -/
def search (r : RoundingInterval) (tie : Tie) (e : Int) : Nat → Nat → DecimalDigits
  | 0, n => ⟨divNearest tie (r.value * Nat.pow 10 (n - e).toNat) (r.scale * Nat.pow 10 (e - n).toNat), e - n⟩
  | fuel + 1, n =>
    match r.onGrid tie (e + 1 - n) with
    | some c => ⟨c, e + 1 - n⟩
    | none => search r tie e fuel (n + 1)

end RoundingInterval

/-- The reals that round to the absolute value of a finite number.  The gap below a power of two is half the gap
above it. -/
def Binary.interval {f : BinaryFormat} (x : Binary f) : RoundingInterval :=
  let d := x.toDyadic
  let narrow := d.significand = Nat.pow 2 f.fractionBits ∧ f.leastExponent < d.exponent
  let e := d.exponent - 2
  let up := Nat.pow 2 e.toNat
  { low := (4 * d.significand - if narrow then 1 else 2) * up
    value := 4 * d.significand * up
    high := (4 * d.significand + 2) * up
    closed := d.significand % 2 = 0
    scale := Nat.pow 2 (-e).toNat }

/-- A coefficient without trailing zeros; `fuel` bounds their number. -/
def DecimalDigits.trim : Nat → DecimalDigits → DecimalDigits
  | 0, d => d
  | fuel + 1, d =>
    if d.coefficient ≠ 0 ∧ d.coefficient % 10 = 0 then trim fuel ⟨d.coefficient / 10, d.exponent + 1⟩ else d

/-- The shortest digits that read back as the absolute value of a finite number. -/
def Binary.shortest {f : BinaryFormat} (tie : Tie) (x : Binary f) : DecimalDigits :=
  if x.magnitude = 0 then ⟨0, 0⟩
  else
    let r := x.interval
    (r.search tie r.firstExponent 17 1).trim 17

end SqlFilter
