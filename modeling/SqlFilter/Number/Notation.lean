import SqlFilter.Number.Shortest
import SqlFilter.Text.Digits

/-!
# Writing and reading floating point numbers

A finite number is written with its shortest digits, a tie going to even: in positional notation while the exponent of
its first digit lies in the span of its `FloatNotation`, with an exponent otherwise.  Reading takes digits with an
optional point and exponent, and the names of infinity and NaN in any case.
-/

namespace SqlFilter

open Text

/-- The digits before and after the point in positional notation. -/
def DecimalDigits.positional (d : DecimalDigits) : List Char × List Char :=
  let ds := decimal d.coefficient
  if 0 ≤ d.exponent then (ds ++ List.replicate d.exponent.toNat '0', [])
  else
    let places := (-d.exponent).toNat
    let padded := padLeft '0' (places + 1) ds
    (padded.take (padded.length - places), padded.drop (padded.length - places))

/-- The exponent of the first digit. -/
def DecimalDigits.firstExponent (d : DecimalDigits) : Int := d.exponent + (decimal d.coefficient).length - 1

/-- The exponents of the first digit that are written in positional notation: from `least` to below `limit`. -/
structure FloatNotation where
  least : Int
  limit : Int

/-- Numbers of 32 bits are positional from a millionth to below ten trillion. -/
def FloatNotation.single : FloatNotation := ⟨-6, 13⟩

/-- Numbers of 64 bits are positional from a hundred thousandth to below `10 ^ 16`. -/
def FloatNotation.double : FloatNotation := ⟨-5, 16⟩

/-- The text of digits: `1.0`, `0.25`, `1e+16` or `1.5e-7`. -/
def FloatNotation.write (n : FloatNotation) (d : DecimalDigits) : List Char :=
  let e := d.firstExponent
  if d.coefficient = 0 ∨ (n.least ≤ e ∧ e < n.limit) then
    let (whole, fraction) := d.positional
    whole ++ '.' :: (if fraction.isEmpty then ['0'] else fraction)
  else
    let ds := decimal d.coefficient
    let tail := ds.drop 1
    ds.take 1 ++ (if tail.isEmpty then [] else '.' :: tail) ++
      'e' :: (if e < 0 then '-' else '+') :: decimal e.natAbs

/-- The text of a finite number; none for the others. -/
def Binary.text? {f : BinaryFormat} (n : FloatNotation) (x : Binary f) : Option String :=
  if x.isFinite then some (String.ofList ((if x.isNegative then ['-'] else []) ++ n.write (x.shortest .even))) else none

/-- A leading sign and what follows it. -/
def readSign : List Char → Bool × List Char
  | '-' :: r => (true, r)
  | '+' :: r => (false, r)
  | s => (false, s)

/-- An exponent that takes up all characters: nothing, or `e` or `E` and a signed number. -/
def readExponent? : List Char → Option Int
  | [] => some 0
  | c :: r =>
    let (negative, ds) := readSign r
    if (c = 'e' || c = 'E') && !ds.isEmpty && ds.all Char.isDigit then
      some (if negative then -(ofDecimal ds : Int) else ofDecimal ds)
    else none

/-- Reads the number nearest to a decimal text. -/
def Binary.ofText? {f : BinaryFormat} (s : String) : Option (Binary f) :=
  let (negative, r) := readSign s.toList
  let name := String.ofList (r.map Char.toLower)
  if name = "inf" ∨ name = "infinity" then some (ofFields negative f.infinity)
  else if name = "nan" then some (ofFields negative f.nan)
  else
    let whole := r.takeWhile Char.isDigit
    let rest := r.dropWhile Char.isDigit
    let (fraction, tail) := match rest with
      | '.' :: t => (t.takeWhile Char.isDigit, t.dropWhile Char.isDigit)
      | t => ([], t)
    if whole.isEmpty && fraction.isEmpty then none
    else (readExponent? tail).map fun e =>
      ofDecimal negative (Text.ofDecimal (whole ++ fraction)) (e - fraction.length)

end SqlFilter
