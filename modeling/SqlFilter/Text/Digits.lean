/-!
# Digits

Numbers as digit characters: decimal with a least width, hexadecimal with a fixed width, and reading a run of decimal
digits from the front of a text.
-/

namespace SqlFilter.Text

/-- The characters with copies of `c` in front up to the given length. -/
def padLeft (c : Char) (width : Nat) (s : List Char) : List Char := List.replicate (width - s.length) c ++ s

/-- The decimal digits of a number. -/
def decimal (n : Nat) : List Char := Nat.toDigits 10 n

/-- The decimal digits of a number, at least as many as asked for. -/
def decimalPadded (width n : Nat) : List Char := padLeft '0' width (decimal n)

/-- The text of an integer: a minus sign in front of a negative one. -/
def integer (n : Int) : String := (if n < 0 then "-" else "") ++ String.ofList (decimal n.natAbs)

/-- The lower-case hexadecimal digits of a number, at least as many as asked for. -/
def hexPadded (width n : Nat) : List Char := padLeft '0' width (Nat.toDigits 16 n)

/-- The number that decimal digits stand for. -/
def ofDecimal (s : List Char) : Nat := Nat.ofDigitChars 10 s 0

/-- The digits in front, at most as many as allowed, and what follows them; none if there is no digit. -/
def readDigits? (limit : Nat) (s : List Char) : Option (List Char × List Char) :=
  let n := min limit (s.takeWhile Char.isDigit).length
  if n = 0 then none else some (s.take n, s.drop n)

/-- The value of a hexadecimal digit of either case. -/
def hexDigit? (c : Char) : Option Nat :=
  if c.isDigit then some (c.toNat - 48)
  else if 'a' ≤ c ∧ c ≤ 'f' then some (c.toNat - 87)
  else if 'A' ≤ c ∧ c ≤ 'F' then some (c.toNat - 55)
  else none

/-- The number that hexadecimal digits stand for, read on from `n`; none if another character occurs. -/
def ofHex? : Nat → List Char → Option Nat
  | n, [] => some n
  | n, c :: r =>
    match hexDigit? c with
    | some d => ofHex? (16 * n + d) r
    | none => none

end SqlFilter.Text
