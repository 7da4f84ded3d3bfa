/-!
# Rounding quotients

`divNearest` rounds a quotient of two natural numbers to the nearest natural number.  A `Tie` says where a quotient goes
that lies half way between two neighbours.
-/

namespace SqlFilter

/-- The neighbour that a number half way between two of them is rounded to. -/
inductive Tie
  | even
  | greater
deriving DecidableEq, Repr

/-- The quotient rounded to the nearest number. -/
def divNearest (tie : Tie) (num den : Nat) : Nat :=
  let q := num / den
  let r := num % den
  if 2 * r < den ∨ (2 * r = den ∧ tie = .even ∧ q % 2 = 0) then q else q + 1

end SqlFilter
