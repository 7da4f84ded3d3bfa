import SqlFilter.Number.Order
import SqlFilter.Text.Digits

/-!
# Universally unique identifiers

An identifier is a number of 128 bits.  It is written as 32 lower-case hexadecimal digits in groups of 8, 4, 4, 4 and
12, and read from that form, alone, in braces or after `urn:uuid:`, or from the 32 digits alone.  The case of letters
does not matter in reading.
-/

namespace SqlFilter

open Text

/-- A universally unique identifier. -/
structure Uuid where
  bits : BitVec 128
deriving DecidableEq, Repr

namespace Uuid

instance : PartialCompare Uuid := ⟨PartialCompare.on fun u => u.bits.toNat⟩

/-- The lengths of the groups of digits. -/
def groups : List Nat := [8, 4, 4, 4, 12]

/-- Cuts characters into groups of the given lengths. -/
def cut : List Nat → List Char → List (List Char)
  | [], _ => []
  | n :: ns, s => s.take n :: cut ns (s.drop n)

/-- The text with hyphens between the groups. -/
def text (u : Uuid) : String := String.ofList (['-'].intercalate (cut groups (hexPadded 32 u.bits.toNat)))

/-- Takes out the hyphens between the groups; none if one is missing. -/
private def dropHyphens? : List Nat → List Char → Option (List Char)
  | [], s => if s.isEmpty then some [] else none
  | [n], s => if s.length = n then some s else none
  | n :: ns, s =>
    match s.drop n with
    | '-' :: r => (dropHyphens? ns r).map (s.take n ++ ·)
    | _ => none

private def ofDigits? (s : List Char) : Option Uuid :=
  if s.length = 32 then (ofHex? 0 s).map fun n => ⟨BitVec.ofNat 128 n⟩ else none

/-- Reads an identifier in any of its forms. -/
def ofText? (s : String) : Option Uuid :=
  let cs := s.toList
  let grouped (t : List Char) : Option Uuid := (dropHyphens? groups t).bind ofDigits?
  match cs.length with
  | 32 => ofDigits? cs
  | 36 => grouped cs
  | 38 => if cs.head? = some '\x7b' ∧ cs.getLast? = some '\x7d' then grouped (cs.drop 1).dropLast else none
  | 45 => if (cs.take 9).map Char.toLower = "urn:uuid:".toList then grouped (cs.drop 9) else none
  | _ => none

end Uuid

end SqlFilter
