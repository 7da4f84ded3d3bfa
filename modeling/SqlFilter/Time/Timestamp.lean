import SqlFilter.Time.Calendar

/-!
# Timestamps

A timestamp is a number of seconds from 2000-01-01T00:00:00 and a number of nanoseconds.  A leap second is the second
after a second 59 and counts as its second billion of nanoseconds.  The same type serves times without a zone and, kept
in UTC, times with one.
-/

namespace SqlFilter

open Text

/-- A point in time to the nanosecond. -/
structure Timestamp where
  second : Int
  nanosecond : Nat
  least_le : -96476249 * 86400 ≤ second
  lt_limit : second < 95015280 * 86400
  nanosecond_lt : nanosecond < 1000000000 ∨ (nanosecond < 2000000000 ∧ second % 60 = 59)
deriving DecidableEq, Repr

namespace Timestamp

/-- The timestamp with the given parts, if they are in range. -/
def ofParts? (second : Int) (nanosecond : Nat) : Option Timestamp :=
  if h : -96476249 * 86400 ≤ second ∧ second < 95015280 * 86400 ∧
      (nanosecond < 1000000000 ∨ (nanosecond < 2000000000 ∧ second % 60 = 59)) then
    some ⟨second, nanosecond, h.1, h.2.1, h.2.2⟩
  else none

instance : PartialCompare Timestamp :=
  ⟨fun a b => some ((compare a.second b.second).then (compare a.nanosecond b.nanosecond))⟩

/-- The whole microseconds from 2000-01-01T00:00:00, truncated toward zero. -/
def microseconds (t : Timestamp) : Int := Int.tdiv (t.second * 1000000000 + t.nanosecond) 1000

/-- The fewest of 0, 3, 6 and 9 digits that write a fraction of a second exactly. -/
private def fractionText (n : Nat) : List Char :=
  if n = 0 then []
  else if n % 1000000 = 0 then '.' :: decimalPadded 3 (n / 1000000)
  else if n % 1000 = 0 then '.' :: decimalPadded 6 (n / 1000)
  else '.' :: decimalPadded 9 n

/-- The text `YYYY-MM-DDTHH:MM:SS` and a fraction. -/
def text (t : Timestamp) : String :=
  let ofDay := (t.second % 86400).toNat
  let leap := t.nanosecond / 1000000000
  String.ofList ((CivilDay.ofDay (t.second / 86400)).text ++ 'T' :: decimalPadded 2 (ofDay / 3600) ++
    ':' :: decimalPadded 2 (ofDay / 60 % 60) ++ ':' :: decimalPadded 2 (ofDay % 60 + leap) ++
    fractionText (t.nanosecond % 1000000000))

/-- The text of a timestamp kept in UTC. -/
def textUtc (t : Timestamp) : String := t.text ++ "Z"

/-- Reads a fraction of a second; digits past the ninth are dropped. -/
private def readFraction? : List Char → Option (Nat × List Char)
  | '.' :: r => (readDigits? r.length r).map fun (ds, t) =>
    (ofDecimal (ds.take 9) * Nat.pow 10 (9 - ds.length), t)
  | s => some (0, s)

/-- Reads `HH:MM:SS` and a fraction: the second of the day and the nanosecond. -/
private def readClock? (s : List Char) : Option ((Nat × Nat) × List Char) := do
  let (h, s) ← CivilDay.readField? s
  let (m, s) ← CivilDay.readField? (← CivilDay.readMark? ':' s)
  let (sec, s) ← CivilDay.readField? (← CivilDay.readMark? ':' s)
  let (n, s) ← readFraction? s
  if h < 24 ∧ m < 60 ∧ sec ≤ 60 then
    let leap := sec / 60
    some ((h * 3600 + m * 60 + (sec - leap), n + leap * 1000000000), dropBlanks s)
  else none

/-- Reads the offset of a zone in seconds: `Z`, `UTC`, or a sign, hours and minutes. -/
private def readZone? (s : List Char) : Option (Int × List Char) :=
  match s with
  | 'Z' :: r | 'z' :: r => some (0, r)
  | c :: r =>
    if (s.take 3).map Char.toLower = ['u', 't', 'c'] then some (0, s.drop 3)
    else if c = '+' ∨ c = '-' ∨ c = '\u2212' then
      match r with
      | h₁ :: h₂ :: t =>
        match t.dropWhile (fun c => c = ':' || isBlankChar c) with
        | m₁ :: m₂ :: rest =>
          if [h₁, h₂, m₁, m₂].all Char.isDigit ∧ m₁ < '6' ∧ ofDecimal [h₁, h₂] < 24 then
            let offset : Int := ofDecimal [h₁, h₂] * 3600 + ofDecimal [m₁, m₂] * 60
            some (if c = '+' then offset else -offset, rest)
          else none
        | _ => none
      | _ => none
    else none
  | [] => none

/-- The timestamp of a day, a second of that day and a nanosecond, less an offset.  The day must be a date even where
the offset leads back into the range. -/
private def ofDayAndClock? (c : CivilDay) (clock : Nat × Nat) (offset : Int) : Option Timestamp := do
  let date ← Date.ofDay? c.toDay
  ofParts? (date.day * 86400 + clock.1 - offset) clock.2

/-- Reads a timestamp without a zone that takes up the whole text. -/
def ofText? (s : String) : Option Timestamp := do
  let (c, r) ← CivilDay.read? s.toList
  let (clock, r) ← readClock? (← CivilDay.readMark? 'T' r)
  if r.isEmpty then ofDayAndClock? c clock 0 else none

/-- Reads a timestamp with a zone that takes up the whole text; `t` and a blank may stand for `T`. -/
def ofZonedText? (s : String) : Option Timestamp := do
  let (c, r) ← CivilDay.read? s.toList
  match r with
  | mark :: r =>
    if mark = 'T' ∨ mark = 't' ∨ mark = ' ' then
      let (clock, r) ← readClock? r
      let (offset, r) ← readZone? r
      if (dropBlanks r).isEmpty then ofDayAndClock? c clock offset else none
    else none
  | [] => none

end Timestamp

end SqlFilter
