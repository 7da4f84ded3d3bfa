import SqlFilter.Number.Order
import SqlFilter.Text.Blank
import SqlFilter.Text.Digits

/-!
# Dates

A date is a number of days from 1 January 2000, which is how dates are ordered and sent.  Year, month and day are those
of the Gregorian calendar, continued in both directions; a year is counted from March, so that the day that leap years
add comes last.
-/

namespace SqlFilter

open Text

/-- A day named by year, month and day of the month. -/
structure CivilDay where
  year : Int
  month : Nat
  day : Nat
deriving DecidableEq, Repr

namespace CivilDay

/-- The year has a 29 February. -/
def isLeapYear (y : Int) : Bool := y % 4 = 0 && (y % 100 ≠ 0 || y % 400 = 0)

/-- The number of days of a month. -/
def daysInMonth (y : Int) (m : Nat) : Nat :=
  if m = 2 then if isLeapYear y then 29 else 28
  else if m = 4 || m = 6 || m = 9 || m = 11 then 30
  else 31

/-- The calendar has such a day. -/
def isOnCalendar (c : CivilDay) : Bool :=
  1 ≤ c.month && c.month ≤ 12 && 1 ≤ c.day && c.day ≤ daysInMonth c.year c.month

/-- The days from 1 January 2000. -/
def toDay (c : CivilDay) : Int :=
  let y := if c.month ≤ 2 then c.year - 1 else c.year
  let m : Int := if c.month ≤ 2 then c.month + 9 else c.month - 3
  365 * y + y / 4 - y / 100 + y / 400 + (153 * m + 2) / 5 + c.day - 730426

/-- The day that lies a number of days after 1 January 2000. -/
def ofDay (n : Int) : CivilDay :=
  let z := n + 730425
  let era := z / 146097
  let dayOfEra := z % 146097
  let yearOfEra := (dayOfEra - dayOfEra / 1460 + dayOfEra / 36524 - dayOfEra / 146096) / 365
  let dayOfYear := dayOfEra - (365 * yearOfEra + yearOfEra / 4 - yearOfEra / 100)
  let m := (5 * dayOfYear + 2) / 153
  let month := if m < 10 then m + 3 else m - 9
  { year := yearOfEra + era * 400 + (if month ≤ 2 then 1 else 0)
    month := month.toNat
    day := (dayOfYear - (153 * m + 2) / 5 + 1).toNat }

/-- The text `YYYY-MM-DD`; a year outside 0 to 9999 has a sign. -/
def text (c : CivilDay) : List Char :=
  let sign := if c.year < 0 then ['-'] else if 9999 < c.year then ['+'] else []
  sign ++ decimalPadded 4 c.year.natAbs ++ '-' :: decimalPadded 2 c.month ++ '-' :: decimalPadded 2 c.day

/-- Reads a year: one to four digits, or any number of digits after a sign. -/
private def readYear? (s : List Char) : Option (Int × List Char) :=
  match s with
  | '-' :: r => (readDigits? r.length r).map fun (ds, t) => (-(ofDecimal ds : Int), t)
  | '+' :: r => (readDigits? r.length r).map fun (ds, t) => ((ofDecimal ds : Int), t)
  | _ => (readDigits? 4 s).map fun (ds, t) => ((ofDecimal ds : Int), t)

/-- Reads a number of one or two digits after blanks. -/
def readField? (s : List Char) : Option (Nat × List Char) :=
  (readDigits? 2 (dropBlanks s)).map fun (ds, t) => (ofDecimal ds, t)

def readMark? (mark : Char) (s : List Char) : Option (List Char) :=
  match dropBlanks s with
  | c :: r => if c = mark then some r else none
  | [] => none

/-- Reads a day of the calendar from the front of a text.  Blanks may stand before numbers and marks. -/
def read? (s : List Char) : Option (CivilDay × List Char) := do
  let (y, s) ← readYear? (dropBlanks s)
  let (m, s) ← readField? (← readMark? '-' s)
  let (d, s) ← readField? (← readMark? '-' s)
  let c : CivilDay := ⟨y, m, d⟩
  if c.isOnCalendar then some (c, s) else none

end CivilDay

/-- A date, as its distance in days from 1 January 2000. -/
structure Date where
  day : Int
  least_le : -96476249 ≤ day
  le_greatest : day ≤ 95015279
deriving DecidableEq, Repr

namespace Date

/-- The date at a distance from 1 January 2000, for the years -262143 to 262142. -/
def ofDay? (n : Int) : Option Date :=
  if h : -96476249 ≤ n ∧ n ≤ 95015279 then some ⟨n, h.1, h.2⟩ else none

instance : PartialCompare Date := ⟨PartialCompare.on Date.day⟩

def text (d : Date) : String := String.ofList (CivilDay.ofDay d.day).text

/-- Reads a date that takes up the whole text. -/
def ofText? (s : String) : Option Date := do
  let (c, r) ← CivilDay.read? s.toList
  if (dropBlanks r).isEmpty then ofDay? c.toDay else none

end Date

end SqlFilter
