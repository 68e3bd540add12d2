/-!
# Calendar dates

Dates of the proleptic Gregorian calendar from year 1 to year 9999, with their position in the
count of days and the week dates of ISO 8601.
-/

namespace OrgService

namespace Calendar

def isLeap (year : Nat) : Bool :=
  year % 4 == 0 && (year % 100 != 0 || year % 400 == 0)

def monthLengths (year : Nat) : List Nat :=
  [31, if isLeap year then 29 else 28, 31, 30, 31, 30, 31, 31, 30, 31, 30, 31]

def daysInMonth (year month : Nat) : Nat :=
  (monthLengths year).getD (month - 1) 0

def daysBeforeYear (year : Nat) : Nat :=
  (year - 1) * 365 + (year - 1) / 4 - (year - 1) / 100 + (year - 1) / 400

def daysBeforeMonth (year month : Nat) : Nat :=
  ((monthLengths year).take (month - 1)).foldl (· + ·) 0

/-- The month and day of a position in a list of month lengths, counted from zero; the first
month of the list has the number `month`. -/
def monthAndDay (month : Nat) : List Nat → Nat → Nat × Nat
  | [], n => (month, n + 1)
  | len :: rest, n => if n < len then (month, n + 1) else monthAndDay (month + 1) rest (n - len)

end Calendar

/-- A day of the calendar. -/
structure Date where
  year : Nat
  month : Nat
  day : Nat
  valid : 1 ≤ year ∧ year ≤ 9999 ∧ 1 ≤ month ∧ month ≤ 12 ∧ 1 ≤ day ∧
    day ≤ Calendar.daysInMonth year month
  deriving DecidableEq

namespace Date

open Calendar

instance : Repr Date := ⟨fun d _ ↦ repr (d.year, d.month, d.day)⟩

/-- The date with these parts, if there is one. -/
def ofParts? (year month day : Nat) : Option Date :=
  if h : 1 ≤ year ∧ year ≤ 9999 ∧ 1 ≤ month ∧ month ≤ 12 ∧ 1 ≤ day ∧ day ≤ daysInMonth year month
  then some ⟨year, month, day, h⟩ else none

/-- The number of a day; the first day of year 1 has number 1. -/
def ordinal (d : Date) : Nat :=
  daysBeforeYear d.year + daysBeforeMonth d.year d.month + d.day

def ofOrdinal? (n : Nat) : Option Date :=
  if n = 0 then none
  else
    let n := n - 1
    let n400 := n / 146097
    let n := n % 146097
    let n100 := n / 36524
    let n := n % 36524
    let n4 := n / 1461
    let n := n % 1461
    let n1 := n / 365
    let n := n % 365
    let year := n400 * 400 + n100 * 100 + n4 * 4 + n1 + 1
    if n1 = 4 ∨ n100 = 4 then ofParts? (year - 1) 12 31
    else
      let (month, day) := monthAndDay 1 (monthLengths year) n
      ofParts? year month day

def firstWeekday (year : Nat) : Nat := (daysBeforeYear year) % 7

def hasWeek (year week : Nat) : Bool :=
  (1 ≤ week && week ≤ 52) ||
    (week == 53 && (firstWeekday year == 3 || (firstWeekday year == 2 && isLeap year)))

def ofWeek? (year week day : Nat) : Option Date :=
  if 1 ≤ year ∧ year ≤ 9999 ∧ hasWeek year week ∧ 1 ≤ day ∧ day ≤ 7 then
    let weekday := firstWeekday year
    let monday : Int := (daysBeforeYear year : Int) + 1 - weekday + (if 3 < weekday then 7 else 0)
    ofOrdinal? (monday + (week - 1 : Nat) * 7 + (day - 1 : Nat)).toNat
  else none

end Date

end OrgService
