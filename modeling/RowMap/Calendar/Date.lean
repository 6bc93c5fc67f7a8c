/-!
# Calendar dates

A date is its day number, counted from 1970-01-01 in the proleptic Gregorian calendar. Years run
from -262143 to 262142.
-/

namespace RowMap.Calendar

/-- The day number of 1 January -262143. -/
def firstDay : Int := -96465292

/-- The day number of 31 December 262142. -/
def lastDay : Int := 95026236

structure Date where
  /-- Days since 1970-01-01. -/
  day : Int
  inRange : firstDay ≤ day ∧ day ≤ lastDay
deriving DecidableEq

namespace Date

/-- The date of a day number, if the calendar reaches it. -/
def ofDay? (day : Int) : Option Date :=
  if h : firstDay ≤ day ∧ day ≤ lastDay then some ⟨day, h⟩ else none

/-- 1970-01-01. -/
def epoch : Date := ⟨0, by decide⟩

/-- The date `days` later. -/
def plus (d : Date) (days : Int) : Option Date := ofDay? (d.day + days)

end Date

/-! ## Years, months and days -/

/-- A date as it is written. -/
structure Civil where
  year : Int
  month : Nat
  day : Nat
deriving DecidableEq, Repr

def isLeapYear (y : Int) : Bool := y % 4 = 0 && (y % 100 ≠ 0 || y % 400 = 0)

def monthLength (y : Int) : Nat → Nat
  | 2 => if isLeapYear y then 29 else 28
  | 4 | 6 | 9 | 11 => 30
  | _ => 31

/-- The day number of a civil date. Years start in March here, so that a leap day ends its year;
400 of them have 146097 days. -/
def Civil.dayNumber (c : Civil) : Int :=
  let y := if c.month ≤ 2 then c.year - 1 else c.year
  let m : Int := if c.month ≤ 2 then c.month + 9 else c.month - 3
  let yearOfEra := y % 400
  let dayOfYear := (153 * m + 2) / 5 + c.day - 1
  y / 400 * 146097 + yearOfEra * 365 + yearOfEra / 4 - yearOfEra / 100 + dayOfYear - 719468

/-- The civil date of a day number. -/
def Civil.ofDayNumber (day : Int) : Civil :=
  let z := day + 719468
  let dayOfEra := z % 146097
  let yearOfEra := (dayOfEra - dayOfEra / 1460 + dayOfEra / 36524 - dayOfEra / 146096) / 365
  let dayOfYear := dayOfEra - (365 * yearOfEra + yearOfEra / 4 - yearOfEra / 100)
  let m := (5 * dayOfYear + 2) / 153
  let month := if m < 10 then m + 3 else m - 9
  { year := yearOfEra + z / 146097 * 400 + (if month ≤ 2 then 1 else 0)
    month := month.toNat
    day := (dayOfYear - (153 * m + 2) / 5 + 1).toNat }

def Date.civil (d : Date) : Civil := Civil.ofDayNumber d.day

/-- The date of a year, month and day that exist. -/
def Date.ofCivil? (year : Int) (month day : Nat) : Option Date :=
  if 1 ≤ month ∧ month ≤ 12 ∧ 1 ≤ day ∧ day ≤ monthLength year month then
    ofDay? (Civil.dayNumber ⟨year, month, day⟩)
  else none

end RowMap.Calendar
