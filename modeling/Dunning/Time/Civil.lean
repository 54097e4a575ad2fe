/-!
# Calendar dates

Days are counted from 1970-01-01 in the proleptic Gregorian calendar, with a year zero. Years start
in March for the computation, so that the leap day is the last day of a year.

## Main definitions

* `Civil` — a date by year, month and day.
* `Civil.toDays` — the day number of a date.
* `Civil.ofDays` — the date of a day number.
* `Civil.valid` — whether the calendar has a date.
-/

namespace Dunning

/-- A date. -/
structure Civil where
  year : Int
  month : Nat
  day : Nat
  deriving Repr, DecidableEq

namespace Civil

/-- Whether a year has a leap day. -/
def isLeap (year : Int) : Bool :=
  year % 4 == 0 && (year % 100 != 0 || year % 400 == 0)

/-- The number of days of a month. -/
def monthLength (year : Int) (month : Nat) : Nat :=
  match month with
  | 2 => if isLeap year then 29 else 28
  | 4 => 30
  | 6 => 30
  | 9 => 30
  | 11 => 30
  | _ => 31

/-- The first year of the calendar. -/
def firstYear : Int := -262143

/-- The last year of the calendar. -/
def lastYear : Int := 262142

/-- Whether the calendar has the year, the year the month and the month the day. -/
def valid (d : Civil) : Bool :=
  firstYear ≤ d.year && d.year ≤ lastYear && 1 ≤ d.month && d.month ≤ 12 && 1 ≤ d.day &&
    d.day ≤ monthLength d.year d.month

/-- The days from 1970-01-01 to a date. -/
def toDays (d : Civil) : Int :=
  let year := if d.month ≤ 2 then d.year - 1 else d.year
  let era := year / 400
  let yearOfEra := year % 400
  let shifted : Int := (((d.month + 9) % 12 : Nat) : Int)
  let dayOfYear : Int := (153 * shifted + 2) / 5 + d.day - 1
  let dayOfEra := yearOfEra * 365 + yearOfEra / 4 - yearOfEra / 100 + dayOfYear
  era * 146097 + dayOfEra - 719468

/-- The date a number of days after 1970-01-01. -/
def ofDays (days : Int) : Civil :=
  let shifted := days + 719468
  let era := shifted / 146097
  let dayOfEra := shifted % 146097
  let yearOfEra := (dayOfEra - dayOfEra / 1460 + dayOfEra / 36524 - dayOfEra / 146096) / 365
  let dayOfYear := dayOfEra - (365 * yearOfEra + yearOfEra / 4 - yearOfEra / 100)
  let monthIndex := (5 * dayOfYear + 2) / 153
  let day := dayOfYear - (153 * monthIndex + 2) / 5 + 1
  let month := if monthIndex < 10 then monthIndex + 3 else monthIndex - 9
  let year := yearOfEra + era * 400 + if month ≤ 2 then 1 else 0
  ⟨year, month.toNat, day.toNat⟩

example : (Civil.toDays ⟨1970, 1, 1⟩, Civil.toDays ⟨2000, 3, 1⟩) = (0, 11017) := by decide

example : Civil.ofDays (-96465292) = ⟨-262143, 1, 1⟩ := by decide

example : Civil.ofDays 95026236 = ⟨262142, 12, 31⟩ := by decide

end Civil

end Dunning
