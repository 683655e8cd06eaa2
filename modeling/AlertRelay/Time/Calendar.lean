/-!
# The calendar

Days of the proleptic Gregorian calendar, counted from 0000-01-01.

## Main definitions

* `Calendar.isLeap` — the leap years
* `Calendar.daysBeforeYear` — the days before the first of January
* `Calendar.monthLengths` — the days of each month
* `Calendar.Date` — year, month and day
* `Calendar.Date.valid` — the date exists
* `Calendar.dayNumber` / `Calendar.dateOfDay` — a date as a day count and back
-/

namespace AlertRelay.Calendar

/-- Every fourth year but no full century, except every fourth century. -/
def isLeap (year : Int) : Bool := year % 4 == 0 && (year % 100 != 0 || year % 400 == 0)

/-- Days from 0000-01-01 to the first of January of the year. -/
def daysBeforeYear (year : Int) : Int :=
  365 * year + (year + 3) / 4 - (year + 99) / 100 + (year + 399) / 400

/-- Days of the months. -/
def monthLengths (leap : Bool) : List Nat :=
  [31, if leap then 29 else 28, 31, 30, 31, 30, 31, 31, 30, 31, 30, 31]

/-- A calendar date; months and days count from one. -/
structure Date where
  year : Int
  month : Nat
  day : Nat
  deriving DecidableEq, Repr

/-- The day exists in the month, and the month in the year. -/
def Date.valid (d : Date) : Bool :=
  1 ≤ d.month && d.month ≤ 12 && 1 ≤ d.day &&
    d.day ≤ (monthLengths (isLeap d.year)).getD (d.month - 1) 0

/-- Days of the year before the month. -/
def daysBeforeMonth (leap : Bool) (month : Nat) : Nat :=
  ((monthLengths leap).take (month - 1)).foldr Nat.add 0

/-- Days from 0000-01-01 to the date. -/
def dayNumber (d : Date) : Int :=
  daysBeforeYear d.year + daysBeforeMonth (isLeap d.year) d.month + d.day - 1

/-- The year that a day belongs to: the average length of a year gives it up to one. -/
def yearOfDay (n : Int) : Int :=
  -- 400 years have 146097 days
  let guess := n * 400 / 146097
  if n < daysBeforeYear guess then guess - 1
  else if daysBeforeYear (guess + 1) ≤ n then guess + 1
  else guess

/-- Month and day of the `n`-th day of a year, over the months from `month` on. -/
def monthOfDay : List Nat → Nat → Nat → Nat × Nat
  | [], month, n => (month, n + 1)
  | len :: rest, month, n =>
    if n < len then (month, n + 1) else monthOfDay rest (month + 1) (n - len)

/-- The date of a day counted from 0000-01-01. -/
def dateOfDay (n : Int) : Date :=
  let year := yearOfDay n
  let (month, day) := monthOfDay (monthLengths (isLeap year)) 1 (n - daysBeforeYear year).toNat
  ⟨year, month, day⟩

/-- Days from 0000-01-01 to 1970-01-01. -/
def epochDay : Int := 719528

theorem epochDay_eq : epochDay = dayNumber ⟨1970, 1, 1⟩ := by decide

theorem daysBeforeYear_succ (year : Int) :
    daysBeforeYear (year + 1) = daysBeforeYear year + if isLeap year then 366 else 365 := by
  simp only [daysBeforeYear, isLeap, Bool.and_eq_true, Bool.or_eq_true, beq_iff_eq, bne_iff_ne]
  split <;> omega

end AlertRelay.Calendar
