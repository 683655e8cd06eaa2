import AlertRelay.Time.Calendar

/-!
# Days and dates

Every day belongs to one year, and within it to one day of one month. So the date of a day exists,
and its number is the day again. A guess from the average length of a year names the year of a day
or one of its two neighbours, since leap days move the beginning of a year by less than two days
from where years of that length would put it.

## Main results

* `Calendar.daysBeforeYear_lt` — later years begin later
* `Calendar.daysBeforeYear_le_day`, `Calendar.day_lt_daysBeforeYear` — a day lies in its year
* `Calendar.valid_dateOfDay` — the date of a day exists
* `Calendar.dayNumber_dateOfDay` — it is the date of that day
-/

namespace AlertRelay.Calendar

/-! ## Years -/

theorem daysBeforeYear_lt {year later : Int} (h : year < later) :
    daysBeforeYear year < daysBeforeYear later := by
  simp only [daysBeforeYear]
  omega

/-- The beginnings of years tell the years apart. -/
theorem year_lt_of_daysBeforeYear_lt {year later : Int}
    (h : daysBeforeYear year < daysBeforeYear later) : year < later := by
  rcases Int.lt_trichotomy year later with before | rfl | after
  · exact before
  · exact absurd h (Int.lt_irrefl _)
  · exact absurd (daysBeforeYear_lt after) (Int.lt_asymm h)

/-- The guess is at most one year late and at most one year early. -/
theorem day_near_guess (n : Int) :
    daysBeforeYear (n * 400 / 146097 - 1) ≤ n ∧ n < daysBeforeYear (n * 400 / 146097 + 2) := by
  simp only [daysBeforeYear]
  omega

theorem daysBeforeYear_le_day (n : Int) : daysBeforeYear (yearOfDay n) ≤ n := by
  have near := (day_near_guess n).1
  simp only [yearOfDay]
  split
  case isTrue => exact near
  case isFalse notBefore =>
    split
    case isTrue reached => exact reached
    case isFalse => exact Int.not_lt.mp notBefore

theorem day_lt_daysBeforeYear (n : Int) : n < daysBeforeYear (yearOfDay n + 1) := by
  have near := (day_near_guess n).2
  simp only [yearOfDay]
  split
  case isTrue before => rwa [Int.sub_add_cancel]
  case isFalse =>
    split
    case isTrue => rwa [Int.add_assoc]
    case isFalse notReached => exact Int.not_le.mp notReached

/-- The place of a day in its year. -/
def placeInYear (n : Int) : Nat := (n - daysBeforeYear (yearOfDay n)).toNat

theorem daysBeforeYear_add_placeInYear (n : Int) :
    daysBeforeYear (yearOfDay n) + placeInYear n = n := by
  have began := daysBeforeYear_le_day n
  rw [placeInYear]
  omega

/-! ## Months -/

/-- The days of some months. -/
def totalDays (lengths : List Nat) : Nat := lengths.foldr Nat.add 0

theorem totalDays_cons (length : Nat) (lengths : List Nat) :
    totalDays (length :: lengths) = length + totalDays lengths := rfl

theorem totalDays_monthLengths (leap : Bool) :
    totalDays (monthLengths leap) = if leap then 366 else 365 := by
  cases leap <;> decide

/-- A year has as many days as its months have. -/
theorem placeInYear_lt (n : Int) :
    placeInYear n < totalDays (monthLengths (isLeap (yearOfDay n))) := by
  have ended := day_lt_daysBeforeYear n
  have placed := daysBeforeYear_add_placeInYear n
  rw [daysBeforeYear_succ] at ended
  rw [totalDays_monthLengths]
  by_cases leap : isLeap (yearOfDay n) = true
  · rw [if_pos leap] at ended ⊢
    omega
  · rw [if_neg leap] at ended ⊢
    omega

/-- A day lies in a month, after the months before it. -/
theorem monthOfDay_eq {lengths : List Nat} {n : Nat} (month : Nat) (within : n < totalDays lengths) :
    ∃ k < lengths.length, ∃ d < lengths.getD k 0,
      monthOfDay lengths month n = (month + k, d + 1) ∧ totalDays (lengths.take k) + d = n := by
  induction lengths generalizing month n with
  | nil => exact absurd within (Nat.not_lt_zero n)
  | cons length lengths ih =>
    rw [monthOfDay]
    by_cases here : n < length
    · exact ⟨0, Nat.zero_lt_succ _, n, here, if_pos here, Nat.zero_add n⟩
    · rw [totalDays_cons] at within
      obtain ⟨k, among, d, inMonth, found, placed⟩ :=
        ih (n := n - length) (month + 1) (by omega)
      refine ⟨k + 1, Nat.succ_lt_succ among, d, inMonth, ?_, ?_⟩
      · rw [if_neg here, found, Nat.add_assoc, Nat.add_comm 1 k]
      · rw [List.take_succ_cons, totalDays_cons]
        omega

/-! ## Dates -/

/-- The date of a day is a day of a month of its year. -/
theorem dateOfDay_eq (n : Int) :
    ∃ k < 12, ∃ d < (monthLengths (isLeap (yearOfDay n))).getD k 0,
      dateOfDay n = ⟨yearOfDay n, k + 1, d + 1⟩ ∧
        totalDays ((monthLengths (isLeap (yearOfDay n))).take k) + d = placeInYear n := by
  obtain ⟨k, among, d, inMonth, found, placed⟩ := monthOfDay_eq 1 (placeInYear_lt n)
  refine ⟨k, among, d, inMonth, ?_, placed⟩
  rw [placeInYear] at found
  simp only [dateOfDay, found, Nat.add_comm 1 k]

/-- The date of a day exists. -/
theorem valid_dateOfDay (n : Int) : (dateOfDay n).valid = true := by
  obtain ⟨k, among, d, inMonth, found, -⟩ := dateOfDay_eq n
  rw [found]
  simp only [Date.valid, Bool.and_eq_true, decide_eq_true_eq, Nat.add_sub_cancel]
  exact ⟨⟨⟨by omega, by omega⟩, by omega⟩, inMonth⟩

/-- The date of a day is the date of no other. -/
theorem dayNumber_dateOfDay (n : Int) : dayNumber (dateOfDay n) = n := by
  obtain ⟨k, -, d, -, found, placed⟩ := dateOfDay_eq n
  have months : daysBeforeMonth (isLeap (yearOfDay n)) (k + 1) =
      totalDays ((monthLengths (isLeap (yearOfDay n))).take k) := rfl
  have year := daysBeforeYear_add_placeInYear n
  rw [found, dayNumber, months]
  push_cast
  omega

/-- Months are counted to twelve. -/
theorem Date.month_of_valid {d : Date} (valid : d.valid = true) : 1 ≤ d.month ∧ d.month ≤ 12 := by
  simp only [Date.valid, Bool.and_eq_true, decide_eq_true_eq] at valid
  exact valid.1.1

/-- No month has more than 31 days. -/
theorem Date.day_of_valid {d : Date} (valid : d.valid = true) : 1 ≤ d.day ∧ d.day ≤ 31 := by
  have longest (leap : Bool) (k : Nat) : (monthLengths leap).getD k 0 ≤ 31 := by
    by_cases among : k < 12
    · have all : ∀ leap, ∀ k < 12, (monthLengths leap).getD k 0 ≤ 31 := by decide
      exact all leap k among
    · have none : (monthLengths leap)[k]? = none := List.getElem?_eq_none (Nat.not_lt.mp among)
      simp [List.getD_eq_getElem?_getD, none]
  simp only [Date.valid, Bool.and_eq_true, decide_eq_true_eq] at valid
  exact ⟨valid.1.2, Nat.le_trans valid.2 (longest _ _)⟩

end AlertRelay.Calendar
