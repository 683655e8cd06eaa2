import AlertRelay.Proofs.Text.Digits
import AlertRelay.Proofs.Time.Calendar
import AlertRelay.Time.TimestampReader

/-!
# Timestamps read back

Every instant outside a leap second has a text that reads as the instant. The reader is lenient, so
each part of the text is followed by something that ends it: a number of fixed width by its width, a
signed year and a fraction by a character that is no digit.

## Main definitions

* `Instant.IsOrdinary` — an instant in range and outside a leap second

## Main results

* `Timestamp.year_yearText` — a year reads back, signed or not
* `Timestamp.fraction_fractionText` — so does a fraction of any precision
* `Timestamp.read_text` — and so does the whole instant
-/

namespace AlertRelay

/-- The instant lies in range and in no leap second. -/
structure Instant.IsOrdinary (t : Instant) : Prop where
  inRange : Instant.inRange t.seconds = true
  nanos_lt : t.nanos < 1_000_000_000

namespace Timestamp

open Text

/-! ## Numbers -/

variable {width : Option Nat} {ds rest : List Char}

/-- The digits that a number of some width takes from a text. -/
def taken (width : Option Nat) (cs : List Char) : List Char :=
  match width with
  | some w => (cs.takeWhile Char.isDigit).take w
  | none => cs.takeWhile Char.isDigit

theorem number_eq (width : Option Nat) (cs : List Char) :
    number width cs =
      if cs.isEmpty then .error .tooShort
      else if (taken width cs).isEmpty then .error .invalid
      else if 0x8000_0000_0000_0000 ≤ digitsValue (taken width cs) then .error .outOfRange
      else .ok (digitsValue (taken width cs), cs.drop (taken width cs).length) := by
  cases width <;> rfl

/-- A number is read from the digits that it takes. -/
theorem number_of_taken (cut : taken width (ds ++ rest) = ds) (nonempty : ds ≠ [])
    (small : digitsValue ds < 0x8000_0000_0000_0000) :
    number width (ds ++ rest) = .ok (digitsValue ds, rest) := by
  have text : ¬ (ds ++ rest).isEmpty = true := by simp [nonempty]
  have digits : ¬ ds.isEmpty = true := by simp [nonempty]
  rw [number_eq, cut, if_neg text, if_neg digits, if_neg (Nat.not_le.mpr small), List.drop_left]

theorem takeWhile_digits (all : ∀ c ∈ ds, c.isDigit = true) :
    (ds ++ rest).takeWhile Char.isDigit = ds ++ rest.takeWhile Char.isDigit :=
  List.takeWhile_append_of_pos all

/-- A padded number that has the width of the reader is read off any text. -/
theorem number_padded {w n : Nat} (positive : 0 < w) (fits : n < Nat.pow 10 w)
    (small : n < 0x8000_0000_0000_0000) (rest : List Char) :
    number (some w) (padded w n ++ rest) = .ok (n, rest) := by
  have cut : taken (some w) (padded w n ++ rest) = padded w n := by
    rw [taken, takeWhile_digits fun _ => isDigit_of_mem_padded]
    have exact_width : (padded w n ++ rest.takeWhile Char.isDigit).take (padded w n).length =
        padded w n :=
      List.take_left
    rwa [length_padded positive fits] at exact_width
  rw [number_of_taken cut padded_ne_nil (by rwa [digitsValue_padded]), digitsValue_padded]

/-- A padded number is read off a text that goes on with no digit, if it is not too long. -/
theorem number_padded_of_end {w n : Nat} (short : ∀ v ∈ width, (padded w n).length ≤ v)
    (small : n < 0x8000_0000_0000_0000) (ended : rest.takeWhile Char.isDigit = []) :
    number width (padded w n ++ rest) = .ok (n, rest) := by
  have run : (padded w n ++ rest).takeWhile Char.isDigit = padded w n := by
    rw [takeWhile_digits fun _ => isDigit_of_mem_padded, ended, List.append_nil]
  have cut : taken width (padded w n ++ rest) = padded w n := by
    cases width with
    | none => exact run
    | some v =>
      rw [taken, run]
      exact List.take_of_length_le (short v rfl)
  rw [number_of_taken cut padded_ne_nil (by rwa [digitsValue_padded]), digitsValue_padded]

/-- Two digits between the bounds are read as a number. -/
theorem bounded_padded {low high n : Nat} (above : low ≤ n) (below : n ≤ high) (fits : n < 100)
    (rest : List Char) : bounded low high (padded 2 n ++ rest) = .ok (n, rest) := by
  rw [bounded, trimStart_padded, number_padded (by decide) fits (by omega)]
  exact if_pos ⟨above, below⟩

theorem expect_cons {c : Char} (visible : isBlank c = false) (rest : List Char) :
    expect c (c :: rest) = .ok rest := by
  rw [expect, trimStart_cons visible]
  exact if_pos rfl

/-! ## Years -/

/-- A text that starts with a digit has no sign. -/
theorem not_sign_of_padded {w n : Nat} {c : Char} {r : List Char}
    (shown : padded w n ++ rest = c :: r) : c ≠ '-' ∧ c ≠ '+' := by
  have digit : c.isDigit = true := by
    cases number : padded w n with
    | nil => exact absurd number padded_ne_nil
    | cons d ds =>
      rw [number, List.cons_append] at shown
      obtain ⟨rfl, -⟩ := List.cons.inj shown
      exact isDigit_of_mem_padded (number ▸ List.mem_cons_self)
  constructor <;> rintro rfl <;> exact absurd digit (by decide)

/-- A year is read up to the dash that follows it. -/
theorem year_yearText {y : Int} (low : -0x8000_0000 ≤ y) (high : y < 0x8000_0000)
    (rest : List Char) : year (yearText y ++ '-' :: rest) = .ok (y, '-' :: rest) := by
  -- a signed year has any number of digits, and the dash is none
  have signed : number none (padded 4 y.natAbs ++ '-' :: rest) = .ok (y.natAbs, '-' :: rest) :=
    number_padded_of_end nofun (by omega) rfl
  rw [yearText]
  by_cases plain : 0 ≤ y ∧ y ≤ 9999
  · have four : number (some 4) (padded 4 y.toNat ++ '-' :: rest) = .ok (y.toNat, '-' :: rest) :=
      number_padded (by decide) (by simp; omega) (by omega) _
    have same : (y.toNat : Int) = y := Int.toNat_of_nonneg plain.1
    rw [if_pos plain, year, trimStart_padded]
    split
    case h_1 shown => exact absurd rfl (not_sign_of_padded shown).1
    case h_2 shown => exact absurd rfl (not_sign_of_padded shown).2
    case h_3 => simp [four, bind, Except.bind, same, low, high]
  · rw [if_neg plain, List.cons_append]
    by_cases negative : y < 0
    · have same : -(y.natAbs : Int) = y := by omega
      rw [if_pos negative, year, trimStart_cons (by rfl)]
      simp only [Char.isValue, bind, Except.bind, signed, Int.reduceNeg, same, low, high, and_self,
        reduceIte]
    · have same : (y.natAbs : Int) = y := by omega
      rw [if_neg negative, year, trimStart_cons (by rfl)]
      simp only [Char.isValue, bind, Except.bind, signed, Int.reduceNeg, same, low, high, and_self,
        reduceIte]

/-! ## Fractions -/

/-- The digits of a fraction up to the letter that follows them, at most nine. -/
theorem fraction_padded {w n : Nat} (positive : 0 < w) (within : w ≤ 9) (fits : n < Nat.pow 10 w) :
    fraction ('.' :: padded w n ++ ['Z']) = .ok (n * Nat.pow 10 (9 - w), ['Z']) := by
  have length := length_padded positive fits
  have small : n < 0x8000_0000_0000_0000 := by
    have power : Nat.pow 10 w ≤ Nat.pow 10 9 := Nat.pow_le_pow_right (by decide) within
    have nine : Nat.pow 10 9 = 1_000_000_000 := rfl
    omega
  have read : number (some 9) (padded w n ++ ['Z']) = .ok (n, ['Z']) :=
    number_padded_of_end (by simp [length, within]) small rfl
  rw [List.cons_append, fraction]
  simp [read, bind, Except.bind, length]

/-- A fraction is read up to the letter that follows it, whatever its precision. -/
theorem fraction_fractionText {n : Nat} (below : n < 1_000_000_000) :
    fraction (fractionText n ++ ['Z']) = .ok (n, ['Z']) := by
  rw [fractionText]
  by_cases zero : n = 0
  · rw [if_pos zero, zero]
    rfl
  rw [if_neg zero]
  by_cases millis : n % 1_000_000 = 0
  · have fits : n / 1_000_000 < Nat.pow 10 3 := by simp; omega
    have whole : n / 1_000_000 * Nat.pow 10 (9 - 3) = n :=
      Nat.div_mul_cancel (Nat.dvd_of_mod_eq_zero millis)
    rw [if_pos millis, fraction_padded (by decide) (by decide) fits, whole]
  rw [if_neg millis]
  by_cases micros : n % 1000 = 0
  · have fits : n / 1000 < Nat.pow 10 6 := by simp; omega
    have whole : n / 1000 * Nat.pow 10 (9 - 6) = n :=
      Nat.div_mul_cancel (Nat.dvd_of_mod_eq_zero micros)
    rw [if_pos micros, fraction_padded (by decide) (by decide) fits, whole]
  · rw [if_neg micros, fraction_padded (by decide) (by decide) below]
    exact congrArg (fun m => Except.ok (m, ['Z'])) (Nat.mul_one n)

/-! ## Instants -/

/-- The days in range lie in the years in range. -/
theorem yearInRange_yearOfDay {seconds : Int} (range : Instant.inRange seconds = true) :
    yearInRange (Calendar.yearOfDay (seconds / 86400 + Calendar.epochDay)) = true := by
  rw [Instant.inRange_iff, Instant.minSeconds, Instant.maxSeconds] at range
  have epoch : Calendar.epochDay = 719528 := rfl
  have first : Calendar.daysBeforeYear (-262143) = -95745764 := by decide
  have last : Calendar.daysBeforeYear 262143 = 95745765 := by decide
  have began := Calendar.daysBeforeYear_le_day (seconds / 86400 + Calendar.epochDay)
  have ended := Calendar.day_lt_daysBeforeYear (seconds / 86400 + Calendar.epochDay)
  have low : -262143 < Calendar.yearOfDay (seconds / 86400 + Calendar.epochDay) + 1 :=
    Calendar.year_lt_of_daysBeforeYear_lt (by omega)
  have high : Calendar.yearOfDay (seconds / 86400 + Calendar.epochDay) < 262143 :=
    Calendar.year_lt_of_daysBeforeYear_lt (by omega)
  simp only [yearInRange, Bool.and_eq_true, decide_eq_true_eq]
  omega

/-- The seconds of an instant are those of its day and of its time of day. -/
theorem seconds_civil (t : Instant) :
    (Calendar.dayNumber (civil t).date - Calendar.epochDay) * 86400 + (civil t).hour * 3600 +
      (civil t).minute * 60 + (civil t).second - 0 = t.seconds := by
  simp only [civil, Calendar.dayNumber_dateOfDay]
  omega

/-- The instant is put together from its parts. -/
theorem assemble_civil {t : Instant} (ordinary : t.IsOrdinary) :
    assemble (civil t).date (civil t).hour (civil t).minute (civil t).second (civil t).nanos 0 =
      .ok t := by
  have valid : (civil t).date.valid = true := Calendar.valid_dateOfDay _
  have years : yearInRange (civil t).date.year = true := yearInRange_yearOfDay ordinary.inRange
  have below : (civil t).second < 60 := by
    simp only [civil]
    omega
  have unleaped : ¬ (civil t).second = 60 := by omega
  simp only [assemble, valid, years, unleaped, if_false, seconds_civil]
  simp [ordinary.inRange]
  rfl

/-- The parts of an instant are read off their text. -/
theorem readChars_chars {t : Instant} (ordinary : t.IsOrdinary) :
    readChars (civil t).chars = .ok t := by
  have unleaped : ¬ 1_000_000_000 ≤ (civil t).nanos := Nat.not_le.mpr ordinary.nanos_lt
  have valid : (civil t).date.valid = true := Calendar.valid_dateOfDay _
  have month := Calendar.Date.month_of_valid valid
  have day := Calendar.Date.day_of_valid valid
  have years := yearInRange_yearOfDay ordinary.inRange
  simp only [yearInRange, Bool.and_eq_true, decide_eq_true_eq] at years
  have hour : (civil t).hour ≤ 23 := by simp only [civil]; omega
  have minute : (civil t).minute ≤ 59 := by simp only [civil]; omega
  have second : (civil t).second ≤ 60 := by simp only [civil]; omega
  have year (rest : List Char) :
      Timestamp.year (yearText (civil t).date.year ++ '-' :: rest) =
        .ok ((civil t).date.year, '-' :: rest) :=
    year_yearText (show _ ≤ Calendar.yearOfDay _ by omega)
      (show Calendar.yearOfDay _ < _ by omega) rest
  have dash (rest : List Char) : expect '-' ('-' :: rest) = .ok rest := expect_cons rfl rest
  have colon (rest : List Char) : expect ':' (':' :: rest) = .ok rest := expect_cons rfl rest
  have fraction := fraction_fractionText (n := (civil t).nanos) ordinary.nanos_lt
  have utc : offset ['Z'] = .ok (0, []) := rfl
  have ended : (trimStart []).isEmpty = true := rfl
  simp only [Civil.chars, unleaped, if_false, List.append_assoc, List.cons_append, readChars, bind,
    Except.bind, year, dash, colon, fraction, utc, ended, true_or, if_true,
    bounded_padded month.1 month.2 (by omega), bounded_padded day.1 day.2 (by omega),
    bounded_padded (Nat.zero_le _) hour (by omega), bounded_padded (Nat.zero_le _) minute (by omega),
    bounded_padded (Nat.zero_le _) second (by omega)]
  exact assemble_civil ordinary

/-- Every instant outside a leap second reads back from its text. -/
theorem read_text {t : Instant} (ordinary : t.IsOrdinary) : read (text t) = .ok t := by
  rw [read, text, String.toList_ofList, readChars_chars ordinary]

end Timestamp

end AlertRelay
