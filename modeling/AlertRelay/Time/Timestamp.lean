import AlertRelay.Text.Digits
import AlertRelay.Time.Calendar
import AlertRelay.Time.Instant

/-!
# Timestamps

The text of an instant: date and time of day in UTC, closed by `Z`. Years from 0 to 9999 have four
digits, others a sign and at least four. The fraction is absent when it is zero and otherwise the
shortest of three, six or nine digits that is exact. A point within a leap second is written as
second 60.

## Main definitions

* `Timestamp.Civil` — an instant taken apart
* `Timestamp.civil` — the parts of an instant
* `Timestamp.text` — the text of an instant
-/

namespace AlertRelay.Timestamp

/-- Date, time of day and nanoseconds of an instant in UTC. -/
structure Civil where
  date : Calendar.Date
  hour : Nat
  minute : Nat
  second : Nat
  nanos : Nat
  deriving DecidableEq, Repr

/-- The instant taken apart. -/
def civil (t : Instant) : Civil :=
  let ofDay := (t.seconds % 86400).toNat
  { date := Calendar.dateOfDay (t.seconds / 86400 + Calendar.epochDay)
    hour := ofDay / 3600
    minute := ofDay / 60 % 60
    second := ofDay % 60
    nanos := t.nanos }

/-- The year with four digits, or signed with at least four. -/
def yearText (year : Int) : List Char :=
  if 0 ≤ year ∧ year ≤ 9999 then Text.padded 4 year.toNat
  else (if year < 0 then '-' else '+') :: Text.padded 4 year.natAbs

/-- The fraction of a second with its point. -/
def fractionText (nanos : Nat) : List Char :=
  if nanos = 0 then []
  else if nanos % 1_000_000 = 0 then '.' :: Text.padded 3 (nanos / 1_000_000)
  else if nanos % 1000 = 0 then '.' :: Text.padded 6 (nanos / 1000)
  else '.' :: Text.padded 9 nanos

/-- The parts as text. -/
def Civil.chars (c : Civil) : List Char :=
  let leap := 1_000_000_000 ≤ c.nanos
  let second := if leap then c.second + 1 else c.second
  let nanos := if leap then c.nanos - 1_000_000_000 else c.nanos
  yearText c.date.year ++ '-' :: Text.padded 2 c.date.month ++ '-' :: Text.padded 2 c.date.day ++
    'T' :: Text.padded 2 c.hour ++ ':' :: Text.padded 2 c.minute ++ ':' :: Text.padded 2 second ++
    fractionText nanos ++ ['Z']

/-- The text of an instant. -/
def text (t : Instant) : String := String.ofList (civil t).chars

end AlertRelay.Timestamp
