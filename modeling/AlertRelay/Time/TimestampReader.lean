import AlertRelay.Text.Blank
import AlertRelay.Text.Truncate
import AlertRelay.Time.Timestamp

/-!
# Reading timestamps

Timestamps are read leniently: numbers may have fewer digits than they are written with, blanks
may precede every part, the date and the time may be joined by `T`, `t` or a blank, digits of the
fraction beyond the ninth are dropped, and the offset from UTC is `Z`, `UTC` or hours and minutes
with any run of colons and blanks between them. The first thing that does not fit decides the
error.

## Main definitions

* `Timestamp.Problem` — why a text is no timestamp
* `Timestamp.read` — the instant that a text denotes
-/

namespace AlertRelay.Timestamp

/-- Why a text is no timestamp. -/
inductive Problem where
  | tooShort
  | invalid
  | outOfRange
  | trailing
  | impossible
  deriving DecidableEq, Repr

/-- The wording of a problem. -/
def Problem.message : Problem → String
  | .tooShort => "premature end of input"
  | .invalid => "input contains invalid characters"
  | .outOfRange => "input is out of range"
  | .trailing => "trailing input"
  | .impossible => "no possible date and time matching input"

/-- A number of at least one and at most `width` digits; none leaves the width open. -/
def number (width : Option Nat) (cs : List Char) : Except Problem (Nat × List Char) :=
  let run := cs.takeWhile Char.isDigit
  let ds := match width with
    | some w => run.take w
    | none => run
  let n := Text.digitsValue ds
  if cs.isEmpty then .error .tooShort
  else if ds.isEmpty then .error .invalid
  else if 0x8000_0000_0000_0000 ≤ n then .error .outOfRange
  else .ok (n, cs.drop ds.length)

/-- A number of at most two digits between the bounds, after blanks. -/
def bounded (low high : Nat) (cs : List Char) : Except Problem (Nat × List Char) := do
  let (n, r) ← number (some 2) (Text.trimStart cs)
  if low ≤ n ∧ n ≤ high then .ok (n, r) else .error .outOfRange

/-- A year, after blanks: four digits at most, or a sign and any number of them. -/
def year (cs : List Char) : Except Problem (Int × List Char) := do
  let fits (n : Int) (r : List Char) : Except Problem (Int × List Char) :=
    if -0x8000_0000 ≤ n ∧ n < 0x8000_0000 then .ok (n, r) else .error .outOfRange
  match Text.trimStart cs with
  | '-' :: r =>
    let (n, r) ← number none r
    fits (-(n : Int)) r
  | '+' :: r =>
    let (n, r) ← number none r
    fits n r
  | r =>
    let (n, r) ← number (some 4) r
    fits n r

/-- The given character, after blanks. -/
def expect (c : Char) (cs : List Char) : Except Problem (List Char) :=
  match Text.trimStart cs with
  | [] => .error .tooShort
  | d :: r => if d = c then .ok r else .error .invalid

/-- The nanoseconds of a fraction, absent when no point follows. -/
def fraction (cs : List Char) : Except Problem (Nat × List Char) :=
  match cs with
  | '.' :: r => do
    let (n, rest) ← number (some 9) r
    let places := r.length - rest.length
    .ok (n * Nat.pow 10 (9 - places), rest.dropWhile Char.isDigit)
  | r => .ok (0, r)

/-- Two digits, the first at most `top`; a greater first digit is out of range. -/
def twoDigits (top : Char) (cs : List Char) : Except Problem (Nat × List Char) :=
  match cs with
  | a :: b :: r =>
    if a.isDigit && b.isDigit then
      if a ≤ top then .ok (Text.digitsValue [a, b], r) else .error .outOfRange
    else .error .invalid
  | _ => if Text.byteSize cs < 2 then .error .tooShort else .error .invalid

/-- Hours and minutes of an offset, as seconds. -/
def hoursMinutes (cs : List Char) : Except Problem (Nat × List Char) := do
  let (hours, r) ← twoDigits '9' cs
  let (minutes, r) ← twoDigits '5' (r.dropWhile fun c => c == ':' || Text.isBlank c)
  .ok (hours * 3600 + minutes * 60, r)

/-- The offset from UTC in seconds, after blanks. -/
def offset (cs : List Char) : Except Problem (Int × List Char) :=
  match Text.trimStart cs with
  | [] => .error .tooShort
  | 'Z' :: r | 'z' :: r => .ok (0, r)
  | c :: r =>
    if (c :: r.take 2).map Char.toLower = ['u', 't', 'c'] then .ok (0, r.drop 2)
    else if c = '+' then (hoursMinutes r).map fun (n, r) => ((n : Int), r)
    else if c = '-' ∨ c = '\u2212' then (hoursMinutes r).map fun (n, r) => (-(n : Int), r)
    else .error .invalid

/-- The first and the last year that has instants. -/
def yearInRange (y : Int) : Bool := -262143 ≤ y && y ≤ 262142

/-- The instant of a local date and time at an offset. Second 60 denotes the leap second. -/
def assemble (date : Calendar.Date) (hour minute second nanos : Nat) (offset : Int) :
    Except Problem Instant :=
  if !date.valid || !yearInRange date.year then .error .outOfRange
  else if offset ≤ -86400 ∨ 86400 ≤ offset then .error .outOfRange
  else
    -- a leap second is the last second of its minute with a second's worth of nanoseconds more
    let (second, nanos) := if second = 60 then (59, nanos + 1_000_000_000) else (second, nanos)
    let days := Calendar.dayNumber date - Calendar.epochDay
    let seconds := days * 86400 + hour * 3600 + minute * 60 + second - offset
    if Instant.inRange seconds then .ok ⟨seconds, nanos⟩ else .error .impossible

/-- The instant that the characters denote. -/
def readChars (cs : List Char) : Except Problem Instant := do
  -- the date
  let (year, r) ← year cs
  let (month, r) ← bounded 1 12 (← expect '-' r)
  let (day, r) ← bounded 1 31 (← expect '-' r)
  -- no blanks may precede what joins date and time
  let r ← match r with
    | [] => .error .tooShort
    | c :: r => if c = 'T' ∨ c = 't' ∨ c = ' ' then .ok r else .error .invalid
  -- the time of day
  let (hour, r) ← bounded 0 23 r
  let (minute, r) ← bounded 0 59 (← expect ':' r)
  let (second, r) ← bounded 0 60 (← expect ':' r)
  let (nanos, r) ← fraction r
  let (offset, r) ← offset r
  if !(Text.trimStart r).isEmpty then .error .trailing
  else assemble ⟨year, month, day⟩ hour minute second nanos offset

/-- The instant that the text denotes. -/
def read (s : String) : Except Problem Instant := readChars s.toList

end AlertRelay.Timestamp
