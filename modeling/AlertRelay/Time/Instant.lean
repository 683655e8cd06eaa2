/-!
# Instants

An instant is a count of seconds since 1970-01-01T00:00:00Z and the nanoseconds beyond it. A
nanosecond count of `10^9` or more denotes a point within the leap second that follows. Instants
lie between the first day of year -262143 and the last day of year 262142; moving one out of this
range is an overflow, which nothing in the relay recovers from.

## Main definitions

* `Instant` — the instants, ordered by seconds and then by nanoseconds
* `Instant.Overflow` — moving an instant out of range, forwards or backwards
* `Instant.moved` — an instant moved by whole seconds
* `Instant.later`, `Instant.earlier` — the same, unless it leaves the range
* `Instant.toMicros` — an instant without the part that storage does not keep

## Main results

* `le_moved` — moving forwards never leads back
* `toMicros_of_dvd` — storage keeps whole microseconds
-/

namespace AlertRelay

/-- A point in time. -/
structure Instant where
  seconds : Int
  nanos : Nat
  deriving DecidableEq, Repr

namespace Instant

instance : Inhabited Instant := ⟨⟨0, 0⟩⟩

/-- The first second in range. -/
def minSeconds : Int := -8334601228800

/-- The last second in range. -/
def maxSeconds : Int := 8210266876799

/-- The seconds lie in range. -/
def inRange (seconds : Int) : Bool := minSeconds ≤ seconds && seconds ≤ maxSeconds

instance : LT Instant :=
  ⟨fun a b => a.seconds < b.seconds ∨ (a.seconds = b.seconds ∧ a.nanos < b.nanos)⟩

instance (a b : Instant) : Decidable (a < b) :=
  inferInstanceAs (Decidable (a.seconds < b.seconds ∨ (a.seconds = b.seconds ∧ a.nanos < b.nanos)))

instance : LE Instant := ⟨fun a b => ¬ b < a⟩

instance (a b : Instant) : Decidable (a ≤ b) := inferInstanceAs (Decidable (¬ b < a))

/-- An instant was moved out of range. -/
inductive Overflow where
  | forwards
  | backwards
  deriving DecidableEq, Repr

/-- The report of an overflow. -/
def Overflow.message : Overflow → String
  | .forwards => "`DateTime + TimeDelta` overflowed"
  | .backwards => "`DateTime - TimeDelta` overflowed"

/-- The instant `n` seconds away. One that leaves a leap second keeps its place within the second;
the leap second itself counts on the way back only. -/
def moved (t : Instant) (n : Int) : Instant :=
  if t.nanos < 1_000_000_000 ∨ n = 0 then ⟨t.seconds + n, t.nanos⟩
  else if 0 < n then ⟨t.seconds + n, t.nanos - 1_000_000_000⟩
  else ⟨t.seconds + 1 + n, t.nanos - 1_000_000_000⟩

/-- The instant `n` seconds later. -/
def later (t : Instant) (n : Int) : Except Overflow Instant :=
  if inRange (t.moved n).seconds then .ok (t.moved n) else .error .forwards

/-- The instant `n` seconds earlier. -/
def earlier (t : Instant) (n : Int) : Except Overflow Instant :=
  if inRange (t.moved (-n)).seconds then .ok (t.moved (-n)) else .error .backwards

/-- Seconds from 1970-01-01 to 2000-01-01, from where storage counts. -/
def storageEpoch : Int := 946684800

/-- The instant as storage keeps it: whole microseconds counted from 2000-01-01, the rest cut off
towards that day. -/
def toMicros (t : Instant) : Instant :=
  let nanos := (t.seconds - storageEpoch) * 1_000_000_000 + t.nanos
  let micros := Int.tdiv nanos 1000
  ⟨storageEpoch + micros / 1_000_000, (micros % 1_000_000).toNat * 1000⟩

theorem inRange_iff (seconds : Int) :
    inRange seconds = true ↔ minSeconds ≤ seconds ∧ seconds ≤ maxSeconds := by
  simp [inRange]

theorem lt_iff (a b : Instant) :
    a < b ↔ a.seconds < b.seconds ∨ (a.seconds = b.seconds ∧ a.nanos < b.nanos) := Iff.rfl

theorem not_lt {a b : Instant} : ¬ b < a ↔ a ≤ b := Iff.rfl

theorem le_refl (a : Instant) : a ≤ a := by
  rw [← not_lt, lt_iff]
  omega

theorem le_trans {a b c : Instant} (h : a ≤ b) (h' : b ≤ c) : a ≤ c := by
  rw [← not_lt, lt_iff] at *
  omega

theorem lt_of_le_of_lt {a b c : Instant} (h : a ≤ b) (h' : b < c) : a < c := by
  rw [← not_lt, lt_iff] at h
  rw [lt_iff] at *
  omega

theorem le_of_lt {a b : Instant} (h : a < b) : a ≤ b := by
  rw [← not_lt, lt_iff] at *
  omega

/-- Outside a leap second, moving changes the seconds only. -/
theorem moved_of_lt {t : Instant} (h : t.nanos < 1_000_000_000) (n : Int) :
    t.moved n = ⟨t.seconds + n, t.nanos⟩ := by
  rw [moved, if_pos (Or.inl h)]

/-- Moving forwards never leads back. -/
theorem le_moved (t : Instant) {n : Int} (h : 0 ≤ n) : t ≤ t.moved n := by
  rw [← not_lt, lt_iff, moved]
  split
  · dsimp only
    omega
  · split
    · dsimp only
      omega
    · omega

theorem later_eq_ok_iff {t u : Instant} {n : Int} :
    t.later n = .ok u ↔ inRange (t.moved n).seconds = true ∧ u = t.moved n := by
  rw [later]
  by_cases h : inRange (t.moved n).seconds = true
  · rw [if_pos h]
    exact ⟨fun e => ⟨h, (Except.ok.inj e).symm⟩, fun e => e.2 ▸ rfl⟩
  · rw [if_neg h]
    exact ⟨fun e => (nomatch e), fun e => absurd e.1 h⟩

theorem earlier_eq_ok_iff {t u : Instant} {n : Int} :
    t.earlier n = .ok u ↔ inRange (t.moved (-n)).seconds = true ∧ u = t.moved (-n) := by
  rw [earlier]
  by_cases h : inRange (t.moved (-n)).seconds = true
  · rw [if_pos h]
    exact ⟨fun e => ⟨h, (Except.ok.inj e).symm⟩, fun e => e.2 ▸ rfl⟩
  · rw [if_neg h]
    exact ⟨fun e => (nomatch e), fun e => absurd e.1 h⟩

/-- Storage keeps whole microseconds; those of a leap second count on into the next. -/
theorem toMicros_of_dvd {t : Instant} (h : 1000 ∣ t.nanos) :
    t.toMicros = ⟨t.seconds + t.nanos / 1_000_000_000, t.nanos % 1_000_000_000⟩ := by
  obtain ⟨q, hq⟩ := h
  have exact_micros : Int.tdiv ((t.seconds - storageEpoch) * 1_000_000_000 + t.nanos) 1000 =
      (t.seconds - storageEpoch) * 1_000_000 + q := by
    rw [hq, show (t.seconds - storageEpoch) * 1_000_000_000 + ((1000 * q : Nat) : Int) =
      ((t.seconds - storageEpoch) * 1_000_000 + q) * 1000 by omega]
    exact Int.mul_tdiv_cancel _ (by decide)
  simp only [toMicros, exact_micros, mk.injEq]
  omega

theorem le_toMicros {t : Instant} (h : 1000 ∣ t.nanos) : t ≤ t.toMicros := by
  rw [toMicros_of_dvd h, ← not_lt, lt_iff]
  dsimp only
  omega

/-- What is kept of an instant lies no earlier, also after both are moved forwards. -/
theorem moved_le_moved_toMicros {t : Instant} (h : 1000 ∣ t.nanos) {n : Int} (hn : 0 ≤ n) :
    t.moved n ≤ t.toMicros.moved n := by
  have kept := toMicros_of_dvd h
  have ordinary : t.toMicros.nanos < 1_000_000_000 := by
    rw [kept]
    exact Nat.mod_lt _ (by decide)
  rw [moved_of_lt ordinary, kept, ← not_lt, lt_iff, moved]
  split
  · dsimp only
    omega
  · split
    · dsimp only
      omega
    · omega

end Instant

end AlertRelay
