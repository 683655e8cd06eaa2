import Mathlib.Algebra.Group.Nat.Defs
import AlertRelay.Proofs.Delivery.Backoff

/-!
# Doubling delays

The delay after some attempts is meant to be the base doubled as often, up to the ceiling. It is
computed with a factor that is held in 32 bits, and a product that is too long for a span counts as
the ceiling. The product does no harm, for every ceiling is a span, and so is shorter. The factor
does: it stops one short of the thirty-second doubling, and where the ceiling is farther away than
that, the delay stops with it and never gets to the ceiling.

## Main definitions

* `Span.Fits` — the span is not longer than the longest
* `RetryPolicy.doubled` — the base doubled as often as there were attempts, up to the ceiling
* `RetryPolicy.Doubles` — what is computed, and when it is the doubled base

## Main results

* `RetryPolicy.factor_eq_min` — the factor doubles up to its greatest value
* `RetryPolicy.nanos_backoff_of_fits` — no product is lost
* `RetryPolicy.min_factor_eq_iff` — where the greatest factor is enough
* `RetryPolicy.backoff_doubles` — all of this of every policy
-/

namespace AlertRelay

/-- The span is not longer than the longest. -/
def Span.Fits (s : Span) : Prop := s.nanos ≤ Span.maxNanos

instance (s : Span) : Decidable s.Fits := inferInstanceAs (Decidable (s.nanos ≤ Span.maxNanos))

namespace RetryPolicy

variable {p : RetryPolicy} {base ceiling : Span}

/-- The greatest factor. -/
def maxFactor : Nat := 2 ^ 32 - 1

/-- The nanoseconds of the base doubled as often as there were attempts, up to the ceiling. A
ceiling below the base counts as the base, and a negative number of attempts as none. -/
def doubled (base ceiling : Span) (attempts : Int) : Nat :=
  min (base.nanos * 2 ^ attempts.toNat) (Max.max base.nanos ceiling.nanos)

/-! ## The factor -/

/-- The factor doubles up to its greatest value. -/
theorem factor_eq_min (n : Nat) : factor n = min (2 ^ n) maxFactor := by
  rw [factor]
  split
  case isTrue doubling =>
    have held : 2 ^ n ≤ 2 ^ 31 := Nat.pow_le_pow_right (by decide) (Nat.le_of_lt_succ doubling)
    rw [Nat.one_shiftLeft, Nat.min_eq_left (Nat.le_trans held (by decide))]
  case isFalse stopped =>
    have beyond : 2 ^ 32 ≤ 2 ^ n := Nat.pow_le_pow_right (by decide) (Nat.le_of_not_lt stopped)
    rw [Nat.min_eq_right (Nat.le_trans (by decide) beyond)]
    rfl

theorem factor_le (n : Nat) : factor n ≤ maxFactor := by
  rw [factor_eq_min]
  exact Nat.min_le_right _ _

theorem factor_of_lt {n : Nat} (h : n < 32) : factor n = 2 ^ n := by
  rw [factor, if_pos h, Nat.one_shiftLeft]

theorem factor_of_le {n : Nat} (h : 32 ≤ n) : factor n = maxFactor := if_neg (Nat.not_lt.mpr h)

/-- Once the factor has stopped, it falls short of the next doubling. -/
theorem maxFactor_lt {n : Nat} (h : 32 ≤ n) : maxFactor < 2 ^ n :=
  Nat.lt_of_lt_of_le (by decide) (Nat.pow_le_pow_right (by decide) h)

/-! ## The delay -/

theorem fits_max_of (base_fits : base.Fits) (ceiling_fits : ceiling.Fits) :
    (of base ceiling).max.Fits := by
  rw [Span.Fits, nanos_max_of]
  exact Nat.max_le.mpr ⟨base_fits, ceiling_fits⟩

/-- A product that is too long for a span is longer than the ceiling, so none is lost. -/
theorem nanos_backoff_of_fits (fits : p.max.Fits) (attempts : Int) :
    (p.backoff attempts).nanos = min (p.base.nanos * factor attempts.toNat) p.max.nanos := by
  rw [Span.Fits] at fits
  rw [nanos_backoff]
  -- of a lost product it is known that it is longer than the longest span
  split <;> omega

/-- The held factor gives the same delay as the unbounded one exactly while it doubles, for a base
of no length, and where the greatest factor gets to the ceiling. -/
theorem min_factor_eq_iff {n base ceiling : Nat} :
    min (base * factor n) ceiling = min (base * 2 ^ n) ceiling ↔
      n < 32 ∨ base = 0 ∨ ceiling ≤ base * maxFactor := by
  rcases Nat.lt_or_ge n 32 with doubling | stopped
  · simp only [factor_of_lt doubling, doubling, true_or]
  · have beyond : base * maxFactor ≤ base * 2 ^ n :=
      Nat.mul_le_mul_left base (Nat.le_of_lt (maxFactor_lt stopped))
    rw [factor_of_le stopped]
    -- the doubled base is the longer one of the products, so a ceiling that the shorter one gets to
    -- cuts off both
    constructor
    · intro same
      rcases Nat.eq_zero_or_pos base with none | some
      · exact .inr (.inl none)
      · have farther : base * maxFactor < base * 2 ^ n :=
          Nat.mul_lt_mul_of_pos_left (maxFactor_lt stopped) some
        exact .inr (.inr (by omega))
    · rintro (doubling | rfl | reached)
      · omega
      · simp only [Nat.zero_mul]
      · omega

/-- The delay after some attempts under the policy of a base and a ceiling. -/
structure Doubles (base ceiling : Span) (attempts : Int) : Prop where
  /-- The factor fits in 32 bits. -/
  factor_lt : factor attempts.toNat < 2 ^ 32
  /-- The delay is a span. -/
  fits : ((of base ceiling).backoff attempts).Fits
  /-- It is the base times the factor, up to the ceiling. -/
  nanos_eq : ((of base ceiling).backoff attempts).nanos =
    min (base.nanos * min (2 ^ attempts.toNat) (2 ^ 32 - 1)) (Max.max base.nanos ceiling.nanos)
  /-- It is the doubled base exactly while the factor doubles, for a base of no length, and where
  the greatest factor gets to the ceiling. -/
  eq_doubled_iff : ((of base ceiling).backoff attempts).nanos = doubled base ceiling attempts ↔
    attempts < 32 ∨ base.nanos = 0 ∨
      Max.max base.nanos ceiling.nanos ≤ base.nanos * (2 ^ 32 - 1)
  /-- It is never longer, so anywhere else it falls short. -/
  le_doubled : ((of base ceiling).backoff attempts).nanos ≤ doubled base ceiling attempts

/-- The delay is the doubled base as long as the factor keeps up, and never more. -/
theorem backoff_doubles (base_fits : base.Fits) (ceiling_fits : ceiling.Fits) (attempts : Int) :
    Doubles base ceiling attempts := by
  have max_fits := fits_max_of base_fits ceiling_fits
  have computed : ((of base ceiling).backoff attempts).nanos =
      min (base.nanos * factor attempts.toNat) (Max.max base.nanos ceiling.nanos) := by
    rw [nanos_backoff_of_fits max_fits, nanos_max_of]
    rfl
  constructor
  case factor_lt => exact Nat.lt_of_le_of_lt (factor_le _) (by decide)
  case fits => exact Nat.le_trans (backoff_le_max _ attempts) max_fits
  case nanos_eq => rw [computed, factor_eq_min, maxFactor]
  case eq_doubled_iff =>
    have few : attempts.toNat < 32 ↔ attempts < 32 := by omega
    rw [computed, doubled, min_factor_eq_iff, few, maxFactor]
  case le_doubled =>
    have shorter : base.nanos * factor attempts.toNat ≤ base.nanos * 2 ^ attempts.toNat := by
      rw [factor_eq_min]
      exact Nat.mul_le_mul_left _ (Nat.min_le_left _ _)
    rw [computed, doubled]
    omega

/-- A base of a nanosecond under a ceiling of ten seconds is doubled up to the thirty-first attempt,
and not at the thirty-second. -/
theorem backoff_doubles_nanosecond :
    (⟨1⟩ : Span).Fits ∧ (Span.ofSeconds 10).Fits ∧
      ((of ⟨1⟩ (Span.ofSeconds 10)).backoff 31).nanos = doubled ⟨1⟩ (Span.ofSeconds 10) 31 ∧
      ((of ⟨1⟩ (Span.ofSeconds 10)).backoff 32).nanos ≠ doubled ⟨1⟩ (Span.ofSeconds 10) 32 := by
  have base_fits : (⟨1⟩ : Span).Fits := by decide
  have ceiling_fits : (Span.ofSeconds 10).Fits := by decide
  have last := backoff_doubles base_fits ceiling_fits 31
  have next := backoff_doubles base_fits ceiling_fits 32
  refine ⟨base_fits, ceiling_fits, last.eq_doubled_iff.mpr (.inl (by decide)), ?_⟩
  rw [ne_eq, next.eq_doubled_iff]
  decide

/-- From the thirty-second attempt on the delay stands still, short of the doubled base and, however
many attempts there are, of the ceiling. -/
theorem backoff_stands_still :
    ((of ⟨1⟩ (Span.ofSeconds 10)).backoff 32).nanos = 4294967295 ∧
      doubled ⟨1⟩ (Span.ofSeconds 10) 32 = 4294967296 ∧
      ((of ⟨1⟩ (Span.ofSeconds 10)).backoff 32767).nanos = 4294967295 ∧
      doubled ⟨1⟩ (Span.ofSeconds 10) 32767 = 10000000000 := by
  decide +kernel

end RetryPolicy

end AlertRelay
