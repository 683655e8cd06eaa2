import AlertRelay.Delivery.Retry

/-!
# Delays and decisions

## Main results

* `RetryPolicy.backoff_mono` — a delay is never shorter than one after fewer attempts
* `RetryPolicy.afterFailure_of_short`, `RetryPolicy.afterFailure_of_reached` — when a delivery is
  retried, and when it is given up
-/

namespace AlertRelay.RetryPolicy

variable {p : RetryPolicy} {previous limit : Int}

/-- The ceiling of a policy is the longer one of the two spans that it is made of. -/
theorem nanos_max_of (base ceiling : Span) :
    (of base ceiling).max.nanos = Max.max base.nanos ceiling.nanos := by
  rw [of, Span.nanos_max, Nat.max_comm]

/-- The factor never falls: it doubles until it stays at its greatest value. -/
theorem factor_mono {m n : Nat} (h : m ≤ n) : factor m ≤ factor n := by
  by_cases doubling : n < 32
  · rw [factor, factor, if_pos (Nat.lt_of_le_of_lt h doubling), if_pos doubling]
    simp only [Nat.one_shiftLeft]
    exact Nat.pow_le_pow_right (by decide) h
  · rw [factor, factor, if_neg doubling]
    split
    case isTrue below =>
      have : 2 ^ m ≤ 2 ^ 31 := Nat.pow_le_pow_right (by decide) (Nat.le_of_lt_succ below)
      rw [Nat.one_shiftLeft]
      omega
    case isFalse => exact Nat.le_refl _

/-- A delay is never shorter than one after fewer attempts. -/
theorem backoff_mono (p : RetryPolicy) {fewer more : Int} (h : fewer ≤ more) :
    p.backoff fewer ≤ p.backoff more := by
  have longer : p.base.nanos * factor fewer.toNat ≤ p.base.nanos * factor more.toNat :=
    Nat.mul_le_mul_left _ (factor_mono (Int.toNat_le_toNat h))
  rw [Span.le_iff, nanos_backoff, nanos_backoff]
  -- once a product is too long for a span, so is every later one, and the ceiling stands for both
  split <;> split <;> omega

/-- Short of the limit a delivery is retried. -/
theorem afterFailure_of_short (short : min (previous + 1) maxCounter < limit) :
    p.afterFailure previous limit =
      .retry (min (previous + 1) maxCounter) (p.backoff (min (previous + 1) maxCounter)) :=
  if_neg (Int.not_le.mpr short)

/-- At the limit a delivery is given up. -/
theorem afterFailure_of_reached (reached : limit ≤ min (previous + 1) maxCounter) :
    p.afterFailure previous limit = .giveUp (min (previous + 1) maxCounter) :=
  if_pos reached

theorem exists_afterFailure_giveUp_iff :
    (∃ attempts, p.afterFailure previous limit = .giveUp attempts) ↔
      limit ≤ min (previous + 1) maxCounter := by
  constructor
  · rintro ⟨attempts, givenUp⟩
    refine Int.not_lt.mp fun short => ?_
    rw [afterFailure_of_short short] at givenUp
    cases givenUp
  · exact fun reached => ⟨_, afterFailure_of_reached reached⟩

/-! ## Failure after failure -/

/-- Short of a limit that the counter holds, the counter has not stopped. -/
theorem counted_of_short (fits : limit ≤ maxCounter) (short : previous < limit) :
    min (previous + 1) maxCounter = previous + 1 :=
  Int.min_eq_left (Int.le_trans short fits)

theorem afterFailure_eq_retry (fits : limit ≤ maxCounter) (short : previous + 1 < limit) :
    p.afterFailure previous limit = .retry (previous + 1) (p.backoff (previous + 1)) := by
  have counted := counted_of_short fits (Int.lt_trans (Int.lt_succ previous) short)
  rw [afterFailure_of_short (by rwa [counted]), counted]

theorem afterFailure_eq_giveUp (fits : limit ≤ maxCounter) (last : previous + 1 = limit) :
    p.afterFailure previous limit = .giveUp limit := by
  have short : previous < limit := by omega
  have counted := counted_of_short fits short
  rw [afterFailure_of_reached (by omega), counted, last]

/-- Short of the limit, the failures so far and one more: it is decided as if it were the first one
after as many attempts. -/
theorem decisions_succ (fits : limit ≤ maxCounter) {n : Nat} (short : previous + n < limit) :
    p.decisions limit (n + 1) previous =
      p.decisions limit n previous ++ [p.afterFailure (previous + n) limit] := by
  induction n generalizing previous with
  | zero =>
    rw [Int.natCast_zero, Int.add_zero]
    simp only [decisions]
    cases p.afterFailure previous limit <;> rfl
  | succ n ih =>
    have retried : p.afterFailure previous limit =
        .retry (previous + 1) (p.backoff (previous + 1)) :=
      afterFailure_eq_retry fits (by omega)
    have later : p.decisions limit (n + 1) (previous + 1) = p.decisions limit n (previous + 1) ++
        [p.afterFailure (previous + 1 + n) limit] := ih (by omega)
    rw [decisions, retried, decisions, retried]
    dsimp only
    rw [later, show previous + 1 + (n : Int) = previous + ((n + 1 : Nat) : Int) by omega]
    rfl

theorem length_decisions (fits : limit ≤ maxCounter) {n : Nat} (within : previous + n ≤ limit) :
    (p.decisions limit n previous).length = n := by
  induction n with
  | zero => rfl
  | succ n ih =>
    rw [decisions_succ fits (by omega), List.length_append, ih (by omega)]
    rfl

end AlertRelay.RetryPolicy
