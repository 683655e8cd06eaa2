import AlertRelay.Time.Span

/-!
# Retries

After a failed attempt a delivery is either retried after a delay or given up. The delay doubles
with every attempt, from a base up to a ceiling. The doubling factor is held in 32 bits and stays
at its greatest value once it no longer fits; a product that is too long for a span counts as the
ceiling.

## Main definitions

* `RetryPolicy` — base and ceiling of the delay
* `RetryPolicy.backoff` — the delay after a number of attempts
* `RetryDecision` — retry or give up
* `RetryPolicy.afterFailure` — the decision after a failed attempt
* `RetryPolicy.decisions` — the decisions of repeated failures
-/

namespace AlertRelay

/-- Base and ceiling of the delay between attempts. -/
structure RetryPolicy where
  base : Span
  max : Span
  base_le_max : base ≤ max
  deriving DecidableEq

/-- What happens to a delivery after a failed attempt. -/
inductive RetryDecision where
  | retry (attempts : Int) (delay : Span)
  | giveUp (attempts : Int)
  deriving DecidableEq, Repr

/-- The attempts made so far. -/
def RetryDecision.attempts : RetryDecision → Int
  | .retry attempts _ => attempts
  | .giveUp attempts => attempts

/-- The attempts after which a delivery is given up, unless stated otherwise. -/
def defaultMaxAttempts : Int := 5

/-- The greatest attempt counter. -/
def maxCounter : Int := 32767

namespace RetryPolicy

/-- The policy with the given base and ceiling; a ceiling below the base is raised to it. -/
def of (base ceiling : Span) : RetryPolicy :=
  ⟨base, Max.max ceiling base, by rw [Span.le_iff, Span.nanos_max]; omega⟩

/-- Half a minute, doubling up to an hour. -/
def standard : RetryPolicy := of (Span.ofSeconds 30) (Span.ofSeconds 3600)

/-- The doubling factor after a number of doublings, held in 32 bits. -/
def factor (doublings : Nat) : Nat := if doublings < 32 then 1 <<< doublings else 0xFFFF_FFFF

/-- The delay after a number of attempts; a negative number counts as none. -/
def backoff (p : RetryPolicy) (attempts : Int) : Span :=
  Min.min ((p.base.times? (factor attempts.toNat)).getD p.max) p.max

/-- The decision after a failed attempt, given the attempts before it and the limit. The counter
stops at its greatest value. -/
def afterFailure (p : RetryPolicy) (previous limit : Int) : RetryDecision :=
  let attempts := min (previous + 1) maxCounter
  if limit ≤ attempts then .giveUp attempts else .retry attempts (p.backoff attempts)

/-- The decisions of repeated failures, at most `n`, each counting on from the one before and the
last one giving up. -/
def decisions (p : RetryPolicy) (limit : Int) : Nat → Int → List RetryDecision
  | 0, _ => []
  | n + 1, previous =>
    match p.afterFailure previous limit with
    | .giveUp attempts => [.giveUp attempts]
    | .retry attempts delay => .retry attempts delay :: p.decisions limit n attempts

theorem nanos_backoff (p : RetryPolicy) (attempts : Int) :
    (p.backoff attempts).nanos =
      min (if p.base.nanos * factor attempts.toNat ≤ Span.maxNanos
        then p.base.nanos * factor attempts.toNat else p.max.nanos) p.max.nanos := by
  rw [backoff, Span.nanos_min, Span.times?]
  split <;> rfl

/-- A delay never exceeds the ceiling. -/
theorem backoff_le_max (p : RetryPolicy) (attempts : Int) : p.backoff attempts ≤ p.max := by
  rw [Span.le_iff, nanos_backoff]
  omega

theorem one_le_factor (n : Nat) : 1 ≤ factor n := by
  rw [factor]
  split
  · rw [Nat.one_shiftLeft]
    exact Nat.one_le_two_pow
  · decide

/-- A delay is never shorter than the base. -/
theorem base_le_backoff (p : RetryPolicy) (attempts : Int) : p.base ≤ p.backoff attempts := by
  have hp := p.base_le_max
  rw [Span.le_iff] at hp
  rw [Span.le_iff, nanos_backoff]
  have := Nat.le_mul_of_pos_right p.base.nanos (one_le_factor attempts.toNat)
  split <;> omega

theorem attempts_afterFailure (p : RetryPolicy) (previous limit : Int) :
    (p.afterFailure previous limit).attempts = min (previous + 1) maxCounter := by
  simp only [afterFailure]
  split <;> rfl

end RetryPolicy

end AlertRelay
