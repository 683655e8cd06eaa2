import AlertRelay.Proofs.Delivery.Backoff

/-!
# The budget of attempts

Failure after failure a delivery is retried until its attempts reach the limit, and then it is given
up. So its decisions come to an end from any counter and under any limit that the counter can reach,
and their number is what was left of the budget. A counter that is at the limit already, or beyond
it, has one decision left.

## Main definitions

* `RetryPolicy.Exhausts` — the decisions up to the one that gives the delivery up
* `RetryPolicy.retries` — retries with one attempt more each
* `RetryPolicy.SpendsBudget` — decisions that spend what is left of the budget and no more

## Main results

* `RetryPolicy.Exhausts.unique` — the decisions are determined
* `RetryPolicy.Exhausts.decisions_eq` — a bounded number of decisions are the first of these
* `RetryPolicy.exhausts_of_short`, `RetryPolicy.exhausts_of_reached` — what they are
* `RetryPolicy.pairwise_delays_retries` — no delay is shorter than the one before it
* `RetryPolicy.exhausts_spendsBudget` — every delivery is given up when its budget is spent
-/

namespace AlertRelay

/-- The delay of a retry. -/
def RetryDecision.delay? : RetryDecision → Option Span
  | .retry _ delay => some delay
  | .giveUp _ => none

namespace RetryPolicy

variable {p : RetryPolicy} {previous limit : Int} {run : List RetryDecision}

/-- The decisions of failures that follow one another, each counting on from the one before, up to
the one that gives the delivery up. -/
inductive Exhausts (p : RetryPolicy) (limit : Int) : Int → List RetryDecision → Prop
  | giveUp {previous attempts : Int} (decided : p.afterFailure previous limit = .giveUp attempts) :
      Exhausts p limit previous [.giveUp attempts]
  | retry {previous attempts : Int} {delay : Span} {run : List RetryDecision}
      (decided : p.afterFailure previous limit = .retry attempts delay)
      (rest : Exhausts p limit attempts run) :
      Exhausts p limit previous (.retry attempts delay :: run)

/-- So many retries, the first with the given attempts and each with one attempt more. -/
def retries (p : RetryPolicy) (first : Int) (n : Nat) : List RetryDecision :=
  (List.range n).map fun i : Nat => .retry (first + i) (p.backoff (first + i))

theorem retries_succ (p : RetryPolicy) (first : Int) (n : Nat) :
    p.retries first (n + 1) = .retry first (p.backoff first) :: p.retries (first + 1) n := by
  rw [retries, List.range_succ_eq_map, List.map_cons, List.map_map, retries]
  congr 1
  · rw [Int.natCast_zero, Int.add_zero]
  · refine List.map_congr_left fun i _ => ?_
    have next : first + ((i + 1 : Nat) : Int) = first + 1 + i := by omega
    simp only [Function.comp_apply, Nat.succ_eq_add_one, next]

namespace Exhausts

/-- The decisions are determined by the counter and the limit. -/
theorem unique {run' : List RetryDecision} (exhausts : p.Exhausts limit previous run)
    (exhausts' : p.Exhausts limit previous run') : run = run' := by
  -- both runs start with the decision on the same counter, and so stop or go on together
  induction exhausts generalizing run' with
  | giveUp decided =>
    cases exhausts' with
    | giveUp decided' => cases decided.symm.trans decided'; rfl
    | retry decided' => cases decided.symm.trans decided'
  | retry decided _ ih =>
    cases exhausts' with
    | giveUp decided' => cases decided.symm.trans decided'
    | retry decided' rest' =>
      cases decided.symm.trans decided'
      rw [ih rest']

/-- At most so many decisions are the first of all. -/
theorem decisions_eq (exhausts : p.Exhausts limit previous run) (n : Nat) :
    p.decisions limit n previous = run.take n := by
  induction exhausts generalizing n with
  | giveUp decided =>
    cases n with
    | zero => rfl
    | succ n =>
      rw [decisions, decided, List.take_succ_cons, List.take_nil]
  | retry decided _ ih =>
    cases n with
    | zero => rfl
    | succ n =>
      rw [decisions, decided, List.take_succ_cons, ← ih n]

end Exhausts

/-- Short of the limit a delivery is retried with one attempt more each time, and then given up. -/
theorem exhausts_of_short (fits : limit ≤ maxCounter) {n : Nat} (left : previous + n + 1 = limit) :
    p.Exhausts limit previous (p.retries (previous + 1) n ++ [.giveUp limit]) := by
  -- on the attempts that are left but one; the counter counts on as they get fewer
  induction n generalizing previous with
  | zero => exact .giveUp (afterFailure_eq_giveUp fits (by omega))
  | succ n ih =>
    rw [retries_succ]
    exact .retry (afterFailure_eq_retry fits (by omega)) (ih (by omega))

/-- At the limit or beyond it a delivery is given up at once. -/
theorem exhausts_of_reached (fits : limit ≤ maxCounter) (reached : limit ≤ previous + 1) :
    p.Exhausts limit previous [.giveUp (min (previous + 1) maxCounter)] :=
  .giveUp (afterFailure_of_reached (Int.le_min.mpr ⟨reached, fits⟩))

/-! ## Delays -/

/-- The delays of some decisions, in order. -/
def delays (run : List RetryDecision) : List Span := run.filterMap RetryDecision.delay?

theorem delays_retries (p : RetryPolicy) (first : Int) (n : Nat) (last : Int) :
    delays (p.retries first n ++ [.giveUp last]) =
      (List.range n).map fun i : Nat => p.backoff (first + i) := by
  have retried : delays (p.retries first n) =
      (List.range n).map fun i : Nat => p.backoff (first + i) := by
    rw [delays, retries, List.filterMap_map]
    exact congrFun List.filterMap_eq_map _
  rw [delays, List.filterMap_append, ← delays, retried]
  exact List.append_nil _

/-- Delays after more and more attempts do not get shorter. -/
theorem pairwise_delays_retries (p : RetryPolicy) (first : Int) (n : Nat) (last : Int) :
    (delays (p.retries first n ++ [.giveUp last])).Pairwise (· ≤ ·) := by
  rw [delays_retries, List.pairwise_map]
  refine List.pairwise_lt_range.imp fun fewer => p.backoff_mono ?_
  omega

/-- Every delay is between the base and the ceiling. -/
theorem within_delays_retries {first last : Int} {n : Nat} {d : Span}
    (member : d ∈ delays (p.retries first n ++ [.giveUp last])) : p.base ≤ d ∧ d ≤ p.max := by
  rw [delays_retries] at member
  obtain ⟨i, -, rfl⟩ := List.mem_map.mp member
  exact ⟨p.base_le_backoff _, p.backoff_le_max _⟩

/-- Decisions that spend what is left of the budget under the policy of a base and a ceiling, and no
more. -/
structure SpendsBudget (base ceiling : Span) (previous limit : Int) (run : List RetryDecision) :
    Prop where
  /-- They follow one another up to the one that gives the delivery up. -/
  exhausts : (of base ceiling).Exhausts limit previous run
  /-- No others do. -/
  unique : ∀ run', (of base ceiling).Exhausts limit previous run' → run' = run
  /-- However many failures there are, their decisions are the first of these. -/
  decisions_eq : ∀ n, (of base ceiling).decisions limit n previous = run.take n
  /-- Short of the limit there is a retry for every attempt that is left but one. -/
  short : previous + 1 < limit →
    run = (of base ceiling).retries (previous + 1) (limit - previous - 1).toNat ++ [.giveUp limit]
  /-- At the limit or beyond it there is no retry, and the counter may stop. -/
  reached : limit ≤ previous + 1 → run = [.giveUp (min (previous + 1) maxCounter)]
  /-- No delay is shorter than one before it. -/
  delays_le : (delays run).Pairwise (· ≤ ·)
  /-- Every delay is between the base and the ceiling. -/
  within : ∀ d ∈ delays run, base ≤ d ∧ d.nanos ≤ Max.max base.nanos ceiling.nanos

/-- Retries for the attempts that are left but one spend the budget, and so does the last attempt
alone when none is left. -/
theorem Exhausts.spendsBudget {base ceiling : Span} {n : Nat} {last : Int}
    (exhausts : (of base ceiling).Exhausts limit previous run)
    (decided : run = (of base ceiling).retries (previous + 1) n ++ [.giveUp last])
    (short : previous + 1 < limit → n = (limit - previous - 1).toNat ∧ last = limit)
    (reached : limit ≤ previous + 1 → n = 0 ∧ last = min (previous + 1) maxCounter) :
    SpendsBudget base ceiling previous limit run := by
  constructor
  case exhausts => exact exhausts
  case unique => exact fun _ others => others.unique exhausts
  case decisions_eq => exact exhausts.decisions_eq
  case short =>
    intro left
    obtain ⟨rfl, rfl⟩ := short left
    exact decided
  case reached =>
    intro none_left
    obtain ⟨rfl, rfl⟩ := reached none_left
    exact decided
  case delays_le =>
    rw [decided]
    exact pairwise_delays_retries _ _ _ _
  case within =>
    intro d member
    rw [decided] at member
    obtain ⟨longer, shorter⟩ := within_delays_retries member
    rw [Span.le_iff, nanos_max_of] at shorter
    exact ⟨longer, shorter⟩

/-- Whatever the counter is and whatever limit it can reach, the delivery is given up when its
budget is spent. -/
theorem exhausts_spendsBudget (base ceiling : Span) (previous : Int) {limit : Int}
    (fits : limit ≤ maxCounter) : ∃ run, SpendsBudget base ceiling previous limit run := by
  rcases Int.lt_or_le (previous + 1) limit with short | reached
  · have left : previous + (limit - previous - 1).toNat + 1 = limit := by omega
    exact ⟨_, (exhausts_of_short fits left).spendsBudget rfl (fun _ => ⟨rfl, rfl⟩)
      fun reached => absurd short (Int.not_lt.mpr reached)⟩
  · exact ⟨_, (exhausts_of_reached fits reached).spendsBudget (n := 0) rfl
      (fun short => absurd short (Int.not_lt.mpr reached)) fun _ => ⟨rfl, rfl⟩⟩

/-- From the least counter to the greatest limit there are 65534 retries. -/
theorem exhausts_spendsBudget_longest :
    (32767 : Int) ≤ maxCounter ∧ ∃ run,
      SpendsBudget ⟨1⟩ ⟨Span.maxNanos⟩ (-32768) 32767 run ∧ run.length = 65535 ∧
        run.getLast? = some (.giveUp 32767) := by
  have fits : (32767 : Int) ≤ maxCounter := by decide
  obtain ⟨run, spends⟩ := exhausts_spendsBudget ⟨1⟩ ⟨Span.maxNanos⟩ (-32768) fits
  have decided := spends.short (by decide)
  refine ⟨fits, run, spends, ?_, ?_⟩
  · rw [decided, List.length_append, retries, List.length_map, List.length_range]
    rfl
  · rw [decided, List.getLast?_append]
    rfl

end RetryPolicy

end AlertRelay
