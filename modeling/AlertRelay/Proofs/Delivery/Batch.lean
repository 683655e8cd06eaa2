import AlertRelay.Proofs.Delivery.Posting
import AlertRelay.Proofs.Routine.Responder

/-!
# The order of a tick

A tick first takes stale claims back and then claims a batch. If one of these two statements fails,
the tick fails with it and does nothing more. Otherwise the claimed deliveries are processed one
after another, each on the replies that the one before left over. A delivery whose outcome could not
be written, or whose webhook could not be noted on, is reported, and the next one is processed all
the same. So the tick comes to a summary in which every claimed delivery is counted once at most.
All of this holds whatever the database replies and whoever answers the requests.

## Main definitions

* `Worker.Attempt.Deals` — an attempt of a delivery that writes what came of it
* `Worker.Summary.Counts` — a summary says what was released, claimed and came of some attempts
* `Worker.DealsInOrder` — how a tick goes

## Main results

* `Worker.Summary.foldl_count` — what counting adds to a summary
* `Worker.tick_dealsInOrder` — every tick goes so, and comes to an end
-/

namespace AlertRelay.Worker

variable {policy : RetryPolicy} {settings : DeliverySettings}

/-! ## Counts -/

namespace Summary

/-- Counting keeps what was released and claimed, and adds to each count how often its outcome
came. -/
theorem foldl_count (s : Summary) (came : List (Except DbError DeliveryOutcome)) :
    came.foldl count s =
      { s with
        delivered := s.delivered + came.count (.ok .delivered)
        retried := s.retried + came.count (.ok .retrying)
        failed := s.failed + came.count (.ok .failed)
        claimLost := s.claimLost + came.count (.ok .claimLost) } := by
  induction came generalizing s with
  | nil => rfl
  | cons outcome came ih =>
    rw [List.foldl_cons, ih]
    rcases outcome with error | outcome
    · simp [count]
    · cases outcome <;> simp [count] <;> omega

end Summary

/-- A delivery came to no outcome: it could not be written, or the failure could not be counted on
the webhook. -/
def isUnwritten : Except DbError DeliveryOutcome → Bool
  | .ok _ => false
  | .error _ => true

/-- Every delivery is counted once, or came to no outcome. -/
theorem sum_count_outcomes (came : List (Except DbError DeliveryOutcome)) :
    came.count (.ok .delivered) + came.count (.ok .retrying) + came.count (.ok .failed) +
      came.count (.ok .claimLost) + came.countP isUnwritten = came.length := by
  induction came with
  | nil => rfl
  | cons outcome came ih =>
    rcases outcome with error | outcome
    · simp [isUnwritten, List.countP_cons]
      omega
    · cases outcome <;> simp [isUnwritten] <;> omega

/-- A summary says what was released and claimed, and what came of the attempts. -/
structure Summary.Counts (s : Summary) (released claimed : Nat) (attempts : List Attempt) :
    Prop where
  released : s.released = released
  claimed : s.claimed = claimed
  delivered : s.delivered = (attempts.map Attempt.outcome).count (.ok .delivered)
  retried : s.retried = (attempts.map Attempt.outcome).count (.ok .retrying)
  failed : s.failed = (attempts.map Attempt.outcome).count (.ok .failed)
  claimLost : s.claimLost = (attempts.map Attempt.outcome).count (.ok .claimLost)
  /-- No delivery is counted twice. -/
  bounded : s.delivered + s.retried + s.failed + s.claimLost ≤ s.claimed

/-- What a tick counts of the attempts of its batch. -/
theorem counts_counted (released : Nat) {entries : List QueueEntry} {attempts : List Attempt}
    (attempted : List.Forall₂ (Attempt.IsOf policy) entries attempts) :
    (counted ⟨released, entries.length, 0, 0, 0, 0⟩ (attempts.map Attempt.outcome)).Counts released
      entries.length attempts := by
  -- there is one outcome for each delivery, and each outcome is counted once or not at all
  have summed := sum_count_outcomes (attempts.map Attempt.outcome)
  rw [List.length_map, ← attempted.length_eq] at summed
  rw [counted, Summary.foldl_count]
  constructor
  case bounded =>
    dsimp only
    omega
  case released | claimed => rfl
  case delivered | retried | failed | claimLost => exact Nat.zero_add _

/-! ## The whole tick -/

/-- An attempt of the delivery: its processing takes this course, in which the webhook is looked up,
the request that follows from that is sent, and one outcome is written. -/
structure Attempt.Deals (policy : RetryPolicy) (e : QueueEntry) (a : Attempt) : Prop where
  course : a.IsOf policy e
  pass : ∃ p : Pass policy, p.entry = e ∧ p.outcome = a.outcome ∧ p.statements = a.statements ∧
    p.posts = a.posts

/-- How a tick goes: `released` is the reply to its release, and `claimed` the reply to its claim,
if it comes to that. -/
structure DealsInOrder (settings : DeliverySettings) (released claimed : StoreReply)
    (trace : List Action) (result : Except Instant.Overflow (Except DbError Summary)) : Prop where
  ends : ∃ ended, result = .ok ended
  /-- A tick fails exactly if its release or its claim does. -/
  fails_iff : (∃ error, result = .ok (.error error)) ↔
    (∃ error, released.affected? = .error error) ∨
      ∃ error, claimed.all QueueEntry.ofRow = .error error
  /-- Nothing follows a release that failed. -/
  unreleased : ∀ {error}, released.affected? = .error error →
    result = .ok (.error error) ∧
      Action.statements trace = [(.releaseStale settings.staleAfter, released)] ∧
      Action.posts trace = []
  /-- Nothing follows a claim that failed. -/
  unclaimed : ∀ {count error}, released.affected? = .ok count →
    claimed.all QueueEntry.ofRow = .error error →
    result = .ok (.error error) ∧
      Action.statements trace = [(.releaseStale settings.staleAfter, released),
        (.claimDue settings.batchSize, claimed)] ∧
      Action.posts trace = []
  /-- What was claimed is attempted in order, each delivery on the replies and answers that are
  left, and the summary says what was released and claimed and came of it. -/
  dealt : ∀ {count entries}, released.affected? = .ok count →
    claimed.all QueueEntry.ofRow = .ok entries →
    ∃ attempts s, List.Forall₂ (Attempt.Deals settings.retryPolicy) entries attempts ∧
      Action.statements trace = (.releaseStale settings.staleAfter, released) ::
        (.claimDue settings.batchSize, claimed) :: attempts.flatMap Attempt.statements ∧
      Action.posts trace = attempts.flatMap Attempt.posts ∧
      result = .ok (.ok s) ∧ s.Counts count entries.length attempts

variable {trace : List Action} {result : Except Instant.Overflow (Except DbError Summary)}

/-- Every course of a tick takes stale claims back, claims a batch and deals with it in order,
unless one of the two statements at its beginning fails. -/
theorem dealsInOrder_of_course (course : (tick settings).Course trace result) :
    ∃ released claimed, DealsInOrder settings released claimed trace result := by
  obtain ⟨opening, entries, counted, attempts, opens, attempted, ended, stated, posted⟩ :=
    tick_attempts course
  cases opens with
  | @unreleased released error broken =>
    -- there is no claim, so any reply to it will do
    cases attempted
    refine ⟨released, .affected 0, ?_⟩
    constructor
    case ends => exact ⟨_, ended⟩
    case fails_iff => exact iff_of_true ⟨error, ended⟩ (.inl ⟨error, broken⟩)
    case unreleased =>
      intro other failed
      cases broken.symm.trans failed
      exact ⟨ended, stated, posted⟩
    case unclaimed =>
      intro count other ran
      cases broken.symm.trans ran
    case dealt =>
      intro count entries ran
      cases broken.symm.trans ran
  | @unclaimed released claimed count error ran broken =>
    cases attempted
    refine ⟨released, claimed, ?_⟩
    constructor
    case ends => exact ⟨_, ended⟩
    case fails_iff => exact iff_of_true ⟨error, ended⟩ (.inr ⟨error, broken⟩)
    case unreleased =>
      intro other failed
      cases ran.symm.trans failed
    case unclaimed =>
      intro _ other _ failed
      cases broken.symm.trans failed
      exact ⟨ended, stated, posted⟩
    case dealt =>
      intro _ entries _ read
      cases broken.symm.trans read
  | @batch released claimed count entries ran read =>
    refine ⟨released, claimed, ?_⟩
    constructor
    case ends => exact ⟨_, ended⟩
    case fails_iff =>
      refine iff_of_false ?_ ?_
      · rintro ⟨error, failed⟩
        cases ended.symm.trans failed
      · rintro (⟨error, failed⟩ | ⟨error, failed⟩)
        · cases ran.symm.trans failed
        · cases read.symm.trans failed
    case unreleased =>
      intro error failed
      cases ran.symm.trans failed
    case unclaimed =>
      intro _ error _ failed
      cases read.symm.trans failed
    case dealt =>
      intro count' entries' ran' read'
      cases ran.symm.trans ran'
      cases read.symm.trans read'
      have deals : List.Forall₂ (Attempt.Deals settings.retryPolicy) entries attempts :=
        attempted.imp fun _ _ attempt => ⟨attempt, attempt.pass⟩
      exact ⟨attempts, _, deals, stated, posted, ended, counts_counted count attempted⟩

/-- Every tick takes stale claims back, claims a batch and deals with it in order, unless one of the
two statements at its beginning fails; and whatever replies to its statements and answers its
requests, it comes to an end. -/
theorem tick_dealsInOrder (settings : DeliverySettings) :
    (∀ (trace : List Action) (result : Except Instant.Overflow (Except DbError Summary)),
      (tick settings).Course trace result →
        ∃ released claimed, DealsInOrder settings released claimed trace result) ∧
    ∀ respond : Responder, ∃ trace result,
      (tick settings).Course trace result ∧ respond.Gives [] trace := by
  constructor
  · intro trace result course
    exact dealsInOrder_of_course course
  · intro respond
    exact Routine.exists_course respond (tick settings)

/-- A tick that claims two deliveries to a webhook that is reached over a secure connection. The
first request fails, and so does the statement that would record it; the second request succeeds. -/
def losingTrack : List Action × Except Instant.Overflow (Except DbError Summary) :=
  let webhook := { ownWebhook with url := "https://[::1]/hook" }
  (tick .standard).against
    (.scripted [.affected 2,
      .rows [QueueEntry.lastAttempt.row, { QueueEntry.lastAttempt with id := 10 }.row],
      .rows [webhook.row], .failed .unreachable, .rows [webhook.row], .affected 1, .affected 1]
      [.status 500, .status 204]) []

/-- The second delivery is made although the first one is not accounted for. -/
theorem tick_dealsInOrder_losingTrack :
    (tick .standard).Course losingTrack.1 losingTrack.2 ∧
      (Action.posts losingTrack.1).map Prod.snd = [.status 500, .status 204] ∧
      losingTrack.2 = .ok (.ok ⟨2, 2, 1, 0, 0, 0⟩) ∧
      ∃ released claimed, DealsInOrder .standard released claimed losingTrack.1 losingTrack.2 := by
  have course : (tick .standard).Course losingTrack.1 losingTrack.2 :=
    Routine.course_against _ _ []
  exact ⟨course, rfl, rfl, (tick_dealsInOrder .standard).1 _ _ course⟩

end AlertRelay.Worker
