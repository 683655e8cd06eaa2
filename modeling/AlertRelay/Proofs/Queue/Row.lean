import AlertRelay.Delivery.Worker
import AlertRelay.Proofs.Queue.Table
import AlertRelay.Proofs.Routine.Only

/-!
# One delivery of the queue

What the statements of the queue do to one row, and what a worker that claimed a row will write to
it. A worker looks the webhook up and sends the request without touching the queue, then writes one
outcome, which it computes from the row as it was when it was claimed, and touches the queue no
more.

## Main definitions

* `QueueEntry.SameDelivery` — the columns that nothing changes
* `QueueEntry.CounterFits` — the attempts of a row are as its status allows
* `QueueEntry.Becomes` — a change of a row that is not final
* `QueueEntry.outcomeOf` — the outcome that a worker writes after an attempt
* `Effect.IsOffQueue` — the effect does not touch the queue

## Main results

* `QueueEntry.becomes_outcome` — an outcome computed from any claim of a row fits the row
* `QueueEntry.settle_eq` — after its attempt a worker writes one outcome and nothing else
-/

namespace AlertRelay

/-- Statuses are told apart by how they are written. -/
theorem DeliveryStatus.name_injective {s s' : DeliveryStatus} (h : s.name = s'.name) : s = s' :=
  Except.ok.inj ((parse_name s).symm.trans ((congrArg parse h).trans (parse_name s')))

/-- The effect does not touch the queue. -/
def Effect.IsOffQueue : Effect → Prop := Asks fun s => s.table ≠ "delivery_queue"

namespace QueueEntry

variable {e e' e'' snapshot : QueueEntry} {o : Occasion}

/-- The row has a status. -/
def Has (e : QueueEntry) (s : DeliveryStatus) : Prop := e.status = s.name

theorem Has.eq {s s' : DeliveryStatus} (h : e.Has s) (h' : e.Has s') : s = s' :=
  DeliveryStatus.name_injective (h.symm.trans h')

theorem Has.not {s s' : DeliveryStatus} (h : e.Has s) (ne : s ≠ s') : ¬ e.Has s' :=
  fun h' => ne (h.eq h')

/-- The columns that nothing changes. -/
structure SameDelivery (e e' : QueueEntry) : Prop where
  id : e'.id = e.id
  tenantId : e'.tenantId = e.tenantId
  webhookId : e'.webhookId = e.webhookId
  eventType : e'.eventType = e.eventType
  payload : e'.payload = e.payload
  maxAttempts : e'.maxAttempts = e.maxAttempts
  createdAt : e'.createdAt = e.createdAt

theorem SameDelivery.refl (e : QueueEntry) : e.SameDelivery e := ⟨rfl, rfl, rfl, rfl, rfl, rfl, rfl⟩

theorem SameDelivery.trans (h : e.SameDelivery e') (h' : e'.SameDelivery e'') :
    e.SameDelivery e'' :=
  ⟨h'.id.trans h.id, h'.tenantId.trans h.tenantId, h'.webhookId.trans h.webhookId,
    h'.eventType.trans h.eventType, h'.payload.trans h.payload, h'.maxAttempts.trans h.maxAttempts,
    h'.createdAt.trans h.createdAt⟩

/-- The row was queued with a limit of at least one attempt. -/
def IsLimited (e : QueueEntry) : Prop := 1 ≤ e.maxAttempts

theorem SameDelivery.isLimited_iff (h : e.SameDelivery e') : e'.IsLimited ↔ e.IsLimited := by
  rw [IsLimited, IsLimited, h.maxAttempts]

/-- The attempts of a row are as its status allows. -/
structure CounterFits (e : QueueEntry) : Prop where
  known : ∃ s : DeliveryStatus, e.Has s
  nonnegative : 0 ≤ e.attempts
  lt_of_pending : e.Has .pending → e.attempts < e.maxAttempts
  lt_of_processing : e.Has .processing → e.attempts < e.maxAttempts
  lt_of_delivered : e.Has .delivered → e.attempts < e.maxAttempts
  failed_iff : e.Has .failed ↔ e.attempts = e.maxAttempts

namespace CounterFits

/-- Short of the limit any status but failed will do. -/
theorem of_lt (s : DeliveryStatus) (status : e.Has s) (unfailed : s ≠ .failed)
    (nonnegative : 0 ≤ e.attempts) (lt : e.attempts < e.maxAttempts) : e.CounterFits where
  known := ⟨s, status⟩
  nonnegative := nonnegative
  lt_of_pending _ := lt
  lt_of_processing _ := lt
  lt_of_delivered _ := lt
  failed_iff := ⟨fun failed => absurd (status.eq failed) unfailed, fun eq => by omega⟩

/-- At the limit a row has failed. -/
theorem of_failed (failed : e.Has .failed) (nonnegative : 0 ≤ e.attempts)
    (eq : e.attempts = e.maxAttempts) : e.CounterFits where
  known := ⟨.failed, failed⟩
  nonnegative := nonnegative
  lt_of_pending pending := nomatch failed.eq pending
  lt_of_processing processing := nomatch failed.eq processing
  lt_of_delivered delivered := nomatch failed.eq delivered
  failed_iff := ⟨fun _ => eq, fun _ => failed⟩

end CounterFits

/-- The row is not final: it waits for an attempt or is being attempted. -/
def IsOpen (e : QueueEntry) : Prop := e.Has .pending ∨ e.Has .processing

/-- A change of a row that is not final. -/
structure Becomes (e e' : QueueEntry) : Prop where
  same : e.SameDelivery e'
  isOpen : e.IsOpen
  fits : e.IsLimited → e.CounterFits → e'.CounterFits

theorem pending_of_selects {among : QueueEntry → Bool}
    (selected : (RowChange.claim among).selects e = true) : e.Has .pending := by
  rw [RowChange.claim, Bool.and_eq_true, beq_iff_eq] at selected
  exact selected.2

/-- A pending row is claimed. -/
theorem becomes_claim {among : QueueEntry → Bool}
    (selected : (RowChange.claim among).selects e = true) (now : Instant) :
    e.Becomes ((RowChange.claim among).write now e) := by
  have pending := pending_of_selects selected
  refine ⟨⟨rfl, rfl, rfl, rfl, rfl, rfl, rfl⟩, .inl pending, fun _ fits => ?_⟩
  exact CounterFits.of_lt .processing rfl (by decide) fits.nonnegative (fits.lt_of_pending pending)

/-- A claim of a row is taken back. -/
theorem becomes_release {seconds : Float}
    (selected : (RowChange.release o seconds).selects e = true) :
    e.Becomes ((RowChange.release o seconds).write o.now e) := by
  rw [RowChange.release, Bool.and_eq_true, beq_iff_eq] at selected
  refine ⟨⟨rfl, rfl, rfl, rfl, rfl, rfl, rfl⟩, .inr selected.1, fun _ fits => ?_⟩
  exact CounterFits.of_lt .pending rfl (by decide) fits.nonnegative (fits.lt_of_processing selected.1)

/-! ## What a worker writes -/

/-- The outcome that a worker writes after an attempt on a row that it has claimed. -/
def outcomeOf (policy : RetryPolicy) (e : QueueEntry) : Except AttemptError Nat → OutcomeWrite
  | .ok _ => .delivered
  | .error error =>
    .failed (policy.afterFailure e.attempts e.maxAttempts)
      (Text.truncate Queue.maxErrorBytes error.message)

/-- An outcome fits the row that it is written to, also when the row was claimed again since the
worker claimed it. -/
theorem becomes_outcome {policy : RetryPolicy} (same : snapshot.SameDelivery e)
    (claimed : snapshot.IsLimited → 0 ≤ snapshot.attempts ∧
      snapshot.attempts < snapshot.maxAttempts)
    (result : Except AttemptError Nat) (processing : e.Has .processing) :
    e.Becomes (((snapshot.outcomeOf policy result).change o snapshot.id).write o.now e) := by
  cases result with
  | ok status =>
    refine ⟨⟨rfl, rfl, rfl, rfl, rfl, rfl, rfl⟩, .inr processing, fun _ fits => ?_⟩
    exact CounterFits.of_lt .delivered rfl (by decide) fits.nonnegative
      (fits.lt_of_processing processing)
  | error error =>
    -- the count comes from the claim, but the limit it is held against is that of the row
    have counted (limited : e.IsLimited) :
        0 ≤ min (snapshot.attempts + 1) maxCounter ∧
          min (snapshot.attempts + 1) maxCounter ≤ e.maxAttempts := by
      have bounds := claimed (same.isLimited_iff.mp limited)
      have limit := same.maxAttempts
      rw [maxCounter]
      omega
    simp only [outcomeOf, RetryPolicy.afterFailure]
    split
    case isTrue reached =>
      refine ⟨⟨rfl, rfl, rfl, rfl, rfl, rfl, rfl⟩, .inr processing, fun limited _ => ?_⟩
      have bounds := counted limited
      rw [← same.maxAttempts] at reached
      exact CounterFits.of_failed rfl bounds.1 (Int.le_antisymm bounds.2 reached)
    case isFalse short =>
      refine ⟨⟨rfl, rfl, rfl, rfl, rfl, rfl, rfl⟩, .inr processing, fun limited _ => ?_⟩
      rw [← same.maxAttempts, Int.not_le] at short
      exact CounterFits.of_lt .pending rfl (by decide) (counted limited).1 short

/-- An outcome takes the row out of processing. -/
theorem outcome_not_processing (w : OutcomeWrite) (id : Int) (e : QueueEntry) :
    ¬ ((w.change o id).write o.now e).Has .processing := by
  rcases w with _ | ⟨_ | _, _⟩
  · exact Has.not (s := .delivered) rfl (by decide)
  · exact Has.not (s := .pending) rfl (by decide)
  · exact Has.not (s := .failed) rfl (by decide)

/-- What a worker does after an attempt. -/
def settle (policy : RetryPolicy) (e : QueueEntry) :
    Except AttemptError Nat → Routine (Except DbError DeliveryOutcome)
  | .ok status => e.succeed status
  | .error error => e.fail policy error.message

theorem process_eq (policy : RetryPolicy) (e : QueueEntry) :
    e.process policy = e.attempt >>= e.settle policy := rfl

theorem isOffQueue_log (entry : LogEntry) : (Effect.log entry).IsOffQueue := trivial

/-- An attempt does not touch the queue. -/
theorem attempt_offQueue (e : QueueEntry) : e.attempt.Only Effect.IsOffQueue := by
  have lookup : (Effect.execute (.webhookById e.webhookId)).IsOffQueue :=
    show "webhooks" ≠ "delivery_queue" by decide
  refine Routine.only_read lookup fun found => ?_
  rcases found with error | _ | webhook
  · exact Routine.only_pure _
  · exact Routine.only_pure _
  · dsimp only
    rw [sendTo]
    -- a webhook of another tenant, an enabled one, a disabled one
    split
    · exact Routine.only_pure _
    · split
      · rw [Message.send]
        split
        · exact Routine.only_pure _
        · exact ⟨trivial, fun _ => Routine.only_pure _⟩
      · exact Routine.only_pure _

/-- The routine reports that the claim was lost, and does nothing else. -/
def ReportsLoss (r : Routine (Except DbError DeliveryOutcome)) : Prop :=
  ∃ entry, r = .ask (.log entry) fun _ => .done (.ok .claimLost)

theorem afterFailure_offQueue (e : QueueEntry) (reason : String) (decision : RetryDecision) :
    (e.afterFailure reason decision).Only Effect.IsOffQueue := by
  cases decision with
  | retry attempts delay =>
    exact Routine.only_log_pure isOffQueue_log _ _ _ _
  | giveUp attempts =>
    have count : (Effect.execute (.countWebhookFailure e.webhookId)).IsOffQueue :=
      show "webhooks" ≠ "delivery_queue" by decide
    refine Routine.only_read count fun counted => ?_
    cases counted with
    | error error => exact Routine.only_pure _
    | ok _ => exact Routine.only_log_pure isOffQueue_log _ _ _ _

theorem touchWebhook_offQueue (e : QueueEntry) : e.touchWebhook.Only Effect.IsOffQueue := by
  have touch : (Effect.execute (.touchWebhook e.webhookId)).IsOffQueue :=
    show "webhooks" ≠ "delivery_queue" by decide
  refine Routine.only_read touch fun touched => ?_
  cases touched with
  | ok _ => exact Routine.only_pure _
  | error error => exact Routine.only_log isOffQueue_log _ _ _

/-- After its attempt a worker writes one outcome, computed from the row as it was claimed. Then it
touches the queue no more, and when its write affects no row it only reports that. -/
theorem settle_eq (policy : RetryPolicy) (e : QueueEntry) (result : Except AttemptError Nat) :
    ∃ next, e.settle policy result =
        .ask (.execute ((e.outcomeOf policy result).statement e.id)) next ∧
      (∀ reply, (next reply).Only Effect.IsOffQueue) ∧
      ∀ reply : StoreReply, reply.anyAffected = .ok false → ReportsLoss (next reply) := by
  cases result with
  | ok status =>
    refine ⟨_, rfl, fun reply => Routine.Only.bind (Routine.only_pure _) fun written => ?_,
      fun reply lost => ?_⟩
    · rcases written with error | _ | _
      · exact Routine.only_pure _
      · exact Routine.only_log_pure isOffQueue_log _ _ _ _
      · refine (touchWebhook_offQueue e).bind fun _ => ?_
        exact Routine.only_log_pure isOffQueue_log _ _ _ _
    · change ReportsLoss (Routine.bind (.done reply.anyAffected) _)
      rw [lost]
      exact ⟨_, rfl⟩
  | error error =>
    refine ⟨_, rfl, fun reply => Routine.Only.bind (Routine.only_pure _) fun written => ?_,
      fun reply lost => ?_⟩
    · rcases written with error | _ | _
      · exact Routine.only_pure _
      · exact Routine.only_log_pure isOffQueue_log _ _ _ _
      · exact afterFailure_offQueue e _ _
    · change ReportsLoss (Routine.bind (.done reply.anyAffected) _)
      rw [lost]
      exact ⟨_, rfl⟩

end QueueEntry

end AlertRelay
