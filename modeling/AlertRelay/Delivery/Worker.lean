import AlertRelay.Json.Printer
import AlertRelay.Settings.Basic
import AlertRelay.Store.Queue
import AlertRelay.Store.Webhooks
import AlertRelay.Webhook.Sender

/-!
# Delivering

Each tick takes back stale claims, claims a batch of due deliveries and attempts each of them once.
What became of an attempt is written by a statement that only acts on a claimed delivery, so a claim
that was lost in the meantime changes nothing.

## Main definitions

* `AttemptError` — why an attempt failed
* `QueueEntry.attempt` — one attempt
* `DeliveryOutcome` — what became of a delivery
* `QueueEntry.process` — one attempt with its outcome written
* `Worker.tick` — one pass over the queue
* `Worker.run` — the loop of ticks
-/

namespace AlertRelay

/-- Why an attempt failed. -/
inductive AttemptError where
  | webhookMissing (id : Int)
  | webhookDisabled (id : Int)
  | send (error : SendError)
  | database (error : DbError)
  deriving DecidableEq

/-- The wording of an error. -/
def AttemptError.message : AttemptError → String
  | .webhookMissing id => s!"webhook {id} no longer exists"
  | .webhookDisabled id => s!"webhook {id} is disabled"
  | .send e => e.message
  | .database e => "database error: " ++ e.message

/-- What became of a delivery. -/
inductive DeliveryOutcome where
  | delivered
  | retrying
  | failed
  | claimLost
  deriving DecidableEq, Repr

namespace QueueEntry

/-- The message that the delivery sends to a webhook. -/
def message (e : QueueEntry) (webhook : WebhookRecord) : Message :=
  { url := webhook.url
    secret := webhook.secret
    eventType := e.eventType
    deliveryId := e.id
    body := e.payload.text }

/-- Sends the delivery to the webhook that was found for it, which must be enabled and belong to the
same tenant. -/
def sendTo (e : QueueEntry) : Option WebhookRecord → Routine (Except AttemptError Nat)
  | none => pure (.error (.webhookMissing e.webhookId))
  | some webhook =>
    -- a webhook of another tenant is as good as none
    if webhook.tenantId ≠ e.tenantId then pure (.error (.webhookMissing e.webhookId))
    else if webhook.enabled then do
      return (← (e.message webhook).send).mapError .send
    else pure (.error (.webhookDisabled webhook.id))

/-- One attempt: the status of the answer, or why it failed. -/
def attempt (e : QueueEntry) : Routine (Except AttemptError Nat) := do
  match ← WebhookStore.byId? e.webhookId with
  | .error error => return .error (.database error)
  | .ok webhook => e.sendTo webhook

/-- The fields that name a delivery. -/
def fields (e : QueueEntry) : List (String × String) :=
  [LogEntry.number "delivery_id" e.id, LogEntry.number "webhook_id" e.webhookId]

/-- Notes on the webhook that a delivery was made. -/
def touchWebhook (e : QueueEntry) : Routine Unit := do
  match ← WebhookStore.touch e.webhookId with
  | .ok () => return ()
  | .error error =>
    Routine.log .warn "Failed to update webhook last_triggered_at"
      (e.fields ++ [("error", error.message)])

/-- Writes that an attempt succeeded. -/
def succeed (e : QueueEntry) (status : Nat) : Routine (Except DbError DeliveryOutcome) := do
  match ← Queue.markDelivered e.id with
  | .error error => return .error error
  | .ok false =>
    Routine.log .warn "Delivered entry was no longer claimed"
      (e.fields ++ [LogEntry.number "status" status])
    return .ok .claimLost
  | .ok true =>
    e.touchWebhook
    Routine.log .info "Webhook delivered" (e.fields ++ [LogEntry.number "status" status])
    return .ok .delivered

/-- Goes on after a failed attempt was written. -/
def afterFailure (e : QueueEntry) (reason : String) :
    RetryDecision → Routine (Except DbError DeliveryOutcome)
  | .retry attempts delay => do
    Routine.log .warn "Webhook delivery failed, will retry"
      (e.fields ++ [LogEntry.number "attempts" attempts,
        LogEntry.number "retry_in_secs" delay.seconds, ("error", reason)])
    return .ok .retrying
  | .giveUp attempts => do
    match ← WebhookStore.countFailure e.webhookId with
    | .error error => return .error error
    | .ok () =>
      Routine.log .error "Webhook delivery failed permanently"
        (e.fields ++ [LogEntry.number "attempts" attempts, ("error", reason)])
      return .ok .failed

/-- Writes that an attempt failed. -/
def fail (policy : RetryPolicy) (e : QueueEntry) (reason : String) :
    Routine (Except DbError DeliveryOutcome) := do
  let decision := policy.afterFailure e.attempts e.maxAttempts
  match ← Queue.recordFailure e.id decision reason with
  | .error error => return .error error
  | .ok false =>
    Routine.log .warn "Failed entry was no longer claimed" (e.fields ++ [("error", reason)])
    return .ok .claimLost
  | .ok true => e.afterFailure reason decision

/-- Attempts a claimed delivery and writes the outcome. -/
def process (policy : RetryPolicy) (e : QueueEntry) :
    Routine (Except DbError DeliveryOutcome) := do
  match ← e.attempt with
  | .ok status => e.succeed status
  | .error error => e.fail policy error.message

end QueueEntry

namespace Worker

/-- Counts of one tick. -/
structure Summary where
  released : Nat
  claimed : Nat
  delivered : Nat
  retried : Nat
  failed : Nat
  claimLost : Nat
  deriving DecidableEq, Repr

/-- Counts what became of one delivery; one whose outcome could not be written is not counted. -/
def Summary.count (s : Summary) : Except DbError DeliveryOutcome → Summary
  | .ok .delivered => { s with delivered := s.delivered + 1 }
  | .ok .retrying => { s with retried := s.retried + 1 }
  | .ok .failed => { s with failed := s.failed + 1 }
  | .ok .claimLost => { s with claimLost := s.claimLost + 1 }
  | .error _ => s

/-- Reports a delivery whose outcome could not be written. -/
def logUnwritten (e : QueueEntry) : Except DbError DeliveryOutcome → Routine Unit
  | .ok _ => pure ()
  | .error error =>
    Routine.log .error "Failed to record delivery outcome"
      [LogEntry.number "delivery_id" e.id, ("error", error.message)]

/-- Processes deliveries in order. -/
def processAll (policy : RetryPolicy) (s : Summary) : List QueueEntry → Routine Summary
  | [] => pure s
  | e :: rest => do
    let outcome ← e.process policy
    logUnwritten e outcome
    processAll policy (s.count outcome) rest

/-- Reports claims that were taken back. -/
def logReleased (released : Nat) : Routine Unit :=
  if 0 < released then
    Routine.log .warn "Released stale delivery claims" [LogEntry.number "count" released]
  else pure ()

/-- Reports the end of a tick. -/
def logComplete (s : Summary) : Routine Unit :=
  if 0 < s.claimed then
    Routine.log .info "Delivery tick complete"
      [LogEntry.number "claimed" s.claimed, LogEntry.number "delivered" s.delivered,
       LogEntry.number "retried" s.retried, LogEntry.number "failed" s.failed,
       LogEntry.number "claim_lost" s.claimLost]
  else Routine.log .debug "No deliveries due" []

/-- One pass over the queue. -/
def tick (settings : DeliverySettings) : Routine (Except DbError Summary) := do
  match ← Queue.releaseStale settings.staleAfter with
  | .error e => return .error e
  | .ok released =>
    logReleased released
    match ← Queue.claimDue settings.batchSize with
    | .error e => return .error e
    | .ok entries =>
      let summary ← processAll settings.retryPolicy ⟨released, entries.length, 0, 0, 0, 0⟩ entries
      logComplete summary
      return .ok summary

/-- Ticks one after another; one that fails is reported. -/
def ticks (settings : DeliverySettings) : Nat → Routine Unit
  | 0 => pure ()
  | n + 1 => do
    match ← tick settings with
    | .ok _ => pure ()
    | .error e => Routine.log .error "Delivery tick failed" [("error", e.message)]
    ticks settings n

/-- The loop that is stopped after a number of ticks. -/
def run (settings : DeliverySettings) (n : Nat) : Routine Unit := do
  Routine.log .info "Delivery worker started"
    [LogEntry.number "interval_secs" settings.tickInterval.seconds,
     LogEntry.number "batch_size" settings.batchSize]
  ticks settings n
  Routine.log .info "Delivery worker cancelled" []

end Worker

end AlertRelay
