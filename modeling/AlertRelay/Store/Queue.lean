import AlertRelay.Routine.Basic
import AlertRelay.Store.Columns
import AlertRelay.Text.Truncate

/-!
# The delivery queue in the database

Every change of status is one statement that names the status it starts from, so that two workers
never act on the same delivery. The text of a failure is cut to the bytes that are kept.

## Main definitions

* `Queue.enqueue` — stores a delivery
* `Queue.claimDue`, `Queue.claim`, `Queue.releaseStale` — claims
* `Queue.markDelivered`, `Queue.recordFailure` — what became of a claimed delivery
* `Queue.find?`, `Queue.ofWebhook`, `Queue.countByStatus` — stored deliveries
-/

namespace AlertRelay.Queue

/-- Bytes that are kept of a failure's text. -/
def maxErrorBytes : Nat := 2000

/-- Stores a delivery: pending, without attempts, due at once. -/
def enqueue (delivery : NewDelivery) : Routine (Except DbError QueueEntry) := do
  return (← Routine.execute (.enqueue delivery)).one QueueEntry.ofRow

/-- Claims due deliveries, at most as many as given. -/
def claimDue (limit : Int) : Routine (Except DbError (List QueueEntry)) := do
  return (← Routine.execute (.claimDue limit)).all QueueEntry.ofRow

/-- Claims one delivery if it is still pending. -/
def claim (id : Int) : Routine (Except DbError (Option QueueEntry)) := do
  return (← Routine.execute (.claim id)).first? QueueEntry.ofRow

/-- Takes back the claims that are older than the span, and says how many. -/
def releaseStale (olderThan : Span) : Routine (Except DbError Nat) := do
  return (← Routine.execute (.releaseStale olderThan)).affected?

/-- Marks a claimed delivery as delivered, and says whether it was still claimed. -/
def markDelivered (id : Int) : Routine (Except DbError Bool) := do
  return (← Routine.execute (.markDelivered id)).anyAffected

/-- Writes a failed attempt to a claimed delivery, and says whether it was still claimed. -/
def recordFailure (id : Int) (decision : RetryDecision) (error : String) :
    Routine (Except DbError Bool) := do
  let kept := Text.truncate maxErrorBytes error
  return (← Routine.execute (.recordFailure id decision kept)).anyAffected

/-- The delivery of a tenant. -/
def find? (tenant id : Int) : Routine (Except DbError (Option QueueEntry)) := do
  return (← Routine.execute (.entryOfTenant tenant id)).first? QueueEntry.ofRow

/-- A page of the deliveries to a webhook, newest first. -/
def ofWebhook (tenant webhook limit offset : Int) :
    Routine (Except DbError (List QueueEntry)) := do
  return (← Routine.execute (.entriesOfWebhook tenant webhook limit offset)).all QueueEntry.ofRow

/-- How many deliveries of a tenant have each status. -/
def countByStatus (tenant : Int) : Routine (Except DbError (List StatusCount)) := do
  return (← Routine.execute (.countByStatus tenant)).all StatusCount.ofRow

end AlertRelay.Queue
