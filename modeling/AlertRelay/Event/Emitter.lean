import AlertRelay.Event.Envelope
import AlertRelay.Store.Queue
import AlertRelay.Store.Webhooks
import AlertRelay.Text.Blank

/-!
# Emitting tenant events

An event is queued once for every enabled webhook of the tenant that subscribed to its type. The
first statement that fails ends the work; what was queued before stays queued.

## Main definitions

* `EmitError` — why an event was not queued for all subscribers
* `TenantEvent.emit` — queues an event, and gives the ids of the deliveries
-/

namespace AlertRelay

/-- Why an event was not queued for all subscribers. -/
inductive EmitError where
  | emptyEventType
  | database (error : DbError)
  deriving DecidableEq

/-- The wording of an error. -/
def EmitError.message : EmitError → String
  | .emptyEventType => "event type must not be empty"
  | .database e => "database error: " ++ e.message

namespace TenantEvent

/-- The delivery of an event to a webhook. -/
def delivery (e : TenantEvent) (maxAttempts : Option Int) (webhook : WebhookRecord) :
    NewDelivery :=
  { tenantId := e.tenantId
    webhookId := webhook.id
    eventType := e.eventType
    payload := e.payload
    maxAttempts }

/-- Queues the event for webhooks in order, up to the first failure. -/
def enqueueFor (e : TenantEvent) (maxAttempts : Option Int) :
    List WebhookRecord → Routine (Except DbError (List Int))
  | [] => pure (.ok [])
  | w :: rest => do
    match ← Queue.enqueue (e.delivery maxAttempts w) with
    | .error error => return .error error
    | .ok entry =>
      match ← e.enqueueFor maxAttempts rest with
      | .error error => return .error error
      | .ok ids => return .ok (entry.id :: ids)

/-- Reports how many subscribers an event was queued for. -/
def logQueued (e : TenantEvent) (subscribers : Nat) : Routine Unit :=
  Routine.log .debug "Tenant event queued"
    [LogEntry.number "tenant_id" e.tenantId, ("event_type", e.eventType),
     LogEntry.number "subscribers" subscribers]

/-- Queues the event for every subscriber, with a limit of attempts if one is given. -/
def emit (e : TenantEvent) (maxAttempts : Option Int) :
    Routine (Except EmitError (List Int)) :=
  if Text.allBlank e.eventType then pure (.error .emptyEventType)
  else do
    match ← WebhookStore.subscribed e.tenantId e.eventType with
    | .error error => return .error (.database error)
    | .ok webhooks =>
      match ← e.enqueueFor maxAttempts webhooks with
      | .error error => return .error (.database error)
      | .ok ids =>
        e.logQueued ids.length
        return .ok ids

end TenantEvent

end AlertRelay
