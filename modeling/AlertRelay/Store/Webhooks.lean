import AlertRelay.Routine.Basic
import AlertRelay.Store.Columns

/-!
# Webhooks in the database

## Main definitions

* `WebhookStore.create` — stores a webhook
* `WebhookStore.find?`, `WebhookStore.ofTenant`, `WebhookStore.subscribed` — stored webhooks
* `WebhookStore.touch`, `WebhookStore.countFailure` — what deliveries leave on a webhook
-/

namespace AlertRelay.WebhookStore

/-- Stores a webhook of a tenant. -/
def create (tenant : Int) (webhook : NewWebhook) : Routine (Except DbError WebhookRecord) := do
  return (← Routine.execute (.insertWebhook tenant webhook)).one WebhookRecord.ofRow

/-- The webhook with an id, whoever it belongs to. -/
def byId? (id : Int) : Routine (Except DbError (Option WebhookRecord)) := do
  return (← Routine.execute (.webhookById id)).first? WebhookRecord.ofRow

/-- The webhook of a tenant. -/
def find? (tenant id : Int) : Routine (Except DbError (Option WebhookRecord)) := do
  return (← Routine.execute (.webhookOfTenant tenant id)).first? WebhookRecord.ofRow

/-- The webhooks of a tenant, newest first. -/
def ofTenant (tenant : Int) : Routine (Except DbError (List WebhookRecord)) := do
  return (← Routine.execute (.webhooksOfTenant tenant)).all WebhookRecord.ofRow

/-- The enabled webhooks of a tenant that subscribed to an event type. -/
def subscribed (tenant : Int) (eventType : String) :
    Routine (Except DbError (List WebhookRecord)) := do
  return (← Routine.execute (.subscribedWebhooks tenant eventType)).all WebhookRecord.ofRow

/-- Enables or disables a webhook. -/
def setEnabled (tenant id : Int) (enabled : Bool) :
    Routine (Except DbError (Option WebhookRecord)) := do
  return (← Routine.execute (.setWebhookEnabled tenant id enabled)).first? WebhookRecord.ofRow

/-- Notes that a delivery was made. -/
def touch (id : Int) : Routine (Except DbError Unit) := do
  return (← Routine.execute (.touchWebhook id)).ran

/-- Counts a delivery that was given up. -/
def countFailure (id : Int) : Routine (Except DbError Unit) := do
  return (← Routine.execute (.countWebhookFailure id)).ran

end AlertRelay.WebhookStore
