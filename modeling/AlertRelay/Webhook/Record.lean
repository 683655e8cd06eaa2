import AlertRelay.Decode.Basic
import AlertRelay.Json.Instant

/-!
# Webhooks

A webhook is a tenant's address for events, with the event types it subscribed to and the secret its
deliveries are signed with. The secret is part of no document.

## Main definitions

* `WebhookRecord` — a stored webhook
* `WebhookRecord.isSubscribedTo` — whether it subscribed to an event type
* `NewWebhook` — a webhook to be stored
-/

namespace AlertRelay

/-- The subscription that matches every event type. -/
def wildcardEvent : String := "*"

/-- A stored webhook. -/
structure WebhookRecord where
  id : Int
  tenantId : Int
  name : String
  url : String
  secret : String
  eventTypes : Json
  enabled : Bool
  lastTriggeredAt : Option Instant
  failureCount : Int
  createdAt : Instant
  updatedAt : Instant

namespace WebhookRecord

/-- The document names the event type, or every type. -/
def names (eventType : String) : Json → Bool
  | .str s => s == eventType || s == wildcardEvent
  | _ => false

/-- The webhook subscribed to the event type. -/
def isSubscribedTo (w : WebhookRecord) (eventType : String) : Bool :=
  match w.eventTypes with
  | .arr items => items.any (names eventType)
  | _ => false

/-- The document of a webhook, without its secret. -/
def json (w : WebhookRecord) : Json :=
  .obj [("id", .int w.id), ("tenant_id", .int w.tenantId), ("name", .str w.name),
    ("url", .str w.url), ("event_types", w.eventTypes), ("enabled", .bool w.enabled),
    ("last_triggered_at", .ofOption Instant.json w.lastTriggeredAt),
    ("failure_count", .int w.failureCount), ("created_at", w.createdAt.json),
    ("updated_at", w.updatedAt.json)]

/-- The document does not depend on the secret. -/
theorem json_secret (w : WebhookRecord) (secret : String) : { w with secret }.json = w.json := rfl

end WebhookRecord

/-- A webhook to be stored. Whether it is enabled may be left open. -/
structure NewWebhook where
  name : String
  url : String
  secret : String
  eventTypes : List String
  enabled : Option Bool

namespace NewWebhook

/-- The field rules of a new webhook. -/
def rules : List (String × (Json → Option Decode.Error)) :=
  [("name", Decode.failure? Decode.string),
   ("url", Decode.failure? Decode.string),
   ("secret", Decode.failure? Decode.string),
   ("event_types", Decode.failure? (Decode.list Decode.string)),
   ("enabled", Decode.failure? (Decode.option Decode.boolean))]

/-- The new webhook of the given fields. -/
def build (f : Decode.Fields) : Except Decode.Error NewWebhook := do
  let name ← f.required "name" Decode.string
  let url ← f.required "url" Decode.string
  let secret ← f.required "secret" Decode.string
  let eventTypes ← f.required "event_types" (Decode.list Decode.string)
  let enabled ← f.optional "enabled" Decode.boolean
  return { name, url, secret, eventTypes, enabled }

/-- The new webhook of a document. -/
def decode : Decoder NewWebhook := Decode.record "CreateWebhook" rules build

/-- A new webhook is enabled unless it says otherwise. -/
def isEnabled (w : NewWebhook) : Bool := w.enabled.getD true

end NewWebhook

end AlertRelay
