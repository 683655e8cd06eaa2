import AlertRelay.Decode.Basic
import AlertRelay.Json.Instant

/-!
# Event envelopes

The document that webhooks receive: an event type, the tenant it belongs to, a body of data, and
when the event came about.

## Main definitions

* `TenantEvent` — an event
* `TenantEvent.json` — its document
* `TenantEvent.payload` — the document as it is queued
* `TenantEvent.decode` — reading an event from a document
-/

namespace AlertRelay

/-- An event of a tenant. -/
structure TenantEvent where
  eventType : String
  tenantId : Int
  data : Json
  timestamp : Instant

namespace TenantEvent

/-- The document of an event. -/
def json (e : TenantEvent) : Json :=
  .obj [("type", .str e.eventType), ("tenant_id", .int e.tenantId), ("data", e.data),
    ("timestamp", e.timestamp.json)]

/-- The document as it is queued. -/
def payload (e : TenantEvent) : Json := e.json.sorted

/-- The field rules of an event. -/
def rules : List (String × (Json → Option Decode.Error)) :=
  [("type", Decode.failure? Decode.string),
   ("tenant_id", Decode.failure? (Decode.integer 64)),
   ("data", Decode.failure? Decode.value),
   ("timestamp", Decode.failure? Decode.instant)]

/-- The event of the given fields. -/
def build (f : Decode.Fields) : Except Decode.Error TenantEvent := do
  let eventType ← f.required "type" Decode.string
  let tenantId ← f.required "tenant_id" (Decode.integer 64)
  let data ← f.required "data" Decode.value
  let timestamp ← f.required "timestamp" Decode.instant
  return { eventType, tenantId, data, timestamp }

/-- The event of a document. -/
def decode : Decoder TenantEvent := Decode.record "TenantEvent" rules build

end TenantEvent

end AlertRelay
