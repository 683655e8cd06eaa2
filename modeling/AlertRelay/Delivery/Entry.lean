import AlertRelay.Json.Instant

/-!
# Queued deliveries

## Main definitions

* `QueueEntry` — a stored delivery
* `NewDelivery` — a delivery to be queued
* `StatusCount` — how many deliveries have a status
-/

namespace AlertRelay

/-- A stored delivery. -/
structure QueueEntry where
  id : Int
  tenantId : Int
  webhookId : Int
  eventType : String
  payload : Json
  attempts : Int
  maxAttempts : Int
  nextRetryAt : Instant
  status : String
  lastError : Option String
  createdAt : Instant
  updatedAt : Instant

/-- The document of a delivery. -/
def QueueEntry.json (e : QueueEntry) : Json :=
  .obj [("id", .int e.id), ("tenant_id", .int e.tenantId), ("webhook_id", .int e.webhookId),
    ("event_type", .str e.eventType), ("payload", e.payload), ("attempts", .int e.attempts),
    ("max_attempts", .int e.maxAttempts), ("next_retry_at", e.nextRetryAt.json),
    ("status", .str e.status), ("last_error", .ofOption .str e.lastError),
    ("created_at", e.createdAt.json), ("updated_at", e.updatedAt.json)]

/-- A delivery to be queued. The limit of attempts may be left open. -/
structure NewDelivery where
  tenantId : Int
  webhookId : Int
  eventType : String
  payload : Json
  maxAttempts : Option Int

/-- How many deliveries have a status. -/
structure StatusCount where
  status : String
  count : Int

/-- The document of a count. -/
def StatusCount.json (c : StatusCount) : Json :=
  .obj [("status", .str c.status), ("count", .int c.count)]

end AlertRelay
