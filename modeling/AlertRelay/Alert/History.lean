import AlertRelay.Alert.Problem
import AlertRelay.Decode.Basic
import AlertRelay.Json.Instant

/-!
# Alert history

Every trigger of an alert is recorded with the evaluation that caused it. A record is triggered
until someone acknowledges or resolves it.

## Main definitions

* `HistoryStatus` — the statuses of a record
* `HistoryRecord` — a stored record
* `NewHistory` — a record to be stored
-/

namespace AlertRelay

/-- The status of a trigger record. -/
inductive HistoryStatus where
  | triggered
  | acknowledged
  | resolved
  deriving DecidableEq, Repr

namespace HistoryStatus

/-- How a status is written. -/
def name : HistoryStatus → String
  | .triggered => "triggered"
  | .acknowledged => "acknowledged"
  | .resolved => "resolved"

/-- The statuses by name. -/
def variants : List (String × HistoryStatus) :=
  [.triggered, .acknowledged, .resolved].map fun s => (s.name, s)

/-- The status that a text denotes. -/
def parse (s : String) : Except DomainError HistoryStatus :=
  match variants.lookup s with
  | some status => .ok status
  | none => .error (.invalid (.unknownHistoryStatus s))

/-- The status of a document. -/
def decode : Decoder HistoryStatus := Decode.variant variants

/-- The document of a status. -/
def json (s : HistoryStatus) : Json := .str s.name

theorem parse_name (s : HistoryStatus) : parse s.name = .ok s := by
  cases s <;> rfl

end HistoryStatus

/-- A stored trigger record. -/
structure HistoryRecord where
  id : Int
  alertId : Int
  tenantId : Int
  triggeredAt : Instant
  resolvedAt : Option Instant
  status : String
  metadata : Json
  createdAt : Instant
  updatedAt : Instant

/-- The document of a trigger record. -/
def HistoryRecord.json (h : HistoryRecord) : Json :=
  .obj [("id", .int h.id), ("alert_id", .int h.alertId), ("tenant_id", .int h.tenantId),
    ("triggered_at", h.triggeredAt.json), ("resolved_at", .ofOption Instant.json h.resolvedAt),
    ("status", .str h.status), ("metadata", h.metadata), ("created_at", h.createdAt.json),
    ("updated_at", h.updatedAt.json)]

/-- A trigger record to be stored. -/
structure NewHistory where
  alertId : Int
  tenantId : Int
  triggeredAt : Instant
  metadata : Json

end AlertRelay
