import AlertRelay.Json.Instant

/-!
# Metric samples

## Main definitions

* `MetricSample` — a stored sample of a metric
-/

namespace AlertRelay

/-- A stored sample of a metric. -/
structure MetricSample where
  id : Int
  tenantId : Int
  metricName : String
  value : Float
  recordedAt : Instant
  createdAt : Instant
  updatedAt : Instant

/-- The document of a sample. -/
def MetricSample.json (s : MetricSample) : Json :=
  .obj [("id", .int s.id), ("tenant_id", .int s.tenantId), ("metric_name", .str s.metricName),
    ("value", .ofFloat s.value), ("recorded_at", s.recordedAt.json),
    ("created_at", s.createdAt.json), ("updated_at", s.updatedAt.json)]

end AlertRelay
