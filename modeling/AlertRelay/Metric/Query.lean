import AlertRelay.Metric.Aggregation
import AlertRelay.Time.Instant

/-!
# Metric queries

Evaluating an alert asks for aggregated metric values. A source answers queries within any monad,
so that the same evaluation runs over a database, over a fixed table, or over a source that
changes from one query to the next.

## Main definitions

* `MetricQuery` — what is asked
* `MetricError` — a failed lookup
* `MetricSource` — what answers
* `MetricTable` — fixed answers by name
-/

namespace AlertRelay

/-- A metric reduced over a window that includes both ends. -/
structure MetricQuery where
  tenantId : Int
  metricName : String
  aggregation : Aggregation
  windowStart : Instant
  windowEnd : Instant
  deriving DecidableEq, Repr

/-- A lookup failed. -/
structure MetricError where
  metricName : String
  reason : String
  deriving DecidableEq, Repr

/-- The wording of a failed lookup. -/
def MetricError.message (e : MetricError) : String :=
  s!"metric lookup failed for '{e.metricName}': {e.reason}"

/-- What answers metric queries. -/
abbrev MetricSource (m : Type → Type) := MetricQuery → m (Except MetricError Float)

/-- Fixed answers by name: a value, or the reason of a failure. -/
abbrev MetricTable := List (String × Except String Float)

namespace MetricTable

/-- The name of a metric under one aggregation. -/
def specificName (q : MetricQuery) : String := s!"{q.aggregation.name}({q.metricName})"

/-- The answer to a query: by metric and aggregation if there is one, else by metric. -/
def answer (t : MetricTable) (q : MetricQuery) : Except MetricError Float :=
  match (List.lookup (specificName q) t).or (List.lookup q.metricName t) with
  | some (.ok x) => .ok x
  | some (.error reason) => .error ⟨q.metricName, reason⟩
  | none => .error ⟨q.metricName, "no such metric"⟩

/-- The table as a source that keeps the queries it has answered. -/
def recording (t : MetricTable) : MetricSource (StateM (List MetricQuery)) :=
  fun q asked => (t.answer q, asked ++ [q])

end MetricTable

end AlertRelay
