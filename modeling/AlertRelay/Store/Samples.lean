import AlertRelay.Routine.Basic
import AlertRelay.Store.Columns

/-!
# Metric samples in the database

## Main definitions

* `SampleStore.record` — stores a sample
* `SampleStore.aggregate` — the samples of a window as one number
* `SampleStore.source` — the samples as a metric source
* `Database.ping` — whether the database answers
-/

namespace AlertRelay

namespace SampleStore

/-- Stores a sample of a tenant, recorded now unless a time is given. -/
def record (tenant : Int) (metricName : String) (value : Float) (time : Option Instant) :
    Routine (Except DbError MetricSample) := do
  return (← Routine.execute (.insertSample tenant metricName value time)).one MetricSample.ofRow

/-- The samples of a window as one number. -/
def aggregate (query : MetricQuery) : Routine (Except DbError Float) := do
  return (← Routine.execute (.aggregate query)).one (Row.scalar Value.float?)

/-- The samples as a metric source. -/
def source : MetricSource Routine := fun query => do
  return (← aggregate query).mapError fun e => ⟨query.metricName, e.message⟩

end SampleStore

/-- Whether the database answers. -/
def Database.ping : Routine (Except DbError Unit) := do
  return ((← Routine.execute .ping).one (Row.scalar Value.int?)).map fun _ => ()

end AlertRelay
