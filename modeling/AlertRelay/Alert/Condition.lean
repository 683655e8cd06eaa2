import AlertRelay.Alert.Operator
import AlertRelay.Metric.Aggregation

/-!
# Conditions

A condition compares an aggregated metric with a threshold.

## Main definitions

* `Condition` — metric, aggregation, operator and threshold
* `Condition.isMet` — a value satisfies the condition
* `Condition.decode` / `Condition.json` — reading it from a document and writing it
-/

namespace AlertRelay

/-- One threshold check. -/
structure Condition where
  metricName : String
  aggregation : Aggregation
  operator : Operator
  threshold : Float
  deriving DecidableEq

namespace Condition

/-- The value satisfies the condition. -/
def isMet (c : Condition) (value : Float) : Bool := c.operator.compare value c.threshold

/-- The field rules of a condition. -/
def rules : List (String × (Json → Option Decode.Error)) :=
  [("metric_name", Decode.failure? Decode.string),
   ("aggregation", Decode.failure? Aggregation.decode),
   ("operator", Decode.failure? Operator.decode),
   ("threshold", Decode.failure? Decode.float)]

/-- The condition of the given fields. -/
def build (f : Decode.Fields) : Except Decode.Error Condition := do
  let metricName ← f.required "metric_name" Decode.string
  let aggregation ← f.required "aggregation" Aggregation.decode
  let operator ← f.required "operator" Operator.decode
  let threshold ← f.required "threshold" Decode.float
  return { metricName, aggregation, operator, threshold }

/-- The condition of a document. -/
def decode : Decoder Condition := Decode.record "Condition" rules build

/-- The document of a condition. -/
def json (c : Condition) : Json :=
  .obj [("metric_name", .str c.metricName), ("aggregation", c.aggregation.json),
    ("operator", c.operator.json), ("threshold", .ofFloat c.threshold)]

/-- The document of a list of conditions. -/
def listJson (cs : List Condition) : Json := .arr (cs.map json)

/-- A condition with an unknown operator is never met. -/
theorem isMet_eq_false_of_unknown {c : Condition} (h : c.operator.isKnown = false) (value : Float) :
    c.isMet value = false := by
  rw [isMet]
  cases ho : c.operator <;> simp_all [Operator.isKnown, Operator.compare]

end Condition

end AlertRelay
