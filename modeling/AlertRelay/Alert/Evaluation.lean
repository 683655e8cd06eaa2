import AlertRelay.Alert.Rule
import AlertRelay.Json.Instant
import AlertRelay.Metric.Query

/-!
# Evaluating a rule

Every condition of a rule is looked up over the window that ends now, in order and without short
cuts; the first failing lookup ends the evaluation. The results are combined by the rule's logic.

## Main definitions

* `Observation` — one condition with the value found for it
* `Evaluation` — the outcome for the whole rule, and `Evaluation.metadata`, its stored form
* `Rule.evaluate` — the evaluation at an instant
* `Rule.evaluateIfDue` — the same behind the cooldown gate
-/

namespace AlertRelay

/-- One condition with the value found for it. -/
structure Observation where
  metricName : String
  aggregation : Aggregation
  operator : String
  threshold : Float
  value : Float
  met : Bool
  unknownOperator : Bool
  deriving DecidableEq

namespace Observation

/-- A condition under a value. -/
def ofCondition (c : Condition) (value : Float) : Observation :=
  { metricName := c.metricName
    aggregation := c.aggregation
    operator := c.operator.name
    threshold := c.threshold
    value
    met := c.isMet value
    unknownOperator := !c.operator.isKnown }

/-- The document of an observation; the mark of an unknown operator is written only when set. -/
def json (o : Observation) : Json :=
  .obj ([("metric_name", .str o.metricName), ("aggregation", o.aggregation.json),
    ("operator", .str o.operator), ("threshold", .ofFloat o.threshold),
    ("value", .ofFloat o.value), ("met", .bool o.met)] ++
    if o.unknownOperator then [("unknown_operator", .bool true)] else [])

end Observation

/-- The outcome of evaluating one rule at one instant. -/
structure Evaluation where
  triggered : Bool
  logic : Logic
  windowSeconds : Int
  windowStart : Instant
  windowEnd : Instant
  observations : List Observation
  deriving DecidableEq

namespace Evaluation

/-- Some operator was not recognised. -/
def hasUnknownOperator (e : Evaluation) : Bool := e.observations.any (·.unknownOperator)

/-- Whether each condition was met. -/
def met (e : Evaluation) : List Bool := e.observations.map (·.met)

/-- The document of an evaluation. -/
def json (e : Evaluation) : Json :=
  .obj [("triggered", .bool e.triggered), ("condition_logic", e.logic.json),
    ("window_seconds", .int e.windowSeconds),
    ("window_start", e.windowStart.json), ("window_end", e.windowEnd.json),
    ("conditions", .arr (e.observations.map Observation.json))]

/-- The document as it is stored with the trigger. -/
def metadata (e : Evaluation) : Json := e.json.sorted

end Evaluation

/-- Why there is no evaluation. -/
inductive EvaluationError where
  | overflow (o : Instant.Overflow)
  | metric (e : MetricError)
  deriving DecidableEq, Repr

namespace Rule

variable {m : Type → Type} [Monad m]

/-- The query of a condition over a window. -/
def query (r : Rule) (start now : Instant) (c : Condition) : MetricQuery :=
  { tenantId := r.tenantId
    metricName := c.metricName
    aggregation := c.aggregation
    windowStart := start
    windowEnd := now }

/-- The observations of the conditions in order, up to the first failing lookup. -/
def observe (source : MetricSource m) (r : Rule) (start now : Instant) :
    List Condition → m (Except MetricError (List Observation))
  | [] => pure (.ok [])
  | c :: rest => do
    match ← source (r.query start now c) with
    | .error e => pure (.error e)
    | .ok value =>
      match ← observe source r start now rest with
      | .error e => pure (.error e)
      | .ok observations => pure (.ok (.ofCondition c value :: observations))

/-- The evaluation that the observations give. -/
def conclude (r : Rule) (start now : Instant) (observations : List Observation) : Evaluation :=
  { triggered := r.logic.combine (observations.map (·.met))
    logic := r.logic
    windowSeconds := r.windowSeconds
    windowStart := start
    windowEnd := now
    observations }

/-- The rule evaluated over the window that ends at `now`. -/
def evaluate (source : MetricSource m) (r : Rule) (now : Instant) :
    m (Except EvaluationError Evaluation) :=
  match now.earlier r.windowSeconds with
  | .error o => pure (.error (.overflow o))
  | .ok start => do
    match ← r.observe source start now r.conditions with
    | .error e => pure (.error (.metric e))
    | .ok observations => pure (.ok (r.conclude start now observations))

/-- The rule evaluated unless it is cooling down; then nothing is looked up. -/
def evaluateIfDue (source : MetricSource m) (r : Rule) (now : Instant) :
    m (Except EvaluationError (Option Evaluation)) :=
  match r.isDue now with
  | .error o => pure (.error (.overflow o))
  | .ok false => pure (.ok none)
  | .ok true => do
    match ← r.evaluate source now with
    | .error e => pure (.error e)
    | .ok evaluation => pure (.ok (some evaluation))

end Rule

end AlertRelay
