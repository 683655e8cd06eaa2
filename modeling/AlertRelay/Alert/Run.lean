import AlertRelay.Alert.Evaluation

/-!
# Runs of a rule

A run evaluates one rule at a sequence of instants, each with its own metric source. A step that
triggers sets the rule's last trigger to the instant of the step; every other step leaves it.

## Main definitions

* `Rule.StepResult` — what one step found
* `Rule.step` — one step: its result, the lookups it made and the rule afterwards
* `Rule.run` — the steps in turn
-/

namespace AlertRelay.Rule

/-- What one step of a run found. -/
inductive StepResult where
  | coolingDown
  | evaluated (e : Evaluation)
  | failed (e : MetricError)
  deriving DecidableEq

/-- The step triggered the alert. -/
def StepResult.triggers : StepResult → Bool
  | .evaluated e => e.triggered
  | _ => false

/-- A source whose answers may depend on the queries made before. -/
abbrev Source := MetricSource (StateM (List MetricQuery))

/-- The result of one step with the queries it made. -/
def stepResult (source : Source) (r : Rule) (now : Instant) :
    Except Instant.Overflow (StepResult × List MetricQuery) :=
  match r.evaluateIfDue source now [] with
  | (.error (.overflow o), _) => .error o
  | (.error (.metric e), asked) => .ok (.failed e, asked)
  | (.ok none, asked) => .ok (.coolingDown, asked)
  | (.ok (some e), asked) => .ok (.evaluated e, asked)

/-- The rule after a step at `now`. -/
def afterStep (r : Rule) (now : Instant) (result : StepResult) : Rule :=
  if result.triggers then { r with lastTriggeredAt := some now } else r

/-- One step of a run. -/
structure Step where
  now : Instant
  source : Source

/-- What a step of a run leaves behind. -/
structure StepRecord where
  result : StepResult
  asked : List MetricQuery
  lastTriggeredAt : Option Instant

/-- The steps in turn, each on the rule that the one before left. -/
def run (r : Rule) : List Step → Except Instant.Overflow (List StepRecord)
  | [] => .ok []
  | s :: rest => do
    let (result, asked) ← r.stepResult s.source s.now
    let next := r.afterStep s.now result
    let records ← next.run rest
    return ⟨result, asked, next.lastTriggeredAt⟩ :: records

end AlertRelay.Rule
