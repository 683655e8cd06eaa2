import AlertRelay.Alert.Channel
import AlertRelay.Alert.Condition
import AlertRelay.Alert.Problem
import AlertRelay.Text.Blank

/-!
# Alert definitions

What an alert must satisfy before it is stored. Unknown operators and unsupported channels are
accepted: the first never hold, and the second are reported when the alert fires.

## Main definitions

* `Definition` — the checked fields of an alert
* `Definition.violations` — every invariant with its verdict, in the order of the checks
* `Definition.check` — the first violated invariant, if any

## Main results

* `check_eq_none_iff` — a definition passes exactly when it violates nothing
-/

namespace AlertRelay

/-- The fields of an alert that are checked before it is stored. -/
structure Definition where
  name : String
  conditions : List Condition
  windowSeconds : Int
  cooldownSeconds : Int
  severity : String
  channels : List Channel
  enabled : Bool

namespace Definition

/-- The first condition whose metric name is blank. -/
def blankMetric? (d : Definition) : Option Condition :=
  d.conditions.find? fun c => Text.allBlank c.metricName

/-- Every invariant, present when it is violated, in the order of the checks. -/
def violations (d : Definition) : List (Option Invalid) :=
  [if Text.allBlank d.name then some .blankName else none,
   if d.conditions.isEmpty then some .noConditions else none,
   d.blankMetric?.map fun c => .blankMetricName c.operator.name,
   if d.conditions.any (fun c => !c.threshold.isFinite) then some .thresholdNotFinite else none,
   if d.windowSeconds ≤ 0 then some (.windowNotPositive d.windowSeconds) else none,
   if d.cooldownSeconds ≤ 0 then some (.cooldownNotPositive d.cooldownSeconds) else none,
   if d.severity ∈ severities then none else some (.unknownSeverity d.severity),
   if d.enabled && d.channels.isEmpty then some .noChannels else none]

/-- The first violated invariant. -/
def check (d : Definition) : Option Invalid := d.violations.findSome? id

/-- A definition passes exactly when it violates nothing. -/
theorem check_eq_none_iff (d : Definition) : d.check = none ↔ ∀ v ∈ d.violations, v = none := by
  simp [check]

end Definition

end AlertRelay
