import AlertRelay.Decode.Error

/-!
# Domain errors

The errors that the relay's own rules raise, with their wording.

## Main definitions

* `Invalid` — why a value is refused
* `DomainError` — the errors
* `DomainError.message` — their wording
-/

namespace AlertRelay

/-- Why a value is refused. -/
inductive Invalid where
  | blankName
  | noConditions
  | blankMetricName (operator : String)
  | thresholdNotFinite
  | windowNotPositive (seconds : Int)
  | cooldownNotPositive (seconds : Int)
  | unknownSeverity (severity : String)
  | noChannels
  | unknownLogic (text : String)
  | unknownHistoryStatus (text : String)
  | unknownDeliveryStatus (text : String)
  | malformedConditions (alert : Int) (error : Decode.Error)
  | malformedChannels (alert : Int) (error : Decode.Error)
  | other (text : String)
  deriving DecidableEq

/-- The severities an alert may have. -/
def severities : List String := ["info", "warning", "critical"]

/-- The list of severities as a message shows it. -/
def severitiesShown : String := "[" ++ ", ".intercalate (severities.map Text.quoted) ++ "]"

/-- The wording of a refusal. -/
def Invalid.message : Invalid → String
  | .blankName => "alert name must not be empty"
  | .noConditions => "alert must have at least one condition"
  | .blankMetricName operator =>
    s!"condition metric_name must not be empty (operator '{operator}')"
  | .thresholdNotFinite => "condition thresholds must be finite numbers"
  | .windowNotPositive seconds => s!"window_seconds must be positive, got {seconds}"
  | .cooldownNotPositive seconds => s!"cooldown_seconds must be positive, got {seconds}"
  | .unknownSeverity severity =>
    s!"severity must be one of {severitiesShown}, got '{severity}'"
  | .noChannels => "an enabled alert must have at least one channel"
  | .unknownLogic text => s!"condition_logic must be AND or OR, got '{text}'"
  | .unknownHistoryStatus text => s!"unknown alert history status '{text}'"
  | .unknownDeliveryStatus text => s!"unknown delivery status '{text}'"
  | .malformedConditions alert error =>
    s!"alert {alert} has malformed conditions: {error.message}"
  | .malformedChannels alert error => s!"alert {alert} has malformed channels: {error.message}"
  | .other text => text

/-- An error of the relay's own rules. -/
inductive DomainError where
  | notFound (entity : String) (id : Int)
  | invalid (reason : Invalid)
  | conflict (text : String)
  | internal (text : String)
  deriving DecidableEq

/-- The wording of an error. -/
def DomainError.message : DomainError → String
  | .notFound entity id => s!"Entity not found: {entity} with id {id}"
  | .invalid reason => "Validation failed: " ++ reason.message
  | .conflict text => "Conflict: " ++ text
  | .internal text => "Internal error: " ++ text

/-- The name of an error's kind. -/
def DomainError.kind : DomainError → String
  | .notFound _ _ => "NotFound"
  | .invalid _ => "Validation"
  | .conflict _ => "Conflict"
  | .internal _ => "Internal"

end AlertRelay
