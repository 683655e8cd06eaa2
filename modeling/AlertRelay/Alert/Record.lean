import AlertRelay.Alert.Definition
import AlertRelay.Alert.History
import AlertRelay.Alert.Rule

/-!
# Stored alerts

A stored alert keeps its conditions and channels as documents, so that one malformed alert does not
hide the others; they are decoded when they are needed.

## Main definitions

* `AlertRecord` — a stored alert
* `AlertRecord.rule` / `AlertRecord.channels` — its decoded parts
* `NewAlert` — an alert to be stored, and the checks on it
-/

namespace AlertRelay

/-- A stored alert. -/
structure AlertRecord where
  id : Int
  tenantId : Int
  name : String
  conditions : Json
  conditionLogic : String
  windowSeconds : Int
  cooldownSeconds : Int
  severity : String
  channels : Json
  enabled : Bool
  lastTriggeredAt : Option Instant
  createdAt : Instant
  updatedAt : Instant

namespace AlertRecord

/-- The rule of the alert. -/
def rule (a : AlertRecord) : Except DomainError Rule :=
  match Decode.list Condition.decode a.conditions with
  | .error e => .error (.invalid (.malformedConditions a.id e))
  | .ok conditions =>
    match Logic.parse a.conditionLogic with
    | .error e => .error e
    | .ok logic =>
      .ok
        { tenantId := a.tenantId
          conditions
          logic
          windowSeconds := a.windowSeconds
          cooldownSeconds := a.cooldownSeconds
          lastTriggeredAt := a.lastTriggeredAt }

/-- The channels of the alert. -/
def decodedChannels (a : AlertRecord) : Except DomainError (List Channel) :=
  match Decode.list Channel.decode a.channels with
  | .error e => .error (.invalid (.malformedChannels a.id e))
  | .ok channels => .ok channels

/-- The document of an alert. -/
def json (a : AlertRecord) : Json :=
  .obj [("id", .int a.id), ("tenant_id", .int a.tenantId), ("name", .str a.name),
    ("conditions", a.conditions), ("condition_logic", .str a.conditionLogic),
    ("window_seconds", .int a.windowSeconds), ("cooldown_seconds", .int a.cooldownSeconds),
    ("severity", .str a.severity), ("channels", a.channels), ("enabled", .bool a.enabled),
    ("last_triggered_at", .ofOption Instant.json a.lastTriggeredAt),
    ("created_at", a.createdAt.json), ("updated_at", a.updatedAt.json)]

end AlertRecord

/-- An alert to be stored. Whether it is enabled may be left open. -/
structure NewAlert where
  name : String
  conditions : List Condition
  logic : Logic
  windowSeconds : Int
  cooldownSeconds : Int
  severity : String
  channels : List Channel
  enabled : Option Bool

namespace NewAlert

/-- The field rules of a new alert. -/
def rules : List (String × (Json → Option Decode.Error)) :=
  [("name", Decode.failure? Decode.string),
   ("conditions", Decode.failure? (Decode.list Condition.decode)),
   ("condition_logic", Decode.failure? Logic.decode),
   ("window_seconds", Decode.failure? (Decode.integer 32)),
   ("cooldown_seconds", Decode.failure? (Decode.integer 32)),
   ("severity", Decode.failure? Decode.string),
   ("channels", Decode.failure? (Decode.list Channel.decode)),
   ("enabled", Decode.failure? (Decode.option Decode.boolean))]

/-- The new alert of the given fields. -/
def build (f : Decode.Fields) : Except Decode.Error NewAlert := do
  let name ← f.required "name" Decode.string
  let conditions ← f.required "conditions" (Decode.list Condition.decode)
  let logic ← f.required "condition_logic" Logic.decode
  let windowSeconds ← f.required "window_seconds" (Decode.integer 32)
  let cooldownSeconds ← f.required "cooldown_seconds" (Decode.integer 32)
  let severity ← f.required "severity" Decode.string
  let channels ← f.required "channels" (Decode.list Channel.decode)
  let enabled ← f.optional "enabled" Decode.boolean
  return { name, conditions, logic, windowSeconds, cooldownSeconds, severity, channels, enabled }

/-- The new alert of a document. -/
def decode : Decoder NewAlert := Decode.record "CreateAlert" rules build

/-- A new alert is enabled unless it says otherwise. -/
def isEnabled (a : NewAlert) : Bool := a.enabled.getD true

/-- The checked fields. -/
def definition (a : NewAlert) : Definition :=
  { name := a.name
    conditions := a.conditions
    windowSeconds := a.windowSeconds
    cooldownSeconds := a.cooldownSeconds
    severity := a.severity
    channels := a.channels
    enabled := a.isEnabled }

end NewAlert

end AlertRelay
