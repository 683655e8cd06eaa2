import AlertRelay.Alert.Record
import AlertRelay.Event.Envelope

/-!
# Announcing a trigger

## Main definitions

* `Trigger` — the trigger that is announced
* `Trigger.event` — the event that announces it
-/

namespace AlertRelay

/-- The event type of announcements. -/
def alertTriggered : String := "alert.triggered"

/-- The trigger that is announced. The record's id is absent when the record could not be saved. -/
structure Trigger where
  historyId : Option Int
  triggeredAt : Instant
  metadata : Json

/-- The event that announces the trigger of an alert. -/
def Trigger.event (t : Trigger) (a : AlertRecord) : TenantEvent :=
  { eventType := alertTriggered
    tenantId := a.tenantId
    data := Json.sorted <| .obj
      [("alert", .obj [("id", .int a.id), ("name", .str a.name), ("severity", .str a.severity)]),
       ("history", .obj [("id", .ofOption .int t.historyId),
         ("triggered_at", t.triggeredAt.json), ("metadata", t.metadata)])]
    timestamp := t.triggeredAt }

end AlertRelay
