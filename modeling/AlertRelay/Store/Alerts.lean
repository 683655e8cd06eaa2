import AlertRelay.Alert.Record
import AlertRelay.Routine.Basic
import AlertRelay.Store.Columns

/-!
# Alerts in the database

Alerts and their trigger records. An alert is checked before it is stored, so that an invalid one
never reaches the database.

## Main definitions

* `AlertStore.create` — checks and stores an alert
* `AlertStore.find?`, `AlertStore.ofTenant`, `AlertStore.enabled` — stored alerts
* `AlertStore.createHistory` and its like — trigger records
* `StoreError` — why an alert was not stored
-/

namespace AlertRelay

/-- Why an alert was not stored. -/
inductive StoreError where
  | invalid (error : DomainError)
  | database (error : DbError)
  deriving DecidableEq

/-- The wording of an error. -/
def StoreError.message : StoreError → String
  | .invalid e => e.message
  | .database e => "Database error: " ++ e.message

namespace AlertStore

/-- Stores an alert of a tenant, unless its definition is invalid. -/
def create (tenant : Int) (alert : NewAlert) : Routine (Except StoreError AlertRecord) :=
  match alert.definition.check with
  | some reason => pure (.error (.invalid (.invalid reason)))
  | none => do
    let reply ← Routine.execute (.insertAlert tenant alert)
    return (reply.one AlertRecord.ofRow).mapError .database

/-- The alert of a tenant. -/
def find? (tenant id : Int) : Routine (Except DbError (Option AlertRecord)) := do
  return (← Routine.execute (.alertOfTenant tenant id)).first? AlertRecord.ofRow

/-- The alerts of a tenant, oldest first. -/
def ofTenant (tenant : Int) : Routine (Except DbError (List AlertRecord)) := do
  return (← Routine.execute (.alertsOfTenant tenant)).all AlertRecord.ofRow

/-- The enabled alerts of all tenants, oldest first. -/
def enabled : Routine (Except DbError (List AlertRecord)) := do
  return (← Routine.execute .enabledAlerts).all AlertRecord.ofRow

/-- Enables or disables an alert. There is none when the tenant has no such alert, or when an alert
without channels is to be enabled. -/
def setEnabled (tenant id : Int) (enabled : Bool) :
    Routine (Except DbError (Option AlertRecord)) := do
  return (← Routine.execute (.setAlertEnabled tenant id enabled)).first? AlertRecord.ofRow

/-- Records when an alert last fired. -/
def setTriggered (id : Int) (time : Instant) : Routine (Except DbError Unit) := do
  return (← Routine.execute (.setAlertTriggered id time)).ran

/-- Deletes an alert of a tenant, and says whether there was one. -/
def delete (tenant id : Int) : Routine (Except DbError Bool) := do
  return (← Routine.execute (.deleteAlert tenant id)).anyAffected

/-- Stores a trigger record. -/
def createHistory (record : NewHistory) : Routine (Except DbError HistoryRecord) := do
  return (← Routine.execute (.insertHistory record)).one HistoryRecord.ofRow

/-- The trigger records of an alert, newest first. -/
def history (tenant alert limit : Int) : Routine (Except DbError (List HistoryRecord)) := do
  return (← Routine.execute (.historyOfAlert tenant alert limit)).all HistoryRecord.ofRow

/-- Acknowledges a record that is still triggered. -/
def acknowledge (tenant id : Int) : Routine (Except DbError (Option HistoryRecord)) := do
  return (← Routine.execute (.acknowledgeHistory tenant id)).first? HistoryRecord.ofRow

/-- Resolves a record that is not resolved yet. -/
def resolve (tenant id : Int) : Routine (Except DbError (Option HistoryRecord)) := do
  return (← Routine.execute (.resolveHistory tenant id)).first? HistoryRecord.ofRow

end AlertStore

end AlertRelay
