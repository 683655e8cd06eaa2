import AlertRelay.Alert.Record
import AlertRelay.Delivery.Entry
import AlertRelay.Metric.Sample
import AlertRelay.Store.Value
import AlertRelay.Webhook.Record

/-!
# Records as rows

The columns of each table, in the order in which they are selected and read, and the record that a
row holds. The first column that holds no value of its type fails the row.

## Main definitions

* `Columns.alert`, `Columns.history`, `Columns.webhook`, `Columns.entry`, `Columns.sample` — the
  columns of each table
* `AlertRecord.ofRow` and its like — the record of a row
-/

namespace AlertRelay

namespace Columns

/-- The columns of alerts. -/
def alert : List String :=
  ["id", "tenant_id", "name", "conditions", "condition_logic", "window_seconds",
   "cooldown_seconds", "severity", "channels", "enabled", "last_triggered_at", "created_at",
   "updated_at"]

/-- The columns of trigger records. -/
def history : List String :=
  ["id", "alert_id", "tenant_id", "triggered_at", "resolved_at", "status", "metadata",
   "created_at", "updated_at"]

/-- The columns of webhooks. -/
def webhook : List String :=
  ["id", "tenant_id", "name", "url", "secret", "event_types", "enabled", "last_triggered_at",
   "failure_count", "created_at", "updated_at"]

/-- The columns of queued deliveries. -/
def entry : List String :=
  ["id", "tenant_id", "webhook_id", "event_type", "payload", "attempts", "max_attempts",
   "next_retry_at", "status", "last_error", "created_at", "updated_at"]

/-- The columns of metric samples. -/
def sample : List String :=
  ["id", "tenant_id", "metric_name", "value", "recorded_at", "created_at", "updated_at"]

/-- Columns as a statement lists them. -/
def listed (columns : List String) : String := ", ".intercalate columns

end Columns

/-- The alert of a row. -/
def AlertRecord.ofRow (r : Row) : Except DbError AlertRecord := do
  let id ← r.int "id"
  let tenantId ← r.int "tenant_id"
  let name ← r.text "name"
  let conditionLogic ← r.text "condition_logic"
  let windowSeconds ← r.int "window_seconds"
  let cooldownSeconds ← r.int "cooldown_seconds"
  let severity ← r.text "severity"
  let enabled ← r.bool "enabled"
  let createdAt ← r.time "created_at"
  let updatedAt ← r.time "updated_at"
  return {
    id
    tenantId
    name
    conditions := r.json "conditions"
    conditionLogic
    windowSeconds
    cooldownSeconds
    severity
    channels := r.json "channels"
    enabled
    lastTriggeredAt := (r.get "last_triggered_at").time?
    createdAt
    updatedAt }

/-- The trigger record of a row. -/
def HistoryRecord.ofRow (r : Row) : Except DbError HistoryRecord := do
  let id ← r.int "id"
  let alertId ← r.int "alert_id"
  let tenantId ← r.int "tenant_id"
  let triggeredAt ← r.time "triggered_at"
  let status ← r.text "status"
  let createdAt ← r.time "created_at"
  let updatedAt ← r.time "updated_at"
  return {
    id
    alertId
    tenantId
    triggeredAt
    resolvedAt := (r.get "resolved_at").time?
    status
    metadata := r.json "metadata"
    createdAt
    updatedAt }

/-- The webhook of a row. -/
def WebhookRecord.ofRow (r : Row) : Except DbError WebhookRecord := do
  let id ← r.int "id"
  let tenantId ← r.int "tenant_id"
  let name ← r.text "name"
  let url ← r.text "url"
  let secret ← r.text "secret"
  let enabled ← r.bool "enabled"
  let failureCount ← r.int "failure_count"
  let createdAt ← r.time "created_at"
  let updatedAt ← r.time "updated_at"
  return {
    id
    tenantId
    name
    url
    secret
    eventTypes := r.json "event_types"
    enabled
    lastTriggeredAt := (r.get "last_triggered_at").time?
    failureCount
    createdAt
    updatedAt }

/-- The delivery of a row. -/
def QueueEntry.ofRow (r : Row) : Except DbError QueueEntry := do
  let id ← r.int "id"
  let tenantId ← r.int "tenant_id"
  let webhookId ← r.int "webhook_id"
  let eventType ← r.text "event_type"
  let attempts ← r.int "attempts"
  let maxAttempts ← r.int "max_attempts"
  let nextRetryAt ← r.time "next_retry_at"
  let status ← r.text "status"
  let createdAt ← r.time "created_at"
  let updatedAt ← r.time "updated_at"
  return {
    id
    tenantId
    webhookId
    eventType
    payload := r.json "payload"
    attempts
    maxAttempts
    nextRetryAt
    status
    lastError := (r.get "last_error").text?
    createdAt
    updatedAt }

/-- The sample of a row. -/
def MetricSample.ofRow (r : Row) : Except DbError MetricSample := do
  let id ← r.int "id"
  let tenantId ← r.int "tenant_id"
  let metricName ← r.text "metric_name"
  let value ← r.float "value"
  let recordedAt ← r.time "recorded_at"
  let createdAt ← r.time "created_at"
  let updatedAt ← r.time "updated_at"
  return { id, tenantId, metricName, value, recordedAt, createdAt, updatedAt }

/-- The count of a row. -/
def StatusCount.ofRow (r : Row) : Except DbError StatusCount := do
  let status ← r.text "status"
  let count ← r.int "count"
  return { status, count }

end AlertRelay
