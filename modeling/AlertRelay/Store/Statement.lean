import AlertRelay.Alert.Record
import AlertRelay.Delivery.Entry
import AlertRelay.Delivery.Retry
import AlertRelay.Delivery.Status
import AlertRelay.Metric.Query
import AlertRelay.Store.Columns
import AlertRelay.Webhook.Record

/-!
# Statements

Everything the relay asks of its database. A statement carries what it binds; its text and its
parameters follow from it. Instants are bound with the precision that storage keeps.

## Main definitions

* `Statement` — the statements
* `Statement.sql` — the text
* `Statement.params` — the bound parameters, in the order of their placeholders
* `Statement.verb`, `Statement.table` — what it does, and to which table
-/

namespace AlertRelay

/-- A statement with what it binds. -/
inductive Statement where
  | ping
  | insertAlert (tenant : Int) (alert : NewAlert)
  | alertOfTenant (tenant id : Int)
  | alertsOfTenant (tenant : Int)
  | enabledAlerts
  | setAlertEnabled (tenant id : Int) (enabled : Bool)
  | setAlertTriggered (id : Int) (at_ : Instant)
  | deleteAlert (tenant id : Int)
  | insertHistory (record : NewHistory)
  | historyOfAlert (tenant alert limit : Int)
  | acknowledgeHistory (tenant id : Int)
  | resolveHistory (tenant id : Int)
  | insertWebhook (tenant : Int) (webhook : NewWebhook)
  | webhookById (id : Int)
  | webhookOfTenant (tenant id : Int)
  | webhooksOfTenant (tenant : Int)
  | subscribedWebhooks (tenant : Int) (eventType : String)
  | setWebhookEnabled (tenant id : Int) (enabled : Bool)
  | touchWebhook (id : Int)
  | countWebhookFailure (id : Int)
  | enqueue (delivery : NewDelivery)
  | claimDue (limit : Int)
  | claim (id : Int)
  | releaseStale (olderThan : Span)
  | markDelivered (id : Int)
  | recordFailure (id : Int) (decision : RetryDecision) (error : String)
  | entryOfTenant (tenant id : Int)
  | entriesOfWebhook (tenant webhook limit offset : Int)
  | countByStatus (tenant : Int)
  | insertSample (tenant : Int) (metricName : String) (value : Float) (at_ : Option Instant)
  | aggregate (query : MetricQuery)

namespace Statement

/-- The reduction of the sample values in a statement. -/
def aggregateExpr : Aggregation → String
  | .avg => "AVG(value)"
  | .sum => "SUM(value)"
  | .min => "MIN(value)"
  | .max => "MAX(value)"
  | .count => "COUNT(*)"

/-- The columns of an alert as they are selected. -/
def alertColumns : String := Columns.listed Columns.alert

/-- The columns of a trigger record as they are selected. -/
def historyColumns : String := Columns.listed Columns.history

/-- The columns of a webhook as they are selected. -/
def webhookColumns : String := Columns.listed Columns.webhook

/-- The columns of a delivery as they are selected. -/
def entryColumns : String := Columns.listed Columns.entry

/-- The columns of a sample as they are selected. -/
def sampleColumns : String := Columns.listed Columns.sample

/-- The text of a statement. -/
def sql : Statement → String
  | .ping => "SELECT 1"
  | .insertAlert _ _ =>
    "INSERT INTO alerts (tenant_id, name, conditions, condition_logic, window_seconds, " ++
      "cooldown_seconds, severity, channels, enabled) " ++
      "VALUES ($1, $2, $3, $4, $5, $6, $7, $8, $9) RETURNING " ++ alertColumns
  | .alertOfTenant _ _ =>
    "SELECT " ++ alertColumns ++ " FROM alerts WHERE id = $1 AND tenant_id = $2"
  | .alertsOfTenant _ =>
    "SELECT " ++ alertColumns ++ " FROM alerts WHERE tenant_id = $1 ORDER BY id ASC"
  | .enabledAlerts => "SELECT " ++ alertColumns ++ " FROM alerts WHERE enabled ORDER BY id ASC"
  | .setAlertEnabled _ _ _ =>
    "UPDATE alerts SET enabled = $3 WHERE id = $1 AND tenant_id = $2 " ++
      "AND (NOT $3 OR jsonb_array_length(channels) > 0) RETURNING " ++ alertColumns
  | .setAlertTriggered _ _ => "UPDATE alerts SET last_triggered_at = $2 WHERE id = $1"
  | .deleteAlert _ _ => "DELETE FROM alerts WHERE id = $1 AND tenant_id = $2"
  | .insertHistory _ =>
    "INSERT INTO alert_history (alert_id, tenant_id, triggered_at, status, metadata) " ++
      "VALUES ($1, $2, $3, $4, $5) RETURNING " ++ historyColumns
  | .historyOfAlert _ _ _ =>
    "SELECT " ++ historyColumns ++ " FROM alert_history WHERE alert_id = $1 AND tenant_id = $2 " ++
      "ORDER BY triggered_at DESC, id DESC LIMIT $3"
  | .acknowledgeHistory _ _ =>
    "UPDATE alert_history SET status = $3 WHERE id = $1 AND tenant_id = $2 AND status = $4 " ++
      "RETURNING " ++ historyColumns
  | .resolveHistory _ _ =>
    "UPDATE alert_history SET status = $3, resolved_at = NOW() " ++
      "WHERE id = $1 AND tenant_id = $2 AND status <> $3 RETURNING " ++ historyColumns
  | .insertWebhook _ _ =>
    "INSERT INTO webhooks (tenant_id, name, url, secret, event_types, enabled) " ++
      "VALUES ($1, $2, $3, $4, $5, $6) RETURNING " ++ webhookColumns
  | .webhookById _ => "SELECT " ++ webhookColumns ++ " FROM webhooks WHERE id = $1"
  | .webhookOfTenant _ _ =>
    "SELECT " ++ webhookColumns ++ " FROM webhooks WHERE id = $1 AND tenant_id = $2"
  | .webhooksOfTenant _ =>
    "SELECT " ++ webhookColumns ++ " FROM webhooks WHERE tenant_id = $1 " ++
      "ORDER BY created_at DESC, id DESC"
  | .subscribedWebhooks _ _ =>
    "SELECT " ++ webhookColumns ++ " FROM webhooks WHERE tenant_id = $1 AND enabled " ++
      "AND (event_types ? $2 OR event_types ? $3) ORDER BY id ASC"
  | .setWebhookEnabled _ _ _ =>
    "UPDATE webhooks SET enabled = $3 WHERE id = $1 AND tenant_id = $2 RETURNING " ++
      webhookColumns
  | .touchWebhook _ => "UPDATE webhooks SET last_triggered_at = NOW() WHERE id = $1"
  | .countWebhookFailure _ =>
    "UPDATE webhooks SET failure_count = failure_count + 1 WHERE id = $1"
  | .enqueue _ =>
    "INSERT INTO delivery_queue (tenant_id, webhook_id, event_type, payload, attempts, " ++
      "max_attempts, next_retry_at, status) VALUES ($1, $2, $3, $4, 0, $5, NOW(), $6) " ++
      "RETURNING " ++ entryColumns
  | .claimDue _ =>
    "UPDATE delivery_queue SET status = $2 WHERE id IN ( SELECT id FROM delivery_queue " ++
      "WHERE status = $3 AND next_retry_at <= NOW() ORDER BY next_retry_at ASC, id ASC " ++
      "LIMIT $1 FOR UPDATE SKIP LOCKED ) AND status = $3 RETURNING " ++ entryColumns
  | .claim _ =>
    "UPDATE delivery_queue SET status = $2 WHERE id = $1 AND status = $3 RETURNING " ++
      entryColumns
  | .releaseStale _ =>
    "UPDATE delivery_queue SET status = $1, next_retry_at = NOW() " ++
      "WHERE status = $2 AND updated_at < NOW() - make_interval(secs => $3)"
  | .markDelivered _ =>
    "UPDATE delivery_queue SET status = $2, last_error = NULL WHERE id = $1 AND status = $3"
  | .recordFailure _ (.retry _ _) _ =>
    "UPDATE delivery_queue SET status = $2, attempts = $3, last_error = $4, " ++
      "next_retry_at = NOW() + make_interval(secs => $5) WHERE id = $1 AND status = $6"
  | .recordFailure _ (.giveUp _) _ =>
    "UPDATE delivery_queue SET status = $2, attempts = $3, last_error = $4 " ++
      "WHERE id = $1 AND status = $5"
  | .entryOfTenant _ _ =>
    "SELECT " ++ entryColumns ++ " FROM delivery_queue WHERE id = $1 AND tenant_id = $2"
  | .entriesOfWebhook _ _ _ _ =>
    "SELECT " ++ entryColumns ++ " FROM delivery_queue WHERE webhook_id = $1 AND tenant_id = $2 " ++
      "ORDER BY created_at DESC, id DESC LIMIT $3 OFFSET $4"
  | .countByStatus _ =>
    "SELECT status, COUNT(*) AS count FROM delivery_queue " ++
      "WHERE tenant_id = $1 GROUP BY status ORDER BY status"
  | .insertSample _ _ _ _ =>
    "INSERT INTO metric_samples (tenant_id, metric_name, value, recorded_at) " ++
      "VALUES ($1, $2, $3, COALESCE($4, NOW())) RETURNING " ++ sampleColumns
  | .aggregate q =>
    "SELECT COALESCE(" ++ aggregateExpr q.aggregation ++
      ", 0)::DOUBLE PRECISION FROM metric_samples WHERE tenant_id = $1 AND metric_name = $2 " ++
      "AND recorded_at >= $3 AND recorded_at <= $4"

/-- A bound instant. -/
def boundTime (t : Instant) : Value := .time t.toMicros

/-- A bound status of a delivery. -/
def boundStatus (s : DeliveryStatus) : Value := .text s.name

/-- A bound status of a trigger record. -/
def boundHistory (s : HistoryStatus) : Value := .text s.name

/-- The bound parameters. -/
def params : Statement → List Value
  | .ping => []
  | .insertAlert tenant a =>
    [.int tenant, .text a.name, .json (Condition.listJson a.conditions), .text a.logic.name,
     .int a.windowSeconds, .int a.cooldownSeconds, .text a.severity,
     .json (Channel.listJson a.channels), .bool a.isEnabled]
  | .alertOfTenant tenant id => [.int id, .int tenant]
  | .alertsOfTenant tenant => [.int tenant]
  | .enabledAlerts => []
  | .setAlertEnabled tenant id enabled => [.int id, .int tenant, .bool enabled]
  | .setAlertTriggered id t => [.int id, boundTime t]
  | .deleteAlert tenant id => [.int id, .int tenant]
  | .insertHistory h =>
    [.int h.alertId, .int h.tenantId, boundTime h.triggeredAt, boundHistory .triggered,
     .json h.metadata]
  | .historyOfAlert tenant alert limit => [.int alert, .int tenant, .int limit]
  | .acknowledgeHistory tenant id =>
    [.int id, .int tenant, boundHistory .acknowledged, boundHistory .triggered]
  | .resolveHistory tenant id => [.int id, .int tenant, boundHistory .resolved]
  | .insertWebhook tenant w =>
    [.int tenant, .text w.name, .text w.url, .text w.secret,
     .json (.arr (w.eventTypes.map .str)), .bool w.isEnabled]
  | .webhookById id => [.int id]
  | .webhookOfTenant tenant id => [.int id, .int tenant]
  | .webhooksOfTenant tenant => [.int tenant]
  | .subscribedWebhooks tenant eventType => [.int tenant, .text eventType, .text wildcardEvent]
  | .setWebhookEnabled tenant id enabled => [.int id, .int tenant, .bool enabled]
  | .touchWebhook id => [.int id]
  | .countWebhookFailure id => [.int id]
  | .enqueue d =>
    [.int d.tenantId, .int d.webhookId, .text d.eventType, .json d.payload,
     .int (d.maxAttempts.getD defaultMaxAttempts), boundStatus .pending]
  | .claimDue limit => [.int limit, boundStatus .processing, boundStatus .pending]
  | .claim id => [.int id, boundStatus .processing, boundStatus .pending]
  | .releaseStale olderThan =>
    [boundStatus .pending, boundStatus .processing, .float olderThan.toSeconds]
  | .markDelivered id => [.int id, boundStatus .delivered, boundStatus .processing]
  | .recordFailure id (.retry attempts delay) error =>
    [.int id, boundStatus .pending, .int attempts, .text error, .float delay.toSeconds,
     boundStatus .processing]
  | .recordFailure id (.giveUp attempts) error =>
    [.int id, boundStatus .failed, .int attempts, .text error, boundStatus .processing]
  | .entryOfTenant tenant id => [.int id, .int tenant]
  | .entriesOfWebhook tenant webhook limit offset =>
    [.int webhook, .int tenant, .int limit, .int offset]
  | .countByStatus tenant => [.int tenant]
  | .insertSample tenant metricName value t =>
    [.int tenant, .text metricName, .float value, (t.map boundTime).getD .null]
  | .aggregate q =>
    [.int q.tenantId, .text q.metricName, boundTime q.windowStart, boundTime q.windowEnd]

/-- What a statement does. -/
def verb : Statement → String
  | .insertAlert _ _ | .insertHistory _ | .insertWebhook _ _ | .enqueue _
  | .insertSample _ _ _ _ => "INSERT"
  | .setAlertEnabled _ _ _ | .setAlertTriggered _ _ | .acknowledgeHistory _ _
  | .resolveHistory _ _ | .setWebhookEnabled _ _ _ | .touchWebhook _ | .countWebhookFailure _
  | .claimDue _ | .claim _ | .releaseStale _ | .markDelivered _ | .recordFailure _ _ _ =>
    "UPDATE"
  | .deleteAlert _ _ => "DELETE"
  | _ => "SELECT"

/-- The table that a statement works on; a ping has none. -/
def table : Statement → String
  | .ping => ""
  | .insertAlert _ _ | .alertOfTenant _ _ | .alertsOfTenant _ | .enabledAlerts
  | .setAlertEnabled _ _ _ | .setAlertTriggered _ _ | .deleteAlert _ _ => "alerts"
  | .insertHistory _ | .historyOfAlert _ _ _ | .acknowledgeHistory _ _ | .resolveHistory _ _ =>
    "alert_history"
  | .insertWebhook _ _ | .webhookById _ | .webhookOfTenant _ _ | .webhooksOfTenant _
  | .subscribedWebhooks _ _ | .setWebhookEnabled _ _ _ | .touchWebhook _
  | .countWebhookFailure _ => "webhooks"
  | .insertSample _ _ _ _ | .aggregate _ => "metric_samples"
  | _ => "delivery_queue"

end Statement

end AlertRelay
