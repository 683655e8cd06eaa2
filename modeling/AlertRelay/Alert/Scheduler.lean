import AlertRelay.Alert.Evaluation
import AlertRelay.Alert.Notifier
import AlertRelay.Store.Alerts

/-!
# Scheduling alerts

Each tick evaluates every enabled alert of every tenant. An alert that triggers is recorded, its
last trigger is set, and it is announced; when writing one of the first two fails, that is
reported and the announcement goes out all the same. An alert that fails does not stop the others.

## Main definitions

* `AlertOutcome`, `AlertRunError` — what became of one alert
* `AlertRecord.process` — gates, evaluates, records and announces one alert
* `Scheduler.tick` — processes every enabled alert
* `Scheduler.run` — the loop of ticks
-/

namespace AlertRelay

/-- What became of one alert on one tick. -/
inductive AlertOutcome where
  | coolingDown
  | notTriggered
  | triggered
  deriving DecidableEq, Repr

/-- Why processing an alert stopped early. -/
inductive AlertRunError where
  | definition (error : DomainError)
  | metric (error : MetricError)
  | notify (error : NotifyError)
  deriving DecidableEq

/-- The wording of an error. -/
def AlertRunError.message : AlertRunError → String
  | .definition e => "invalid alert definition: " ++ e.message
  | .metric e => e.message
  | .notify e => "notification failed: " ++ e.message

namespace AlertRecord

/-- Records a trigger, and gives the id of the record unless that failed. -/
def recordTrigger (a : AlertRecord) (now : Instant) (metadata : Json) : Routine (Option Int) := do
  let stored ← AlertStore.createHistory
    { alertId := a.id, tenantId := a.tenantId, triggeredAt := now, metadata }
  match stored with
  | .ok record => return some record.id
  | .error e =>
    Routine.log .error "Failed to save alert history"
      [LogEntry.number "alert_id" a.id, ("error", e.message)]
    return none

/-- Sets the last trigger of the alert. -/
def stampTrigger (a : AlertRecord) (now : Instant) : Routine Unit := do
  match ← AlertStore.setTriggered a.id now with
  | .ok () => return ()
  | .error e =>
    Routine.log .error "Failed to update alert last_triggered_at"
      [LogEntry.number "alert_id" a.id, ("error", e.message)]

/-- Reports a trigger. -/
def logTriggered (a : AlertRecord) (historyId : Option Int) : Routine Unit :=
  Routine.log .info "Alert triggered" <|
    [LogEntry.number "alert_id" a.id, LogEntry.number "tenant_id" a.tenantId,
     ("severity", a.severity)] ++ (historyId.map (LogEntry.number "history_id")).toList

/-- Records, stamps and announces a trigger. -/
def fire (a : AlertRecord) (now : Instant) (metadata : Json) :
    Routine (Except AlertRunError AlertOutcome) := do
  let historyId ← a.recordTrigger now metadata
  a.stampTrigger now
  a.logTriggered historyId
  match ← a.notify { historyId, triggeredAt := now, metadata } with
  | .error e => return .error (.notify e)
  | .ok _ => return .ok .triggered

/-- Goes on from an evaluation. -/
def conclude (a : AlertRecord) (now : Instant) (evaluation : Evaluation) :
    Routine (Except AlertRunError AlertOutcome) := do
  if evaluation.hasUnknownOperator then
    Routine.log .warn "Alert has an unknown operator" [LogEntry.number "alert_id" a.id]
  if evaluation.triggered then a.fire now evaluation.metadata
  else return .ok .notTriggered

/-- Gates, evaluates and, if it triggers, records and announces one alert. -/
def process (source : MetricSource Routine) (a : AlertRecord) (now : Instant) :
    Routine (Except AlertRunError AlertOutcome) :=
  match a.rule with
  | .error e => pure (.error (.definition e))
  | .ok rule => do
    match ← rule.evaluateIfDue source now with
    | .error (.overflow o) => .halt o
    | .error (.metric e) => return .error (.metric e)
    | .ok none => return .ok .coolingDown
    | .ok (some evaluation) => a.conclude now evaluation

end AlertRecord

namespace Scheduler

/-- Counts of one tick. -/
structure Summary where
  evaluated : Nat
  triggered : Nat
  errors : Nat
  deriving DecidableEq, Repr

/-- Nothing counted yet. -/
def Summary.empty : Summary := ⟨0, 0, 0⟩

/-- Counts what became of one alert. -/
def Summary.count (s : Summary) : Except AlertRunError AlertOutcome → Summary
  | .ok .coolingDown => s
  | .ok .notTriggered => { s with evaluated := s.evaluated + 1 }
  | .ok .triggered => { s with evaluated := s.evaluated + 1, triggered := s.triggered + 1 }
  | .error _ => { s with errors := s.errors + 1 }

/-- Reports an alert that failed. -/
def logFailure (a : AlertRecord) : Except AlertRunError AlertOutcome → Routine Unit
  | .ok _ => pure ()
  | .error e =>
    Routine.log .error "Alert processing failed"
      [LogEntry.number "alert_id" a.id, LogEntry.number "tenant_id" a.tenantId,
       ("error", e.message)]

/-- Processes alerts in order, each at a new reading of the clock. -/
def processAll (source : MetricSource Routine) (s : Summary) :
    List AlertRecord → Routine Summary
  | [] => pure s
  | a :: rest => do
    let now ← Routine.now
    let outcome ← a.process source now
    logFailure a outcome
    processAll source (s.count outcome) rest

/-- Evaluates every enabled alert once. -/
def tick (source : MetricSource Routine) : Routine (Except DbError Summary) := do
  match ← AlertStore.enabled with
  | .error e => return .error e
  | .ok alerts =>
    let summary ← processAll source .empty alerts
    Routine.log .debug "Alert tick complete"
      [LogEntry.number "alerts" alerts.length, LogEntry.number "evaluated" summary.evaluated,
       LogEntry.number "triggered" summary.triggered, LogEntry.number "errors" summary.errors]
    return .ok summary

/-- Ticks one after another; one that fails is reported. -/
def ticks (source : MetricSource Routine) : Nat → Routine Unit
  | 0 => pure ()
  | n + 1 => do
    match ← tick source with
    | .ok _ => pure ()
    | .error e => Routine.log .error "Failed to list enabled alerts" [("error", e.message)]
    ticks source n

/-- The loop that is stopped after a number of ticks. -/
def run (source : MetricSource Routine) (interval : Span) (n : Nat) : Routine Unit := do
  Routine.log .info "Alert scheduler started"
    [LogEntry.number "interval_secs" interval.seconds]
  ticks source n
  Routine.log .info "Alert scheduler cancelled" []

end Scheduler

end AlertRelay
