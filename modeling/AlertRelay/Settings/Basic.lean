import AlertRelay.Delivery.Retry
import AlertRelay.Settings.LogFormat
import AlertRelay.Text.Blank
import AlertRelay.Text.Integer

/-!
# Settings

The relay is configured by named variables, all but the database address with a default. A
variable is trimmed of blanks and then read as its type. After all variables have been read, the
values are checked against each other; the first violated check is reported.

## Main definitions

* `Settings` — the configuration
* `SettingsError` — why there is none
* `Settings.load` — the configuration of a set of variables
-/

namespace AlertRelay

/-- What a variable's value violates. -/
inductive SettingsRule where
  | integer (problem : Text.IntegerProblem)
  | logFormat (lowered : String)
  | positive
  | withinCeiling
  | beyondBatch
  deriving DecidableEq, Repr

/-- Why there is no configuration. -/
inductive SettingsError where
  | missing (key : String)
  | invalid (key value : String) (rule : SettingsRule)
  deriving DecidableEq, Repr

/-- The wording of a violated rule. -/
def SettingsRule.message : SettingsRule → String
  | .integer problem => problem.message
  | .logFormat lowered => LogFormat.unknownMessage lowered
  | .positive => "must be positive"
  | .withinCeiling => "must not exceed DELIVERY_BACKOFF_MAX_SECS"
  | .beyondBatch => "must exceed DELIVERY_TIMEOUT_SECS * DELIVERY_BATCH_SIZE"

/-- The wording of an error. -/
def SettingsError.message : SettingsError → String
  | .missing key => s!"{key} must be set"
  | .invalid key value rule => s!"{key} has invalid value '{value}': {rule.message}"

/-- How deliveries are made. -/
structure DeliverySettings where
  tickInterval : Span
  batchSize : Int
  requestTimeout : Span
  retryPolicy : RetryPolicy
  staleAfter : Span
  deriving DecidableEq

/-- The defaults of deliveries. -/
def DeliverySettings.standard : DeliverySettings :=
  { tickInterval := Span.ofSeconds 5
    batchSize := 10
    requestTimeout := Span.ofSeconds 10
    retryPolicy := RetryPolicy.standard
    staleAfter := Span.ofSeconds 300 }

/-- The configuration of the relay. -/
structure Settings where
  databaseUrl : String
  maxConnections : Nat
  alertTick : Span
  delivery : DeliverySettings
  shutdownTimeout : Span
  logFormat : LogFormat
  deriving DecidableEq

namespace Settings

/-- The value of a variable by name. -/
abbrev Variables := String → Option String

/-- An integer variable between bounds. -/
def integer (vars : Variables) (key : String) (low high default : Int) :
    Except SettingsError Int :=
  match vars key with
  | none => .ok default
  | some raw =>
    match Text.readInteger low high (Text.trim raw) with
    | .ok n => .ok n
    | .error problem => .error (.invalid key raw (.integer problem))

/-- A variable that counts seconds. -/
def secondsOf (vars : Variables) (key : String) (default : Int) : Except SettingsError Nat :=
  (integer vars key 0 0xFFFF_FFFF_FFFF_FFFF default).map Int.toNat

/-- The log format variable. -/
def logFormatOf (vars : Variables) : Except SettingsError LogFormat :=
  match vars "LOG_FORMAT" with
  | none => .ok .text
  | some raw =>
    match LogFormat.parse (Text.trim raw) with
    | .ok f => .ok f
    | .error lowered => .error (.invalid "LOG_FORMAT" raw (.logFormat lowered))

/-- The address of the database, which must be given and not blank. -/
def databaseUrlOf (vars : Variables) : Except SettingsError String :=
  match vars "DATABASE_URL" with
  | some url => if Text.allBlank url then .error (.missing "DATABASE_URL") else .ok url
  | none => .error (.missing "DATABASE_URL")

/-- The variables as they were read, before they are checked against each other. -/
structure Draft where
  databaseUrl : String
  maxConnections : Nat
  alertTick : Nat
  deliveryTick : Nat
  batchSize : Int
  timeout : Nat
  backoffBase : Nat
  backoffMax : Nat
  staleAfter : Nat
  shutdownTimeout : Nat
  logFormat : LogFormat
  deriving DecidableEq

/-- Reads every variable. -/
def read (vars : Variables) : Except SettingsError Draft := do
  let databaseUrl ← databaseUrlOf vars
  let maxConnections ← integer vars "DATABASE_MAX_CONNECTIONS" 0 0xFFFF_FFFF 20
  let alertTick ← secondsOf vars "ALERT_TICK_SECS" 30
  let deliveryTick ← secondsOf vars "DELIVERY_TICK_SECS" 5
  let batchSize ←
    integer vars "DELIVERY_BATCH_SIZE" (-0x8000_0000_0000_0000) 0x7FFF_FFFF_FFFF_FFFF 10
  let timeout ← secondsOf vars "DELIVERY_TIMEOUT_SECS" 10
  let backoffBase ← secondsOf vars "DELIVERY_BACKOFF_BASE_SECS" 30
  let backoffMax ← secondsOf vars "DELIVERY_BACKOFF_MAX_SECS" 3600
  let staleAfter ← secondsOf vars "DELIVERY_STALE_AFTER_SECS" 300
  let shutdownTimeout ← secondsOf vars "SHUTDOWN_TIMEOUT_SECS" 30
  let logFormat ← logFormatOf vars
  return { databaseUrl, maxConnections := maxConnections.toNat, alertTick, deliveryTick, batchSize,
           timeout, backoffBase, backoffMax, staleAfter, shutdownTimeout, logFormat }

/-- The time that a whole batch may take, held in 64 bits. -/
def Draft.worstCase (d : Draft) : Nat := min (d.timeout * d.batchSize.natAbs) 0xFFFF_FFFF_FFFF_FFFF

/-- A variable that breaks a rule. -/
def broken (holds : Bool) (key value : String) (rule : SettingsRule) : Option SettingsError :=
  if holds then none else some (.invalid key value rule)

/-- The checks in order, each present when it fails. -/
def Draft.checks (d : Draft) : List (Option SettingsError) :=
  [broken (0 < d.maxConnections) "DATABASE_MAX_CONNECTIONS" (toString d.maxConnections) .positive,
   broken (0 < d.alertTick) "ALERT_TICK_SECS" (toString d.alertTick) .positive,
   broken (0 < d.deliveryTick) "DELIVERY_TICK_SECS" (toString d.deliveryTick) .positive,
   broken (0 < d.timeout) "DELIVERY_TIMEOUT_SECS" (toString d.timeout) .positive,
   broken (0 < d.batchSize) "DELIVERY_BATCH_SIZE" (toString d.batchSize) .positive,
   broken (d.backoffBase ≤ d.backoffMax) "DELIVERY_BACKOFF_BASE_SECS" (toString d.backoffBase)
     .withinCeiling,
   broken (d.worstCase < d.staleAfter) "DELIVERY_STALE_AFTER_SECS" (toString d.staleAfter)
     .beyondBatch]

/-- The configuration of variables that passed the checks. -/
def Draft.settings (d : Draft) : Settings :=
  { databaseUrl := d.databaseUrl
    maxConnections := d.maxConnections
    alertTick := Span.ofSeconds d.alertTick
    delivery :=
      { tickInterval := Span.ofSeconds d.deliveryTick
        batchSize := d.batchSize
        requestTimeout := Span.ofSeconds d.timeout
        retryPolicy := RetryPolicy.of (Span.ofSeconds d.backoffBase) (Span.ofSeconds d.backoffMax)
        staleAfter := Span.ofSeconds d.staleAfter }
    shutdownTimeout := Span.ofSeconds d.shutdownTimeout
    logFormat := d.logFormat }

/-- The configuration of a set of variables. -/
def load (vars : Variables) : Except SettingsError Settings := do
  -- every variable is read before the first check
  let draft ← read vars
  match draft.checks.findSome? id with
  | some e => .error e
  | none => .ok draft.settings

end Settings

end AlertRelay
