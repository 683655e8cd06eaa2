import AlertRelay.Event.Announcement
import AlertRelay.Store.Queue
import AlertRelay.Store.Webhooks

/-!
# Announcing an alert on its channels

One delivery is queued for every webhook channel of the alert. A channel that fails does not stop
the others; the failures are reported together at the end.

## Main definitions

* `ChannelError` — why a channel failed
* `NotifyError` — why an announcement is incomplete
* `AlertRecord.dispatch` — queues the announcement on one channel
* `AlertRecord.notify` — queues it on all channels
-/

namespace AlertRelay

/-- Why a channel failed. -/
inductive ChannelError where
  | webhookNotFound (id : Int)
  | webhookDisabled (id : Int)
  | unsupported
  | database (error : DbError)
  deriving DecidableEq

/-- The wording of an error. -/
def ChannelError.message : ChannelError → String
  | .webhookNotFound id => s!"webhook {id} not found"
  | .webhookDisabled id => s!"webhook {id} is disabled"
  | .unsupported => "unsupported channel type"
  | .database e => "database error: " ++ e.message

/-- Why an announcement is incomplete. -/
inductive NotifyError where
  | invalidChannels (error : DomainError)
  | channelsFailed (failed total : Nat) (failures : List (Channel × ChannelError))
  deriving DecidableEq

/-- The wording of an error. -/
def NotifyError.message : NotifyError → String
  | .invalidChannels e => "invalid channels: " ++ e.message
  | .channelsFailed failed total _ => s!"{failed} of {total} channels failed"

/-- What became of the channels: the ids of the queued deliveries, and the failures. -/
structure Dispatched where
  queued : List Int
  failures : List (Channel × ChannelError)

namespace AlertRecord

/-- Queues a payload for a webhook, which must be enabled and belong to the tenant of the alert. -/
def dispatchTo (a : AlertRecord) (payload : Json) (webhookId : Int) :
    Routine (Except ChannelError Int) := do
  match ← WebhookStore.find? a.tenantId webhookId with
  | .error e => return .error (.database e)
  | .ok none => return .error (.webhookNotFound webhookId)
  | .ok (some webhook) =>
    if webhook.enabled then
      let queued ← Queue.enqueue
        { tenantId := a.tenantId
          webhookId
          eventType := alertTriggered
          payload
          maxAttempts := none }
      match queued with
      | .error e => return .error (.database e)
      | .ok entry => return .ok entry.id
    else return .error (.webhookDisabled webhookId)

/-- Queues a payload on one channel. -/
def dispatch (a : AlertRecord) (payload : Json) : Channel → Routine (Except ChannelError Int)
  | .webhook id => a.dispatchTo payload id
  | .unsupported => pure (.error .unsupported)

/-- Reports a channel that failed. -/
def logSkipped (a : AlertRecord) (channel : Channel) (error : ChannelError) : Routine Unit :=
  Routine.log .warn "Alert channel skipped"
    [LogEntry.number "alert_id" a.id, ("channel", channel.kind), ("error", error.message)]

/-- Queues a payload on every channel in order. -/
def dispatchAll (a : AlertRecord) (payload : Json) : List Channel → Routine Dispatched
  | [] => pure ⟨[], []⟩
  | c :: rest => do
    match ← a.dispatch payload c with
    | .ok id =>
      let others ← a.dispatchAll payload rest
      return { others with queued := id :: others.queued }
    | .error e =>
      a.logSkipped c e
      let others ← a.dispatchAll payload rest
      return { others with failures := (c, e) :: others.failures }

/-- Queues the announcement of a trigger on every channel of the alert, and gives the ids of the
queued deliveries when no channel failed. -/
def notify (a : AlertRecord) (trigger : Trigger) : Routine (Except NotifyError (List Int)) :=
  match a.decodedChannels with
  | .error e => pure (.error (.invalidChannels e))
  | .ok channels => do
    let outcome ← a.dispatchAll (trigger.event a).payload channels
    if outcome.failures.isEmpty then return .ok outcome.queued
    else
      return .error
        (.channelsFailed outcome.failures.length channels.length outcome.failures)

end AlertRecord

end AlertRelay
