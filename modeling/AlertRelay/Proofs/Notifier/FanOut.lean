import AlertRelay.Alert.Notifier
import AlertRelay.Proofs.Routine.Change

/-!
# An alert on all its channels

The channels of an alert are handled one after another, and whatever becomes of one, the next is
handled all the same. A webhook is looked up, and one delivery is queued for it if it is enabled; no
other channel states anything. So every channel ends with the id of its own queued delivery or with
one failure, the announcement succeeds when there is no failure, and otherwise it lists the failures
in the order of the channels, while the other deliveries stay queued.

## Main definitions

* `AlertRecord.Dispatches` — what becomes of a channel on the replies to its statements
* `AlertRecord.Handling` — a channel of an announcement with what became of it
* `StoreReply.FindsEnabled` — a reply gives a webhook that is enabled
* `AlertRecord.FansOut` — how an announcement goes

## Main results

* `AlertRecord.dispatch_course` — every channel is dispatched
* `AlertRecord.dispatchAll_course` — in the order of the channels, each once
* `AlertRecord.Handling.queuedIds_flatMap` — nothing is queued but what the channels end with
* `AlertRecord.notify_fansOut` — every announcement goes so
-/

namespace AlertRelay

/-- The reply to a lookup gives a webhook that is enabled. -/
def StoreReply.FindsEnabled (found : StoreReply) : Prop :=
  ∃ webhook, found.first? WebhookRecord.ofRow = .ok (some webhook) ∧ webhook.enabled = true

/-- The id of the delivery that a statement queued, if it queued one. -/
def Statement.queuedId? : Statement → StoreReply → Option Int
  | .enqueue _, reply => (reply.one QueueEntry.ofRow).toOption.map QueueEntry.id
  | _, _ => none

/-- The ids of the deliveries that were queued, in order. -/
def Script.queuedIds (script : Script) : List Int := script.filterMap fun x => x.1.queuedId? x.2

namespace AlertRecord

variable {a : AlertRecord} {payload : Json} {c : Channel} {channels : List Channel}
  {script : Script} {outcome : Except ChannelError Int} {trace : List Action}

/-- The delivery of a payload to a webhook. -/
def delivery (a : AlertRecord) (payload : Json) (webhookId : Int) : NewDelivery :=
  { tenantId := a.tenantId
    webhookId
    eventType := alertTriggered
    payload
    maxAttempts := none }

/-- What becomes of a channel, on the replies to the statements that are run for it. -/
inductive Dispatches (a : AlertRecord) (payload : Json) :
    Channel → Script → Except ChannelError Int → Prop
  | unsupported : a.Dispatches payload .unsupported [] (.error .unsupported)
  | unread {id : Int} {found : StoreReply} {e : DbError}
      (broken : found.first? WebhookRecord.ofRow = .error e) :
      a.Dispatches payload (.webhook id) [(.webhookOfTenant a.tenantId id, found)]
        (.error (.database e))
  | missing {id : Int} {found : StoreReply} (absent : found.first? WebhookRecord.ofRow = .ok none) :
      a.Dispatches payload (.webhook id) [(.webhookOfTenant a.tenantId id, found)]
        (.error (.webhookNotFound id))
  | disabled {id : Int} {found : StoreReply} {webhook : WebhookRecord}
      (present : found.first? WebhookRecord.ofRow = .ok (some webhook))
      (off : webhook.enabled = false) :
      a.Dispatches payload (.webhook id) [(.webhookOfTenant a.tenantId id, found)]
        (.error (.webhookDisabled id))
  | unqueued {id : Int} {found stored : StoreReply} {e : DbError} (enabled : found.FindsEnabled)
      (refused : stored.one QueueEntry.ofRow = .error e) :
      a.Dispatches payload (.webhook id)
        [(.webhookOfTenant a.tenantId id, found), (.enqueue (a.delivery payload id), stored)]
        (.error (.database e))
  | queued {id : Int} {found stored : StoreReply} {entry : QueueEntry}
      (enabled : found.FindsEnabled) (kept : stored.one QueueEntry.ofRow = .ok entry) :
      a.Dispatches payload (.webhook id)
        [(.webhookOfTenant a.tenantId id, found), (.enqueue (a.delivery payload id), stored)]
        (.ok entry.id)

/-- A channel comes to an end, whatever is replied. -/
theorem dispatch_course {result : Except Instant.Overflow (Except ChannelError Int)}
    (course : (a.dispatch payload c).Course trace result) :
    ∃ outcome, result = .ok outcome ∧
      a.Dispatches payload c (Action.statements trace) outcome := by
  cases c with
  | unsupported =>
    obtain ⟨rfl, rfl⟩ := Routine.Course.of_pure course
    exact ⟨_, rfl, .unsupported⟩
  | webhook id =>
    obtain ⟨found, rest, rfl, tail⟩ := Routine.Course.of_read course
    rcases read : found.first? WebhookRecord.ofRow with e | _ | webhook
    all_goals rw [read] at tail
    · obtain ⟨rfl, rfl⟩ := Routine.Course.of_pure tail
      exact ⟨_, rfl, .unread read⟩
    · obtain ⟨rfl, rfl⟩ := Routine.Course.of_pure tail
      exact ⟨_, rfl, .missing read⟩
    · dsimp only at tail
      cases enabled : webhook.enabled with
      | false =>
        rw [enabled] at tail
        obtain ⟨rfl, rfl⟩ := Routine.Course.of_pure tail
        exact ⟨_, rfl, .disabled read enabled⟩
      | true =>
        rw [enabled] at tail
        obtain ⟨stored, later, rfl, ended⟩ := Routine.Course.of_read tail
        cases kept : stored.one QueueEntry.ofRow with
        | error e =>
          rw [kept] at ended
          obtain ⟨rfl, rfl⟩ := Routine.Course.of_pure ended
          exact ⟨_, rfl, .unqueued ⟨webhook, read, enabled⟩ kept⟩
        | ok entry =>
          rw [kept] at ended
          obtain ⟨rfl, rfl⟩ := Routine.Course.of_pure ended
          exact ⟨_, rfl, .queued ⟨webhook, read, enabled⟩ kept⟩

/-- What a channel ends with is all that was queued for it. -/
theorem Dispatches.queuedIds (dispatched : a.Dispatches payload c script outcome) :
    script.queuedIds = outcome.toOption.toList := by
  cases dispatched with
  | unqueued enabled refused =>
    simp [Script.queuedIds, Statement.queuedId?, refused, Except.toOption]
  | queued enabled kept => simp [Script.queuedIds, Statement.queuedId?, kept, Except.toOption]
  | _ => rfl

/-- A channel that is not supported states nothing. -/
theorem Dispatches.script_of_unsupported
    (dispatched : a.Dispatches payload .unsupported script outcome) : script = [] := by
  cases dispatched
  rfl

/-- A webhook is looked up, and a delivery is queued for it exactly if it is found enabled. -/
theorem Dispatches.script_of_webhook {id : Int}
    (dispatched : a.Dispatches payload (.webhook id) script outcome) :
    ∃ found rest, script = (.webhookOfTenant a.tenantId id, found) :: rest ∧
      (found.FindsEnabled ∧ (∃ stored, rest = [(.enqueue (a.delivery payload id), stored)]) ∨
        ¬ found.FindsEnabled ∧ rest = []) := by
  -- a reply that gives no webhook, or one that is off, gives no webhook that is enabled
  have unfound {found : StoreReply}
      (off : ∀ webhook, found.first? WebhookRecord.ofRow = .ok (some webhook) →
        webhook.enabled = false) : ¬ found.FindsEnabled := by
    rintro ⟨webhook, present, enabled⟩
    rw [off webhook present] at enabled
    cases enabled
  cases dispatched with
  | unread broken =>
    refine ⟨_, [], rfl, .inr ⟨unfound fun webhook present => ?_, rfl⟩⟩
    cases broken.symm.trans present
  | missing absent =>
    refine ⟨_, [], rfl, .inr ⟨unfound fun webhook present => ?_, rfl⟩⟩
    cases absent.symm.trans present
  | disabled present off =>
    refine ⟨_, [], rfl, .inr ⟨unfound fun webhook same => ?_, rfl⟩⟩
    cases present.symm.trans same
    exact off
  | unqueued enabled refused => exact ⟨_, _, rfl, .inl ⟨enabled, _, rfl⟩⟩
  | queued enabled kept => exact ⟨_, _, rfl, .inl ⟨enabled, _, rfl⟩⟩

/-! ## All channels -/

/-- A channel of an announcement with what became of it. -/
structure Handling (a : AlertRecord) (payload : Json) where
  channel : Channel
  script : Script
  outcome : Except ChannelError Int
  dispatched : a.Dispatches payload channel script outcome

namespace Handling

/-- The id of the delivery that was queued for the channel. -/
def queued? (h : Handling a payload) : Option Int := h.outcome.toOption

/-- The channel with its failure, if it failed. -/
def failure? (h : Handling a payload) : Option (Channel × ChannelError) :=
  match h.outcome with
  | .ok _ => none
  | .error e => some (h.channel, e)

/-- Nothing is queued but what the channels end with. -/
theorem queuedIds_flatMap (handled : List (Handling a payload)) :
    Script.queuedIds (handled.flatMap (·.script)) = handled.filterMap (·.queued?) := by
  induction handled with
  | nil => rfl
  | cons h rest ih =>
    have own : h.script.queuedIds = h.queued?.toList := h.dispatched.queuedIds
    rw [List.flatMap_cons, Script.queuedIds, List.filterMap_append]
    change h.script.queuedIds ++ Script.queuedIds _ = _
    rw [own, ih]
    cases ended : h.queued? with
    | none => rw [List.filterMap_cons_none ended]; rfl
    | some id => rw [List.filterMap_cons_some ended]; rfl

/-- Every channel has its delivery queued, or fails. -/
theorem length_queued_add_length_failures (handled : List (Handling a payload)) :
    (handled.filterMap (·.queued?)).length + (handled.filterMap (·.failure?)).length =
      handled.length := by
  induction handled with
  | nil => rfl
  | cons h rest ih =>
    obtain ⟨channel, script, outcome, dispatched⟩ := h
    rw [List.length_cons, ← ih]
    cases outcome with
    | ok id => exact Nat.succ_add _ _
    | error e => exact Nat.add_succ _ _

/-- Without a failure every channel ends with a delivery, in order. -/
theorem outcomes_eq_of_no_failure {handled : List (Handling a payload)}
    (complete : handled.filterMap (·.failure?) = []) :
    handled.map (·.outcome) = (handled.filterMap (·.queued?)).map .ok := by
  induction handled with
  | nil => rfl
  | cons h rest ih =>
    obtain ⟨channel, script, outcome, dispatched⟩ := h
    cases outcome with
    | ok id => exact congrArg (.ok id :: ·) (ih complete)
    | error e => cases complete

end Handling

/-- The channels are handled in order, each once, and none stops the others. -/
theorem dispatchAll_course {result : Except Instant.Overflow Dispatched}
    (course : (a.dispatchAll payload channels).Course trace result) :
    ∃ handled : List (a.Handling payload), handled.map (·.channel) = channels ∧
      Action.statements trace = handled.flatMap (·.script) ∧
      result = .ok ⟨handled.filterMap (·.queued?), handled.filterMap (·.failure?)⟩ := by
  induction channels generalizing trace result with
  | nil =>
    obtain ⟨rfl, rfl⟩ := Routine.Course.of_pure course
    exact ⟨[], rfl, rfl, rfl⟩
  | cons c rest ih =>
    -- whatever the first channel adds to the result, the others are handled before it is added
    have others {add : Dispatched → Dispatched} {later : List Action}
        (tail : (do return add (← a.dispatchAll payload rest)).Course later result) :
        ∃ handled : List (a.Handling payload), handled.map (·.channel) = rest ∧
          Action.statements later = handled.flatMap (·.script) ∧
          result = .ok (add
            ⟨handled.filterMap (·.queued?), handled.filterMap (·.failure?)⟩) := by
      rcases tail.of_bind with ⟨outcome, first, last, head, done, rfl⟩ | ⟨o, halted, rfl⟩
      · obtain ⟨handled, same, stated, ended⟩ := ih head
        obtain ⟨rfl, rfl⟩ := Routine.Course.of_pure done
        cases ended
        exact ⟨handled, same, by rw [List.append_nil, stated], rfl⟩
      · obtain ⟨_, _, _, ended⟩ := ih halted
        cases ended
    rw [dispatchAll] at course
    rcases course.of_bind with ⟨outcome, first, later, head, tail, rfl⟩ | ⟨o, halted, -⟩
    · obtain ⟨_, ended, dispatched⟩ := dispatch_course head
      cases ended
      rw [Action.statements_append]
      cases outcome with
      | ok id =>
        obtain ⟨handled, rfl, stated, rfl⟩ := others tail
        rw [stated]
        exact ⟨⟨c, _, .ok id, dispatched⟩ :: handled, rfl, rfl, rfl⟩
      | error e =>
        obtain ⟨_, last, rfl, reported⟩ := Routine.Course.of_effect tail
        obtain ⟨handled, rfl, stated, rfl⟩ := others reported
        rw [Action.statements_log, stated]
        exact ⟨⟨c, _, .error e, dispatched⟩ :: handled, rfl, rfl, rfl⟩
    · obtain ⟨_, ended, -⟩ := dispatch_course halted
      cases ended

/-! ## The announcement -/

/-- How an announcement on some channels goes, when these statements were run for it and it came to
this result: `handled` are its channels with what became of them. -/
structure FansOut (a : AlertRecord) (payload : Json) (channels : List Channel) (script : Script)
    (result : Except NotifyError (List Int)) (handled : List (a.Handling payload)) : Prop where
  /-- Every channel is handled once, in order. -/
  handled_eq : handled.map (·.channel) = channels
  /-- The statements are those of the channels, in the same order. -/
  statements : script = handled.flatMap (·.script)
  /-- A channel that is not supported states nothing. -/
  unsupported : ∀ h ∈ handled, h.channel = .unsupported → h.script = []
  /-- A webhook is looked up once, and one delivery is queued for it exactly if it is found
  enabled. -/
  webhook : ∀ h ∈ handled, ∀ id, h.channel = .webhook id → ∃ found rest,
    h.script = (.webhookOfTenant a.tenantId id, found) :: rest ∧
      (found.FindsEnabled ∧ (∃ stored, rest = [(.enqueue (a.delivery payload id), stored)]) ∨
        ¬ found.FindsEnabled ∧ rest = [])
  /-- A lookup is for the webhook and the tenant of the alert. -/
  lookup_params : ∀ id, (Statement.webhookOfTenant a.tenantId id).params =
    [.int id, .int a.tenantId]
  /-- A delivery is pending, and has five attempts. -/
  enqueue_params : ∀ id, (Statement.enqueue (a.delivery payload id)).params =
    [.int a.tenantId, .int id, .text "alert.triggered", .json payload, .int 5, .text "pending"]
  /-- The deliveries that were queued are those that the channels end with. -/
  queuedIds : script.queuedIds = handled.filterMap (·.queued?)
  /-- Every channel has its delivery queued, or fails. -/
  counted : script.queuedIds.length + (handled.filterMap (·.failure?)).length = channels.length
  /-- Without a failure the result is the delivery of every channel, in order. -/
  complete : handled.filterMap (·.failure?) = [] →
    ∃ ids, result = .ok ids ∧ handled.map (·.outcome) = ids.map .ok
  /-- Otherwise it is the failures, in the order of the channels, and their number. -/
  incomplete : handled.filterMap (·.failure?) ≠ [] →
    result = .error (.channelsFailed (handled.filterMap (·.failure?)).length channels.length
      (handled.filterMap (·.failure?)))

/-- Channels that were handled in order are an announcement on them. -/
theorem Handling.fansOut (handled : List (Handling a payload))
    {result : Except NotifyError (List Int)}
    (ended : result =
      if (handled.filterMap (·.failure?)).isEmpty then .ok (handled.filterMap (·.queued?))
      else .error (.channelsFailed (handled.filterMap (·.failure?)).length
        (handled.map (·.channel)).length (handled.filterMap (·.failure?)))) :
    a.FansOut payload (handled.map (·.channel)) (handled.flatMap (·.script)) result handled := by
  constructor
  case handled_eq => rfl
  case statements => rfl
  case unsupported =>
    intro h _ channel
    exact (channel ▸ h.dispatched).script_of_unsupported
  case webhook =>
    intro h _ id channel
    exact (channel ▸ h.dispatched).script_of_webhook
  case lookup_params => exact fun _ => rfl
  case enqueue_params => exact fun _ => rfl
  case queuedIds => exact queuedIds_flatMap handled
  case counted =>
    rw [queuedIds_flatMap, length_queued_add_length_failures, List.length_map]
  case complete =>
    intro none_failed
    rw [none_failed] at ended
    exact ⟨_, ended, outcomes_eq_of_no_failure none_failed⟩
  case incomplete =>
    intro some_failed
    rw [ended, if_neg]
    rwa [List.isEmpty_iff]

/-- An announcement on channels that decode comes to an end, whatever is replied. -/
theorem notify_course {trigger : Trigger}
    {result : Except Instant.Overflow (Except NotifyError (List Int))}
    (decoded : a.decodedChannels = .ok channels)
    (course : (a.notify trigger).Course trace result) :
    ∃ ended handled, result = .ok ended ∧
      a.FansOut (trigger.event a).payload channels (Action.statements trace) ended handled := by
  rw [notify, decoded] at course
  rcases course.of_bind with ⟨outcome, first, later, head, tail, rfl⟩ | ⟨o, halted, -⟩
  · obtain ⟨handled, rfl, stated, same⟩ := dispatchAll_course head
    cases same
    -- nothing is stated after the last channel
    have concluded : later = [] ∧ result = .ok (
        if (handled.filterMap (·.failure?)).isEmpty then .ok (handled.filterMap (·.queued?))
        else .error (.channelsFailed (handled.filterMap (·.failure?)).length
          (handled.map (·.channel)).length (handled.filterMap (·.failure?)))) := by
      dsimp only at tail
      split at tail
      case isTrue none_failed =>
        rw [if_pos none_failed]
        exact tail.of_pure
      case isFalse some_failed =>
        rw [if_neg some_failed]
        exact tail.of_pure
    obtain ⟨rfl, rfl⟩ := concluded
    rw [List.append_nil, stated]
    exact ⟨_, handled, rfl, Handling.fansOut handled rfl⟩
  · obtain ⟨_, _, _, ended⟩ := dispatchAll_course halted
    cases ended

/-- Every announcement handles the channels of the alert in order and each once, whatever the
replies to its statements are. If the channels do not decode, nothing is stated. -/
theorem notify_fansOut (a : AlertRecord) (trigger : Trigger) (w : Surroundings) :
    match a.decodedChannels with
    | .error e =>
      (a.notify trigger).run w = ⟨.ok (.error (.invalidChannels e)), [], w⟩
    | .ok channels => ∃ result script handled,
      ((a.notify trigger).run w).result = .ok result ∧
        Action.statements ((a.notify trigger).run w).trace = script ∧
        script.map Prod.snd = (List.range script.length).map w.reply ∧
        a.FansOut (trigger.event a).payload channels script result handled := by
  cases decoded : a.decodedChannels with
  | error e =>
    dsimp only
    rw [notify, decoded]
    rfl
  | ok channels =>
    obtain ⟨result, handled, ended, fansOut⟩ :=
      notify_course decoded (Routine.course_run (a.notify trigger) w)
    exact ⟨result, _, handled, ended, rfl, Routine.replies_run _ w, fansOut⟩

end AlertRecord

end AlertRelay
