import AlertRelay.Proofs.Delivery.Posting
import AlertRelay.Proofs.Routine.InStep

/-!
# Secrets stay in signatures

A worker reads the secret of a webhook together with its address, and writes what comes of a request
to the row of the delivery. But the secret goes into the signature of the request and into nothing
else. So two ticks whose replies differ only in the secrets of webhooks go in step: they have the
same statements with everything bound to them, the texts of failures included, the same requests but
for their signatures, and the same result. The document of a webhook does not depend on its secret
either.

## Main definitions

* `Worker.Conceals` — what two such ticks have in common

## Main results

* `Message.post_secret` — the secret of a message goes into the signature of its request
* `QueueEntry.process_inStep` — a delivery is processed in step
* `Worker.tick_conceals` — two ticks, and the documents of two rows
-/

namespace AlertRelay

open Routine

/-! ## Messages -/

/-- The answer to a request does not depend on its signature. -/
theorem Post.outcome_congr {p p' : Post} (same : p.unsigned = p'.unsigned) :
    p.outcome = p'.outcome := by
  have url : p.unsigned.url = p'.unsigned.url := congrArg Post.url same
  funext answer
  cases answer with
  | broken => exact congrArg (fun u => Except.error (SendError.broken u)) url
  | status | silent => rfl

namespace Message

/-- Whether a request can be formed of a message does not depend on its secret, and all that the
secret goes into is the signature. -/
theorem post_secret (m : Message) (secret : String) :
    EndsAlike (fun p p' => p.unsigned = p'.unsigned) m.post { m with secret }.post := by
  rw [post, post]
  dsimp only
  cases Http.Url.read m.url with
  | none => exact .error _
  | some written =>
    dsimp only
    -- what is checked is the address and the event type
    split
    · exact .error _
    · split
      · exact .error _
      · split
        · exact .error _
        · exact .ok (by simp only [Post.unsigned])

/-- Messages that differ in their secrets are sent in step. -/
theorem send_inStep (m : Message) (secret : String) :
    InStep Eq m.send { m with secret }.send := by
  have formed := m.post_secret secret
  rw [send, send]
  generalize m.post = request at formed
  generalize Message.post { m with secret } = request' at formed
  cases formed with
  | error e => exact inStep_pure rfl
  | ok unsigned =>
    refine .post unsigned fun answer => .done ?_
    rw [Post.outcome_congr unsigned]

end Message

namespace QueueEntry

variable {e : QueueEntry}

/-! ## Deliveries -/

/-- A delivery is sent in step to webhooks that differ in their secrets. -/
theorem sendTo_inStep {found found' : Option WebhookRecord}
    (same : Option.Rel WebhookRecord.SameButSecret found found') :
    InStep Eq (e.sendTo found) (e.sendTo found') := by
  cases same with
  | none => exact inStep_pure rfl
  | @some webhook _ same =>
    obtain ⟨secret, rfl⟩ := same
    rw [sendTo, sendTo]
    dsimp only
    by_cases foreign : webhook.tenantId ≠ e.tenantId
    · rw [if_pos foreign, if_pos foreign]
      exact inStep_pure rfl
    · rw [if_neg foreign, if_neg foreign]
      by_cases enabled : webhook.enabled = true
      · rw [if_pos enabled, if_pos enabled]
        exact ((e.message webhook).send_inStep secret).bind_same fun _ => inStep_pure rfl
      · rw [if_neg enabled, if_neg enabled]
        exact inStep_pure rfl

/-- An attempt goes in step with itself: of the lookup, only the secret may differ. -/
theorem attempt_inStep (e : QueueEntry) : InStep Eq e.attempt e.attempt := by
  refine inStep_read StoreReply.SameButSecrets.webhook_endsAlike fun found => ?_
  cases found with
  | error error => exact inStep_pure rfl
  | ok same => exact sendTo_inStep same

theorem touchWebhook_inStep (e : QueueEntry) :
    InStep (fun _ _ => True) e.touchWebhook e.touchWebhook := by
  refine inStep_read_same StoreReply.SameButSecrets.ran_eq fun ran => ?_
  cases ran with
  | ok _ => exact inStep_pure trivial
  | error error => exact inStep_log _ _ _

theorem succeed_inStep (e : QueueEntry) (status : Nat) :
    InStep Eq (e.succeed status) (e.succeed status) := by
  refine inStep_read_same StoreReply.SameButSecrets.anyAffected_eq fun written => ?_
  rcases written with error | _ | _
  · exact inStep_pure rfl
  · exact (inStep_log _ _ _).bind fun _ => inStep_pure rfl
  · refine e.touchWebhook_inStep.bind fun _ => ?_
    exact (inStep_log _ _ _).bind fun _ => inStep_pure rfl

theorem afterFailure_inStep (e : QueueEntry) (reason : String) (decision : RetryDecision) :
    InStep Eq (e.afterFailure reason decision) (e.afterFailure reason decision) := by
  cases decision with
  | retry attempts delay => exact (inStep_log _ _ _).bind fun _ => inStep_pure rfl
  | giveUp attempts =>
    refine inStep_read_same StoreReply.SameButSecrets.ran_eq fun counted => ?_
    cases counted with
    | error error => exact inStep_pure rfl
    | ok _ => exact (inStep_log _ _ _).bind fun _ => inStep_pure rfl

theorem fail_inStep (policy : RetryPolicy) (e : QueueEntry) (reason : String) :
    InStep Eq (e.fail policy reason) (e.fail policy reason) := by
  refine inStep_read_same StoreReply.SameButSecrets.anyAffected_eq fun written => ?_
  rcases written with error | _ | _
  · exact inStep_pure rfl
  · exact (inStep_log _ _ _).bind fun _ => inStep_pure rfl
  · exact e.afterFailure_inStep reason _

/-- A delivery is processed in step: what its attempt came to is the same, and so is all that is
written about it. -/
theorem process_inStep (policy : RetryPolicy) (e : QueueEntry) :
    InStep Eq (e.process policy) (e.process policy) := by
  refine e.attempt_inStep.bind_same fun result => ?_
  cases result with
  | ok status => exact e.succeed_inStep status
  | error error => exact e.fail_inStep policy error.message

end QueueEntry

namespace Worker

/-! ## Ticks -/

theorem processAll_inStep (policy : RetryPolicy) (s : Summary) (entries : List QueueEntry) :
    InStep Eq (processAll policy s entries) (processAll policy s entries) := by
  induction entries generalizing s with
  | nil => exact inStep_pure rfl
  | cons e entries ih =>
    refine (e.process_inStep policy).bind_same fun outcome => ?_
    exact (logUnwritten_reports e outcome).inStep (ih _)

/-- A tick goes in step with itself: it claims the same deliveries, and processes each in step. -/
theorem tick_inStep (settings : DeliverySettings) :
    InStep Eq (tick settings) (tick settings) := by
  refine inStep_read_same StoreReply.SameButSecrets.affected_eq fun released => ?_
  cases released with
  | error error => exact inStep_pure rfl
  | ok released =>
    refine (logReleased_reports released).inStep ?_
    refine inStep_read_same StoreReply.SameButSecrets.entries_eq fun claimed => ?_
    cases claimed with
    | error error => exact inStep_pure rfl
    | ok entries =>
      refine (processAll_inStep _ _ entries).bind_same fun summary => ?_
      exact (logComplete_reports summary).inStep (inStep_pure rfl)

/-- What two courses of a tick have in common whose replies differ in secrets only: everything but
the signatures of their requests. -/
structure Conceals (trace trace' : List Action)
    (result result' : Except Instant.Overflow (Except DbError Summary)) : Prop where
  result : result = result'
  statements : (Action.statements trace).map Prod.fst = (Action.statements trace').map Prod.fst
  posts : (Action.posts trace).map (Prod.map Post.unsigned id) =
    (Action.posts trace').map (Prod.map Post.unsigned id)
  entries : trace.filterMap Action.entry? = trace'.filterMap Action.entry?
  /-- All of these follow one another in the same order. -/
  actions : List.Forall₂ Action.SameButSecrets trace trace'

/-- The secret of a webhook goes into signatures only: courses of a tick on which the replies differ
in secrets, and the requests get the same answers from anyone, are the same but for these, and rows
that differ in their secrets have the same document. -/
theorem tick_conceals :
    (∀ (settings : DeliverySettings) (trace trace' : List Action)
      (result result' : Except Instant.Overflow (Except DbError Summary)),
      (tick settings).Course trace result → (tick settings).Course trace' result' →
        Action.AnsweredAlike trace trace' → Conceals trace trace' result result') ∧
    ∀ r r' : Row, r.SameButSecret r' →
      (WebhookRecord.ofRow r).map WebhookRecord.json =
        (WebhookRecord.ofRow r').map WebhookRecord.json := by
  constructor
  · intro settings trace trace' result result' course course' alike
    obtain ⟨ended, actions⟩ := (tick_inStep settings).courses course course' alike
    constructor
    case result => exact ended.eq
    case statements => exact Action.map_statements_eq actions
    case posts => exact Action.map_posts_eq actions
    case entries => exact Action.filterMap_entry?_eq actions
    case actions => exact actions
  · intro r r' same
    exact WebhookRecord.map_json_ofRow same

end Worker

/-- The rows of a webhook under two secrets. -/
theorem WebhookRecord.row_sameButSecret (w : WebhookRecord) (secret : String) :
    w.row.SameButSecret { w with secret }.row := by
  rw [Row.SameButSecret, row, row]
  repeat' constructor

namespace Worker

/-- A webhook that is reached over a secure connection. -/
def secureWebhook (secret : String) : WebhookRecord :=
  { ownWebhook with url := "https://[::1]/hook", secret }

/-- The replies of a database that claims the delivery that has one attempt left and finds its
webhook with some secret. -/
def findingSecret (secret : String) : List StoreReply :=
  [.affected 0, .rows [QueueEntry.lastAttempt.row], .rows [(secureWebhook secret).row], .affected 1,
    .affected 1]

/-- A tick on these replies, whose request is answered with a failure. -/
def givingUpOn (secret : String) : List Action × Except Instant.Overflow (Except DbError Summary) :=
  (tick .standard).against (.scripted (findingSecret secret) [.status 500]) []

/-- The webhook of the delivery has one secret or another, and the same is kept of its failure. -/
theorem tick_conceals_secure :
    (Action.posts (givingUpOn "whsec").1).map Prod.snd = [.status 500] ∧
      (givingUpOn "whsec").2 = .ok (.ok ⟨0, 1, 0, 0, 1, 0⟩) ∧
      Action.AnsweredAlike (givingUpOn "whsec").1 (givingUpOn "other").1 ∧
      Conceals (givingUpOn "whsec").1 (givingUpOn "other").1 (givingUpOn "whsec").2
        (givingUpOn "other").2 ∧
      ((secureWebhook "whsec").row.SameButSecret (secureWebhook "other").row ∧
        (WebhookRecord.ofRow (secureWebhook "whsec").row).map WebhookRecord.json =
          (WebhookRecord.ofRow (secureWebhook "other").row).map WebhookRecord.json) := by
  have found : (secureWebhook "whsec").row.SameButSecret (secureWebhook "other").row :=
    (secureWebhook "whsec").row_sameButSecret "other"
  have same : List.Forall₂ StoreReply.SameButSecrets (findingSecret "whsec")
      (findingSecret "other") :=
    .cons (.affected 0) (.cons (.refl _) (.cons (.rows (.cons found .nil))
      (.cons (.affected 1) (.cons (.affected 1) .nil))))
  have alike : Action.AnsweredAlike (givingUpOn "whsec").1 (givingUpOn "other").1 :=
    Action.answeredAlike_of_scripted same (gives_against _ _ []) (gives_against _ _ [])
  refine ⟨rfl, rfl, alike, ?_, found, tick_conceals.2 _ _ found⟩
  exact tick_conceals.1 .standard _ _ _ _ (course_against _ _ []) (course_against _ _ []) alike

end Worker

end AlertRelay
