import AlertRelay.Proofs.Delivery.Outcome
import AlertRelay.Proofs.Delivery.Tick

/-!
# What is posted

The requests of a tick are those of the claimed deliveries, in the order in which they were claimed.
Each delivery is looked up once, and a request goes out for it exactly if the lookup found an
enabled webhook of the delivery's own tenant to which a request can be formed. What the request says
is a function of the delivery and of the address and the secret of that webhook. So however often a
delivery is tried, the requests are the same as long as these are.

## Main definitions

* `Message.IsWellFormed` — a request can be formed of a message
* `QueueEntry.Finds` — a lookup found an enabled webhook of the delivery's tenant
* `QueueEntry.Carries` — a request carries a delivery to a webhook
* `Worker.PostsClaimed` — the requests are those of the claimed deliveries

## Main results

* `Message.exists_post_iff` — when a request can be formed
* `Worker.ticks_postsClaimed` — the requests of any ticks
-/

namespace AlertRelay

/-! ## Messages -/

namespace Message

/-- A request can be formed of the message: its address reads and names a host that requests are
sent to, and its event type is a header value. -/
structure IsWellFormed (m : Message) : Prop where
  address : ∃ url, Http.Url.read m.url = some url ∧ url.hasHost = true ∧
    url.anonymous.isHttp = true ∧ url.anonymous.isTarget = true
  event : m.eventType.toList.all isHeaderChar = true

/-- The request of a well-formed message. -/
theorem post_eq_ok_iff {m : Message} {p : Post} :
    m.post = .ok p ↔ m.IsWellFormed ∧ ∃ url, Http.Url.read m.url = some url ∧
      p = ⟨url.anonymous, m.eventType, toString m.deliveryId,
        Signature.header m.secret (Text.utf8 m.body), m.body⟩ := by
  constructor
  · intro formed
    rw [post] at formed
    cases read : Http.Url.read m.url with
    | none =>
      rw [read] at formed
      cases formed
    | some url =>
      simp only [read] at formed
      -- the host, the event type, and the kind and the length of the address are checked in turn
      split at formed
      case isTrue => cases formed
      split at formed
      case isTrue => cases formed
      split at formed
      case isTrue => cases formed
      case isFalse host event target =>
        obtain rfl := Except.ok.inj formed
        simp only [Bool.not_eq_true', Bool.or_eq_true, not_or, Bool.not_eq_false]
          at host event target
        exact ⟨⟨⟨url, read, host, target⟩, event⟩, url, rfl, rfl⟩
  · rintro ⟨⟨⟨url, read, host, http, target⟩, event⟩, other, sameRead, rfl⟩
    obtain rfl := Option.some.inj (read.symm.trans sameRead)
    simp [post, read, host, http, target, event]

theorem exists_post_iff {m : Message} : (∃ p, m.post = .ok p) ↔ m.IsWellFormed := by
  simp only [post_eq_ok_iff]
  constructor
  · rintro ⟨_, formed, -⟩
    exact formed
  · intro formed
    obtain ⟨url, read, -⟩ := formed.address
    exact ⟨_, formed, url, read, rfl⟩

end Message

/-! ## Deliveries -/

namespace QueueEntry

variable {e e' : QueueEntry} {found found' : StoreReply} {webhook webhook' : WebhookRecord}
  {p : Post}

/-- The lookup found a webhook that is enabled and belongs to the tenant of the delivery. -/
structure Finds (e : QueueEntry) (found : StoreReply) (webhook : WebhookRecord) : Prop where
  read : found.first? WebhookRecord.ofRow = .ok (some webhook)
  own : webhook.tenantId = e.tenantId
  enabled : webhook.enabled = true

/-- The request carries the delivery to the webhook: it goes to the webhook's address, says exactly
the payload, names the event and the delivery, and is signed with the webhook's secret. -/
structure Carries (e : QueueEntry) (webhook : WebhookRecord) (p : Post) : Prop where
  address : ∃ url, Http.Url.read webhook.url = some url ∧ p.url = url.anonymous
  body : p.body = e.payload.text
  event : p.event = e.eventType
  delivery : p.delivery = toString e.id
  signed : Signature.verify webhook.secret (Text.utf8 p.body) p.signature = true

theorem carries_of_post (formed : (e.message webhook).post = .ok p) : e.Carries webhook p := by
  obtain ⟨-, url, read, rfl⟩ := Message.post_eq_ok_iff.mp formed
  exact ⟨⟨url, read, rfl⟩, rfl, rfl, rfl, Signature.verify_header _ _⟩

theorem Finds.request_eq (finds : e.Finds found webhook) :
    e.request found = (e.message webhook).post.mapError .send := by
  rw [request, finds.read]
  exact (if_neg (not_not_intro finds.own)).trans (if_pos finds.enabled)

/-- The request that follows from a lookup is one to the webhook that it found. -/
theorem request_eq_ok_iff :
    e.request found = .ok p ↔
      ∃ webhook, e.Finds found webhook ∧ (e.message webhook).post = .ok p := by
  constructor
  · intro sent
    obtain ⟨webhook, finds⟩ : ∃ webhook, e.Finds found webhook := by
      rw [request] at sent
      cases read : found.first? WebhookRecord.ofRow with
      | error error =>
        rw [read] at sent
        cases sent
      | ok webhook =>
        rw [read] at sent
        cases webhook with
        | none => cases sent
        | some webhook =>
          by_cases foreign : webhook.tenantId ≠ e.tenantId
          · cases (if_pos foreign).symm.trans sent
          by_cases enabled : webhook.enabled = true
          · exact ⟨webhook, read, not_not.mp foreign, enabled⟩
          · cases ((if_neg foreign).trans (if_neg enabled)).symm.trans sent
    rw [finds.request_eq] at sent
    exact ⟨webhook, finds, mapError_eq_ok_iff.mp sent⟩
  · rintro ⟨webhook, finds, formed⟩
    rw [finds.request_eq, formed]
    rfl

theorem exists_request_iff :
    (∃ p, e.request found = .ok p) ↔
      ∃ webhook, e.Finds found webhook ∧ (e.message webhook).IsWellFormed := by
  simp only [request_eq_ok_iff, ← Message.exists_post_iff]
  exact exists_comm.trans (by simp)

/-- The same delivery is sent alike as long as the address and the secret of its webhook stay. -/
theorem Finds.request_congr (finds : e.Finds found webhook) (finds' : e'.Finds found' webhook')
    (same : e.SameDelivery e') (url : webhook'.url = webhook.url)
    (secret : webhook'.secret = webhook.secret) : e'.request found' = e.request found := by
  have message : e'.message webhook' = e.message webhook := by
    simp [QueueEntry.message, url, secret, same.eventType, same.id, same.payload]
  rw [finds.request_eq, finds'.request_eq, message]

end QueueEntry

/-! ## Ticks -/

namespace Worker

/-- The number of a webhook that was looked up, and what the lookup gave. -/
def webhookLookup? : Statement × StoreReply → Option (Int × StoreReply)
  | (.webhookById id, reply) => some (id, reply)
  | _ => none

/-- The webhooks that were looked up by number, in order. -/
def webhookLookups (script : Script) : List (Int × StoreReply) :=
  script.filterMap webhookLookup?

theorem webhookLookups_append (script later : Script) :
    webhookLookups (script ++ later) = webhookLookups script ++ webhookLookups later :=
  List.filterMap_append

theorem webhookLookup?_outcome (w : OutcomeWrite) (id : Int) (reply : StoreReply) :
    webhookLookup? (w.statement id, reply) = none := by
  cases w <;> rfl

theorem Opens.webhookLookups_opening {settings : DeliverySettings} {opening : Script}
    {entries : List QueueEntry} {released : Except DbError Nat}
    (opens : Opens settings opening entries released) : webhookLookups opening = [] := by
  cases opens <;> rfl

/-- Each delivery is looked up once. -/
theorem webhookLookups_pass {policy : RetryPolicy} (p : Pass policy) :
    webhookLookups p.statements = [(p.entry.webhookId, p.found)] := by
  have notes : webhookLookups p.notes = [] := by
    refine List.filterMap_eq_nil_iff.mpr fun x member => ?_
    rcases p.mem_notes member with ⟨_, rfl | rfl⟩
    · rfl
    · rfl
  rw [Pass.statements, webhookLookups, List.filterMap_cons_some (by rfl),
    List.filterMap_cons_none (webhookLookup?_outcome _ _ _)]
  exact congrArg _ notes

/-- The claimed deliveries with what the lookups of their webhooks gave, and the requests that
followed: in the order in which the deliveries were claimed there is one request for each of them or
none. -/
structure IsAttempts (trace : List Action) (attempts : List (QueueEntry × StoreReply)) : Prop where
  claimed : attempts.map Prod.fst = Worker.claimed (Action.statements trace)
  looked_up : attempts.map (fun a => (a.1.webhookId, a.2)) =
    webhookLookups (Action.statements trace)
  posted : (Action.posts trace).map Prod.fst =
    attempts.filterMap fun a => (a.1.request a.2).toOption

theorem isAttempts_nil : IsAttempts [] [] := ⟨rfl, rfl, rfl⟩

theorem IsAttempts.append {trace later : List Action}
    {attempts more : List (QueueEntry × StoreReply)} (first : IsAttempts trace attempts)
    (second : IsAttempts later more) :
    IsAttempts (trace ++ later) (attempts ++ more) where
  claimed := by
    rw [List.map_append, first.claimed, second.claimed, Action.statements_append, claimed_append]
  looked_up := by
    rw [List.map_append, first.looked_up, second.looked_up, Action.statements_append,
      webhookLookups_append]
  posted := by
    rw [Action.posts_append, List.map_append, first.posted, second.posted, List.filterMap_append]

/-- A pass sends the request that follows from its lookup. -/
theorem posted_pass {policy : RetryPolicy} (p : Pass policy) :
    p.posts.map Prod.fst = (p.entry.request p.found).toOption.toList := by
  rw [Pass.posts]
  cases p.entry.request p.found <;> rfl

/-- A tick attempts what it claimed. -/
theorem tick_isAttempts {settings : DeliverySettings} {trace : List Action}
    {result : Except Instant.Overflow (Except DbError Summary)}
    (course : (tick settings).Course trace result) :
    ∃ attempts, IsAttempts trace attempts := by
  obtain ⟨t, -, stated, posted⟩ := tick_course course
  refine ⟨t.passes.map fun p => (p.entry, p.found), ⟨?_, ?_, ?_⟩⟩
  · rw [stated, t.claimed_statements, List.map_map]
    rfl
  · have lookups : webhookLookups (t.passes.flatMap Pass.statements) =
        t.passes.map fun p => (p.entry.webhookId, p.found) := by
      rw [webhookLookups, List.filterMap_flatMap, List.map_eq_flatMap]
      exact List.flatMap_congr fun p _ => webhookLookups_pass p
    rw [stated, Tick.statements, webhookLookups_append, t.opens.webhookLookups_opening, lookups,
      List.map_map]
    rfl
  · rw [posted, Tick.posts, List.map_flatMap, List.filterMap_map, List.filterMap_eq_flatMap_toList]
    exact List.flatMap_congr fun p _ => posted_pass p

/-- What is posted in some ticks, by the claimed deliveries and what the lookups of their webhooks
gave. -/
structure PostsClaimed (trace : List Action) (attempts : List (QueueEntry × StoreReply)) : Prop
    extends IsAttempts trace attempts where
  /-- There is a request for a delivery exactly if the lookup found an enabled webhook of its tenant
  to which a request can be formed. -/
  posted_iff : ∀ a ∈ attempts, (∃ p, a.1.request a.2 = .ok p) ↔
    ∃ webhook, a.1.Finds a.2 webhook ∧ (a.1.message webhook).IsWellFormed
  /-- It carries the delivery to that webhook. -/
  carried : ∀ a ∈ attempts, ∀ webhook p, a.1.Finds a.2 webhook → a.1.request a.2 = .ok p →
    a.1.Carries webhook p
  /-- It is the same whenever the delivery is tried, as long as the webhook keeps its address and
  its secret. -/
  repeated : ∀ a ∈ attempts, ∀ b ∈ attempts, ∀ webhook webhook', a.1.SameDelivery b.1 →
    a.1.Finds a.2 webhook → b.1.Finds b.2 webhook' → webhook'.url = webhook.url →
    webhook'.secret = webhook.secret → b.1.request b.2 = a.1.request a.2

theorem IsAttempts.postsClaimed {trace : List Action} {attempts : List (QueueEntry × StoreReply)}
    (h : IsAttempts trace attempts) : PostsClaimed trace attempts where
  toIsAttempts := h
  posted_iff _ _ := QueueEntry.exists_request_iff
  carried a _ webhook p finds sent := by
    rw [finds.request_eq, mapError_eq_ok_iff] at sent
    exact QueueEntry.carries_of_post sent
  repeated _ _ _ _ _ _ same finds finds' url secret := finds.request_congr finds' same url secret

/-- What any ticks post: there is one request for each claimed delivery or none, as the lookup of
its webhook decides, in the order in which they were claimed. -/
theorem ticks_postsClaimed {ticks : List (List Action)}
    (courses : ∀ trace ∈ ticks, ∃ settings result, (tick settings).Course trace result) :
    ∃ attempts, PostsClaimed ticks.flatten attempts := by
  suffices h : ∃ attempts, IsAttempts ticks.flatten attempts from
    h.imp fun _ attempted => attempted.postsClaimed
  induction ticks with
  | nil => exact ⟨[], isAttempts_nil⟩
  | cons trace ticks ih =>
    obtain ⟨settings, result, course⟩ := courses trace (.head _)
    obtain ⟨attempts, first⟩ := tick_isAttempts course
    obtain ⟨more, second⟩ := ih fun later member => courses later (.tail _ member)
    exact ⟨attempts ++ more, first.append second⟩

/-- A webhook of the tenant of the delivery. -/
def ownWebhook : WebhookRecord :=
  { id := 5, tenantId := 21, name := "ops", url := "http://[::1]/hook", secret := "whsec",
    eventTypes := .arr [.str wildcardEvent], enabled := true, lastTriggeredAt := none,
    failureCount := 0, createdAt := ⟨0, 0⟩, updatedAt := ⟨0, 0⟩ }

/-- A tick in which the delivery is claimed after some attempts, and the receiver answers with a
status. -/
def tryOnce (attempts : Int) (code : Nat) : List Action :=
  ((tick .standard).run
    { QueueEntry.answering [.affected 0, .rows [{ QueueEntry.lastAttempt with attempts }.row],
        .rows [ownWebhook.row], .affected 1] with
      answers := [.status code] }).trace

/-- The receiver fails and is tried again. -/
theorem ticks_postsClaimed_retried :
    (Action.posts [tryOnce 0 500, tryOnce 1 200].flatten).map Prod.snd =
        [.status 500, .status 200] ∧
      ∃ attempts, PostsClaimed [tryOnce 0 500, tryOnce 1 200].flatten attempts := by
  refine ⟨rfl, ticks_postsClaimed fun _ member => ?_⟩
  rcases List.mem_pair.mp member with rfl | rfl
  · exact ⟨.standard, _, Routine.course_run _ _⟩
  · exact ⟨.standard, _, Routine.course_run _ _⟩

end Worker

end AlertRelay
