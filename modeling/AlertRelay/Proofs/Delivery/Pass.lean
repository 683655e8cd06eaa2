import AlertRelay.Proofs.Queue.Row
import AlertRelay.Proofs.Routine.Course

/-!
# One claimed delivery

A worker deals with a claimed delivery in one pass: it looks the webhook up, sends the request that
follows from what it found, writes what came of that, and leaves at most one note on the webhook.
Which request it sends is a function of the lookup, what it writes a function of the answer, and how
the pass ends is decided by the reply to that write. A `Pass` holds what the surroundings
contributed and says what the worker made of it.

## Main definitions

* `QueueEntry.request` — the request that follows from a lookup, or why there is none
* `QueueEntry.Concludes` — the notes and the result that follow from the reply to a write
* `Pass` — a claimed delivery as a worker dealt with it

## Main results

* `QueueEntry.attempt_course` — an attempt is one lookup and at most one request
* `QueueEntry.settle_course` — after its attempt a worker writes one outcome and concludes
* `QueueEntry.process_course` — every course of the processing of a delivery is a pass
-/

namespace AlertRelay

/-- The row that stores a webhook. -/
def WebhookRecord.row (w : WebhookRecord) : Row :=
  [("id", .int w.id), ("tenant_id", .int w.tenantId), ("name", .text w.name), ("url", .text w.url),
   ("secret", .text w.secret), ("event_types", .json w.eventTypes), ("enabled", .bool w.enabled),
   ("last_triggered_at", (w.lastTriggeredAt.map .time).getD .null),
   ("failure_count", .int w.failureCount), ("created_at", .time w.createdAt),
   ("updated_at", .time w.updatedAt)]

/-- What failed differently is not what succeeded. -/
theorem mapError_eq_ok_iff {α ε ε' : Type} {x : Except ε α} {f : ε → ε'} {a : α} :
    x.mapError f = .ok a ↔ x = .ok a := by
  cases x <;> simp [Except.mapError]

namespace QueueEntry

variable {policy : RetryPolicy} {e : QueueEntry} {trace : List Action}

/-! ## The attempt -/

/-- The request to the webhook that was found, which must be enabled and belong to the same tenant.
-/
def requestTo (e : QueueEntry) : Option WebhookRecord → Except AttemptError Post
  | none => .error (.webhookMissing e.webhookId)
  | some webhook =>
    if webhook.tenantId ≠ e.tenantId then .error (.webhookMissing e.webhookId)
    else if webhook.enabled then (e.message webhook).post.mapError .send
    else .error (.webhookDisabled webhook.id)

/-- The request that follows from what a lookup gave, or why there is none. -/
def request (e : QueueEntry) (found : StoreReply) : Except AttemptError Post :=
  match found.first? WebhookRecord.ofRow with
  | .error error => .error (.database error)
  | .ok webhook => e.requestTo webhook

/-- A request with its answer, if there is one to be sent. -/
def sent (request : Except AttemptError Post) (answer : PostReply) : List (Post × PostReply) :=
  match request with
  | .error _ => []
  | .ok p => [(p, answer)]

/-- What an attempt comes to when its request is answered. -/
def attempted (request : Except AttemptError Post) (answer : PostReply) :
    Except AttemptError Nat :=
  match request with
  | .error error => .error error
  | .ok p => (p.outcome answer).mapError .send

theorem send_course {m : Message} {result : Except Instant.Overflow (Except AttemptError Nat)}
    (course : (do return (← m.send).mapError .send : Routine _).Course trace result) :
    ∃ answer, result = .ok (attempted (m.post.mapError .send) answer) ∧
      Action.statements trace = [] ∧
      Action.posts trace = sent (m.post.mapError .send) answer := by
  rw [Message.send] at course
  cases formed : m.post with
  | error error =>
    rw [formed] at course
    obtain ⟨rfl, rfl⟩ := Routine.Course.of_pure course
    exact ⟨.broken, rfl, rfl, rfl⟩
  | ok p =>
    rw [formed] at course
    obtain ⟨answer, rest, rfl, tail⟩ := Routine.Course.of_effect course
    obtain ⟨rfl, rfl⟩ := Routine.Course.of_pure tail
    exact ⟨answer, rfl, rfl, rfl⟩

theorem sendTo_course {webhook : Option WebhookRecord}
    {result : Except Instant.Overflow (Except AttemptError Nat)}
    (course : (e.sendTo webhook).Course trace result) :
    ∃ answer, result = .ok (attempted (e.requestTo webhook) answer) ∧
      Action.statements trace = [] ∧ Action.posts trace = sent (e.requestTo webhook) answer := by
  have unsent {error : AttemptError}
      (course : (pure (.error error) : Routine _).Course trace result)
      (refused : e.requestTo webhook = .error error) :
      ∃ answer, result = .ok (attempted (e.requestTo webhook) answer) ∧
        Action.statements trace = [] ∧ Action.posts trace = sent (e.requestTo webhook) answer := by
    obtain ⟨rfl, rfl⟩ := Routine.Course.of_pure course
    rw [refused]
    exact ⟨.broken, rfl, rfl, rfl⟩
  cases webhook with
  | none => exact unsent course rfl
  | some webhook =>
    rw [sendTo] at course
    by_cases foreign : webhook.tenantId ≠ e.tenantId
    · rw [if_pos foreign] at course
      exact unsent course (if_pos foreign)
    · rw [if_neg foreign] at course
      by_cases enabled : webhook.enabled = true
      · rw [if_pos enabled] at course
        have same : e.requestTo (some webhook) = (e.message webhook).post.mapError .send :=
          (if_neg foreign).trans (if_pos enabled)
        rw [same]
        exact send_course course
      · rw [if_neg enabled] at course
        exact unsent course ((if_neg foreign).trans (if_neg enabled))

/-- An attempt is one lookup, and the request that follows from it. -/
theorem attempt_course {result : Except Instant.Overflow (Except AttemptError Nat)}
    (course : e.attempt.Course trace result) :
    ∃ found answer, result = .ok (attempted (e.request found) answer) ∧
      Action.statements trace = [(.webhookById e.webhookId, found)] ∧
      Action.posts trace = sent (e.request found) answer := by
  obtain ⟨found, rest, rfl, tail⟩ := Routine.Course.of_read course
  refine ⟨found, ?_⟩
  rw [request]
  cases read : found.first? WebhookRecord.ofRow with
  | error error =>
    rw [read] at tail
    obtain ⟨rfl, rfl⟩ := Routine.Course.of_pure tail
    exact ⟨.broken, rfl, rfl, rfl⟩
  | ok webhook =>
    rw [read] at tail
    obtain ⟨answer, ended, stated, posted⟩ := sendTo_course tail
    exact ⟨answer, ended, by simp [stated], by simp [posted]⟩

/-! ## The outcome -/

/-- The notes on the webhook and the result that follow from the reply to the write of an outcome.
-/
inductive Concludes (e : QueueEntry) :
    OutcomeWrite → StoreReply → Script → Except DbError DeliveryOutcome → Prop
  | unwritten {write : OutcomeWrite} {reply : StoreReply} {error : DbError}
      (broken : reply.anyAffected = .error error) : e.Concludes write reply [] (.error error)
  | lost {write : OutcomeWrite} {reply : StoreReply}
      (unapplied : reply.anyAffected = .ok false) : e.Concludes write reply [] (.ok .claimLost)
  | delivered {reply : StoreReply} (applied : reply.anyAffected = .ok true)
      (touched : StoreReply) :
      e.Concludes .delivered reply [(.touchWebhook e.webhookId, touched)] (.ok .delivered)
  | retrying {reply : StoreReply} (applied : reply.anyAffected = .ok true) (attempts : Int)
      (delay : Span) (reason : String) :
      e.Concludes (.failed (.retry attempts delay) reason) reply [] (.ok .retrying)
  | failed {reply : StoreReply} (applied : reply.anyAffected = .ok true) (attempts : Int)
      (reason : String) (counted : StoreReply) :
      e.Concludes (.failed (.giveUp attempts) reason) reply
        [(.countWebhookFailure e.webhookId, counted)] (counted.ran.map fun _ => .failed)

/-- There is at most one note on the webhook. -/
theorem Concludes.noted {write : OutcomeWrite} {reply : StoreReply} {notes : Script}
    {outcome : Except DbError DeliveryOutcome} (concludes : e.Concludes write reply notes outcome) :
    notes = [] ∨ (∃ touched, notes = [(.touchWebhook e.webhookId, touched)]) ∨
      ∃ counted, notes = [(.countWebhookFailure e.webhookId, counted)] := by
  cases concludes with
  | unwritten | lost | retrying => exact .inl rfl
  | delivered _ touched => exact .inr (.inl ⟨touched, rfl⟩)
  | failed _ _ _ counted => exact .inr (.inr ⟨counted, rfl⟩)

theorem touchWebhook_course {result : Except Instant.Overflow Unit}
    (course : e.touchWebhook.Course trace result) :
    ∃ touched, result = .ok () ∧
      Action.statements trace = [(.touchWebhook e.webhookId, touched)] ∧
      Action.posts trace = [] := by
  obtain ⟨touched, rest, rfl, tail⟩ := Routine.Course.of_read course
  refine ⟨touched, ?_⟩
  cases read : touched.ran with
  | ok _ =>
    rw [read] at tail
    obtain ⟨rfl, rfl⟩ := Routine.Course.of_pure tail
    exact ⟨rfl, rfl, rfl⟩
  | error error =>
    rw [read] at tail
    obtain ⟨rfl, rfl⟩ := Routine.Course.of_log tail
    exact ⟨rfl, rfl, rfl⟩

/-- The write of an outcome, and what follows its reply: nothing if it failed, a report if it
affected no row, and otherwise what `next` concludes. -/
theorem written_course {write : OutcomeWrite} {s : Statement} {level : LogLevel} {message : String}
    {fields : List (String × String)} {next : Routine (Except DbError DeliveryOutcome)}
    {result : Except Instant.Overflow (Except DbError DeliveryOutcome)}
    (concluded : ∀ {reply later ended}, StoreReply.anyAffected reply = .ok true →
      next.Course later ended → ∃ outcome, ended = .ok outcome ∧ Action.posts later = [] ∧
        e.Concludes write reply (Action.statements later) outcome)
    (course : ((do return (← Routine.execute s).anyAffected) >>= fun
      | .error error => pure (.error error)
      | .ok false => do
        Routine.log level message fields
        pure (.ok .claimLost)
      | .ok true => next : Routine _).Course trace result) :
    ∃ reply notes outcome, result = .ok outcome ∧ Action.statements trace = (s, reply) :: notes ∧
      Action.posts trace = [] ∧ e.Concludes write reply notes outcome := by
  obtain ⟨reply, rest, rfl, tail⟩ := Routine.Course.of_read course
  cases read : reply.anyAffected with
  | error error =>
    rw [read] at tail
    obtain ⟨rfl, rfl⟩ := Routine.Course.of_pure tail
    exact ⟨reply, [], _, rfl, rfl, rfl, .unwritten read⟩
  | ok applied =>
    rw [read] at tail
    cases applied with
    | false =>
      obtain ⟨rfl, rfl⟩ := Routine.Course.of_log_pure tail
      exact ⟨reply, [], _, rfl, rfl, rfl, .lost read⟩
    | true =>
      obtain ⟨outcome, ended, silent, concludes⟩ := concluded read tail
      exact ⟨reply, _, outcome, ended, rfl, by simp [silent], concludes⟩

theorem succeed_course {status : Nat}
    {result : Except Instant.Overflow (Except DbError DeliveryOutcome)}
    (course : (e.succeed status).Course trace result) :
    ∃ reply notes outcome, result = .ok outcome ∧
      Action.statements trace = (.markDelivered e.id, reply) :: notes ∧
      Action.posts trace = [] ∧ e.Concludes .delivered reply notes outcome := by
  refine written_course (fun {reply later ended} applied course => ?_) course
  -- the note on the webhook comes before the report, and decides nothing
  rcases course.of_bind with ⟨_, first, rest, noted, reported, rfl⟩ | ⟨overflow, halted, -⟩
  · obtain ⟨touched, -, stated, posted⟩ := touchWebhook_course noted
    obtain ⟨rfl, rfl⟩ := Routine.Course.of_log_pure reported
    refine ⟨_, rfl, by simp [posted], ?_⟩
    simpa [stated] using Concludes.delivered applied touched
  · obtain ⟨touched, ended, -⟩ := touchWebhook_course halted
    cases ended

theorem afterFailure_course {reason kept : String} {decision : RetryDecision} {reply : StoreReply}
    {result : Except Instant.Overflow (Except DbError DeliveryOutcome)}
    (applied : reply.anyAffected = .ok true)
    (course : (e.afterFailure reason decision).Course trace result) :
    ∃ outcome, result = .ok outcome ∧ Action.posts trace = [] ∧
      e.Concludes (.failed decision kept) reply (Action.statements trace) outcome := by
  cases decision with
  | retry attempts delay =>
    obtain ⟨rfl, rfl⟩ := Routine.Course.of_log_pure course
    exact ⟨_, rfl, rfl, .retrying applied attempts delay kept⟩
  | giveUp attempts =>
    obtain ⟨counted, rest, rfl, tail⟩ := Routine.Course.of_read course
    have concluded := Concludes.failed (e := e) applied attempts kept counted
    cases read : counted.ran with
    | error error =>
      rw [read] at tail concluded
      obtain ⟨rfl, rfl⟩ := Routine.Course.of_pure tail
      exact ⟨_, rfl, rfl, concluded⟩
    | ok _ =>
      rw [read] at tail concluded
      obtain ⟨rfl, rfl⟩ := Routine.Course.of_log_pure tail
      exact ⟨_, rfl, rfl, concluded⟩

/-- After its attempt a worker writes one outcome, and concludes from the reply. -/
theorem settle_course {result : Except AttemptError Nat}
    {ended : Except Instant.Overflow (Except DbError DeliveryOutcome)}
    (course : (e.settle policy result).Course trace ended) :
    ∃ reply notes outcome, ended = .ok outcome ∧
      Action.statements trace = ((e.outcomeOf policy result).statement e.id, reply) :: notes ∧
      Action.posts trace = [] ∧ e.Concludes (e.outcomeOf policy result) reply notes outcome := by
  cases result with
  | ok status => exact succeed_course course
  | error error => exact written_course afterFailure_course course

end QueueEntry

/-! ## The whole pass -/

/-- A claimed delivery as a worker dealt with it: what the lookup gave, how the request was answered
if one was sent, the reply to the write of the outcome, and what followed from that. -/
structure Pass (policy : RetryPolicy) where
  entry : QueueEntry
  found : StoreReply
  answer : PostReply
  reply : StoreReply
  notes : Script
  outcome : Except DbError DeliveryOutcome
  concludes : entry.Concludes
    (entry.outcomeOf policy (QueueEntry.attempted (entry.request found) answer)) reply notes outcome

namespace Pass

variable {policy : RetryPolicy}

/-- What was written about the attempt. -/
def write (p : Pass policy) : OutcomeWrite :=
  p.entry.outcomeOf policy (QueueEntry.attempted (p.entry.request p.found) p.answer)

/-- The statements of a pass with their replies. -/
def statements (p : Pass policy) : Script :=
  (.webhookById p.entry.webhookId, p.found) :: (p.write.statement p.entry.id, p.reply) :: p.notes

/-- The request of a pass with its answer, if one was sent. -/
def posts (p : Pass policy) : List (Post × PostReply) :=
  QueueEntry.sent (p.entry.request p.found) p.answer

theorem concluded (p : Pass policy) :
    p.entry.Concludes p.write p.reply p.notes p.outcome := p.concludes

theorem mem_notes (p : Pass policy) {x : Statement × StoreReply} (member : x ∈ p.notes) :
    ∃ reply, x = (.touchWebhook p.entry.webhookId, reply) ∨
      x = (.countWebhookFailure p.entry.webhookId, reply) := by
  rcases p.concluded.noted with none | ⟨reply, sole⟩ | ⟨reply, sole⟩
  · rw [none] at member
    cases member
  · rw [sole, List.mem_singleton] at member
    exact ⟨reply, .inl member⟩
  · rw [sole, List.mem_singleton] at member
    exact ⟨reply, .inr member⟩

/-- A pass consists of its lookup, its write and its notes on the webhook. -/
theorem mem_statements (p : Pass policy) {x : Statement × StoreReply} (member : x ∈ p.statements) :
    x = (.webhookById p.entry.webhookId, p.found) ∨ x = (p.write.statement p.entry.id, p.reply) ∨
      ∃ reply, x = (.touchWebhook p.entry.webhookId, reply) ∨
        x = (.countWebhookFailure p.entry.webhookId, reply) := by
  rcases List.mem_cons.mp member with rfl | member
  · exact .inl rfl
  rcases List.mem_cons.mp member with rfl | member
  · exact .inr (.inl rfl)
  · exact .inr (.inr (p.mem_notes member))

end Pass

/-- Every course of the processing of a delivery is a pass. -/
theorem QueueEntry.process_course {policy : RetryPolicy} {e : QueueEntry} {trace : List Action}
    {result : Except Instant.Overflow (Except DbError DeliveryOutcome)}
    (course : (e.process policy).Course trace result) :
    ∃ p : Pass policy, p.entry = e ∧ result = .ok p.outcome ∧
      Action.statements trace = p.statements ∧ Action.posts trace = p.posts := by
  rw [process_eq] at course
  rcases course.of_bind with ⟨_, first, rest, tried, settled, rfl⟩ | ⟨overflow, halted, -⟩
  · obtain ⟨found, answer, ended, looked, posted⟩ := attempt_course tried
    obtain rfl := Except.ok.inj ended
    obtain ⟨reply, notes, outcome, rfl, wrote, silent, concludes⟩ := settle_course settled
    refine ⟨⟨e, found, answer, reply, notes, outcome, concludes⟩, rfl, rfl, ?_, ?_⟩
    · rw [Action.statements_append, looked, wrote]
      rfl
    · rw [Action.posts_append, posted, silent, List.append_nil]
      rfl
  · obtain ⟨found, answer, ended, -⟩ := attempt_course halted
    cases ended

end AlertRelay
