import AlertRelay.Proofs.Delivery.Pass

/-!
# One outcome for one delivery

Whatever the database replies and however the receiver answers, a worker that deals with a claimed
delivery looks the webhook up once and writes one outcome. The outcome says that the delivery was
made exactly if a request was answered with success, and every other outcome is what the retry
policy decides, also when the lookup itself failed. The write acts on nothing but the claimed row,
and only if it affected a row is there a note on the webhook.

## Main definitions

* `QueueEntry.SettlesOnce` — how the outcome follows from the requests, and the notes and the result
  from the reply to its write

## Main results

* `QueueEntry.process_settlesOnce` — every course of the processing of a delivery is of this form
-/

namespace AlertRelay

namespace QueueEntry

variable {policy : RetryPolicy} {e : QueueEntry} {request : Except AttemptError Post}
  {answer : PostReply} {write : OutcomeWrite} {reply : StoreReply}
  {notes : Script} {outcome : Except DbError DeliveryOutcome}

/-! ## What is written -/

theorem attempted_eq_ok_iff {code : Nat} :
    attempted request answer = .ok code ↔
      ∃ p, request = .ok p ∧ answer = .status code ∧ Post.isSuccess code = true := by
  cases request with
  | error error => simp [attempted]
  | ok p =>
    simp [attempted, mapError_eq_ok_iff, Post.outcome_eq_ok_iff]

theorem outcomeOf_eq_delivered_iff {result : Except AttemptError Nat} :
    e.outcomeOf policy result = .delivered ↔ ∃ code, result = .ok code := by
  cases result <;> simp [outcomeOf]

/-- The outcome is a delivery exactly if a request was sent and answered with success. -/
theorem outcomeOf_attempted_iff :
    e.outcomeOf policy (attempted request answer) = .delivered ↔
      ∃ p code, sent request answer = [(p, .status code)] ∧ Post.isSuccess code = true := by
  simp only [outcomeOf_eq_delivered_iff, attempted_eq_ok_iff]
  cases request with
  | error error => simp [sent]
  | ok p =>
    constructor
    · rintro ⟨code, -, -, rfl, success⟩
      exact ⟨p, code, rfl, success⟩
    · rintro ⟨_, code, sole, success⟩
      obtain ⟨-, rfl⟩ := Prod.mk.inj (List.singleton_inj.mp sole)
      exact ⟨code, p, rfl, rfl, success⟩

/-- Any other outcome is what the policy decides. -/
theorem outcomeOf_of_ne {result : Except AttemptError Nat}
    (undelivered : e.outcomeOf policy result ≠ .delivered) :
    ∃ reason, e.outcomeOf policy result =
      .failed (policy.afterFailure e.attempts e.maxAttempts) reason := by
  cases result with
  | ok status => exact absurd rfl undelivered
  | error error => exact ⟨_, rfl⟩

/-- The write of an outcome leaves every row but the one that it is written to, and that one too
unless it is being processed. -/
theorem mem_rows_of_not_claimed {t : QueueTable} {x : QueueEntry} {id : Int} (member : x ∈ t.rows)
    (other : ¬ (x.id = id ∧ x.Has .processing)) (o : Occasion) (w : OutcomeWrite) :
    x ∈ (t.answer o (.execute (w.statement id))).1.rows := by
  rw [QueueTable.answer_outcome]
  refine QueueTable.mem_update_of_not_selects member (fun selected => other ?_) o.now
  rwa [OutcomeWrite.change, Bool.and_eq_true, beq_iff_eq, beq_iff_eq] at selected

/-! ## What follows -/

/-- How a worker deals with a claimed delivery: the requests that it sends, the outcome that it
writes, and what follows from the reply to that write, namely its notes on the webhook and the
result. -/
structure SettlesOnce (policy : RetryPolicy) (e : QueueEntry) (posts : List (Post × PostReply))
    (write : OutcomeWrite) (reply : StoreReply) (notes : Script)
    (outcome : Except DbError DeliveryOutcome) : Prop where
  posts_le : posts.length ≤ 1
  /-- The outcome is a delivery exactly if a request was sent and answered with success. -/
  delivered_iff : write = .delivered ↔
    ∃ p code, posts = [(p, .status code)] ∧ Post.isSuccess code = true
  /-- Any other outcome is what the policy decides from the row as it was claimed. -/
  failed_of_ne : write ≠ .delivered →
    ∃ reason, write = .failed (policy.afterFailure e.attempts e.maxAttempts) reason
  /-- The write changes no row but that of the delivery, and only while it is being processed. -/
  guarded : ∀ (t : QueueTable) (o : Occasion), ∀ x ∈ t.rows, ¬ (x.id = e.id ∧ x.Has .processing) →
    x ∈ (t.answer o (.execute (write.statement e.id))).1.rows
  noted : notes = [] ∨ (∃ touched, notes = [(.touchWebhook e.webhookId, touched)]) ∨
    ∃ counted, notes = [(.countWebhookFailure e.webhookId, counted)]
  /-- The delivery is noted on the webhook exactly if it was written to a row. -/
  touched_iff : (∃ touched, notes = [(.touchWebhook e.webhookId, touched)]) ↔
    write = .delivered ∧ reply.anyAffected = .ok true
  /-- The failure is counted on the webhook exactly if the delivery was given up, and that was
  written to a row. -/
  counted_iff : (∃ counted, notes = [(.countWebhookFailure e.webhookId, counted)]) ↔
    (∃ attempts reason, write = .failed (.giveUp attempts) reason) ∧ reply.anyAffected = .ok true
  unwritten : ∀ error, reply.anyAffected = .error error → notes = [] ∧ outcome = .error error
  lost : reply.anyAffected = .ok false → notes = [] ∧ outcome = .ok .claimLost
  /-- What became of the note on the webhook does not matter to a delivery that was made. -/
  made : reply.anyAffected = .ok true → write = .delivered → outcome = .ok .delivered
  retrying : reply.anyAffected = .ok true → ∀ attempts delay reason,
    write = .failed (.retry attempts delay) reason → notes = [] ∧ outcome = .ok .retrying
  /-- A delivery that was given up is reported as failed unless the count fails. -/
  failed : reply.anyAffected = .ok true → ∀ attempts reason,
    write = .failed (.giveUp attempts) reason →
      ∃ counted : StoreReply, notes = [(.countWebhookFailure e.webhookId, counted)] ∧
        outcome = counted.ran.map fun _ => .failed

namespace Concludes

theorem touched_iff (concludes : e.Concludes write reply notes outcome) :
    (∃ touched, notes = [(.touchWebhook e.webhookId, touched)]) ↔
      write = .delivered ∧ reply.anyAffected = .ok true := by
  cases concludes with
  | unwritten broken => simp [broken]
  | lost unapplied => simp [unapplied]
  | delivered applied touched => simp [applied]
  | retrying | failed => simp

theorem counted_iff (concludes : e.Concludes write reply notes outcome) :
    (∃ counted, notes = [(.countWebhookFailure e.webhookId, counted)]) ↔
      (∃ attempts reason, write = .failed (.giveUp attempts) reason) ∧
        reply.anyAffected = .ok true := by
  cases concludes with
  | unwritten broken => simp [broken]
  | lost unapplied => simp [unapplied]
  | delivered | retrying => simp
  | failed applied attempts reason counted => simp [applied]

theorem of_unwritten (concludes : e.Concludes write reply notes outcome) {error : DbError}
    (broken : reply.anyAffected = .error error) : notes = [] ∧ outcome = .error error := by
  cases concludes with
  | unwritten failing =>
    obtain rfl := Except.error.inj (failing.symm.trans broken)
    exact ⟨rfl, rfl⟩
  | lost other | delivered other | retrying other | failed other =>
    cases other.symm.trans broken

theorem of_lost (concludes : e.Concludes write reply notes outcome)
    (unapplied : reply.anyAffected = .ok false) : notes = [] ∧ outcome = .ok .claimLost := by
  cases concludes with
  | lost => exact ⟨rfl, rfl⟩
  | unwritten other | delivered other | retrying other | failed other =>
    cases other.symm.trans unapplied

theorem of_delivered (concludes : e.Concludes .delivered reply notes outcome)
    (applied : reply.anyAffected = .ok true) : outcome = .ok .delivered := by
  cases concludes with
  | unwritten other | lost other => cases other.symm.trans applied
  | delivered => rfl

theorem of_retry {attempts : Int} {delay : Span} {reason : String}
    (concludes : e.Concludes (.failed (.retry attempts delay) reason) reply notes outcome)
    (applied : reply.anyAffected = .ok true) : notes = [] ∧ outcome = .ok .retrying := by
  cases concludes with
  | unwritten other | lost other => cases other.symm.trans applied
  | retrying => exact ⟨rfl, rfl⟩

theorem of_giveUp {attempts : Int} {reason : String}
    (concludes : e.Concludes (.failed (.giveUp attempts) reason) reply notes outcome)
    (applied : reply.anyAffected = .ok true) :
    ∃ counted : StoreReply, notes = [(.countWebhookFailure e.webhookId, counted)] ∧
      outcome = counted.ran.map fun _ => .failed := by
  cases concludes with
  | unwritten other | lost other => cases other.symm.trans applied
  | failed _ _ _ counted => exact ⟨counted, rfl, rfl⟩

end Concludes

theorem length_sent_le (request : Except AttemptError Post) (answer : PostReply) :
    (sent request answer).length ≤ 1 := by
  cases request with
  | error error => exact Nat.zero_le 1
  | ok p => exact Nat.le_refl 1

end QueueEntry

variable {policy : RetryPolicy}

theorem Pass.settlesOnce (p : Pass policy) :
    p.entry.SettlesOnce policy p.posts p.write p.reply p.notes p.outcome where
  posts_le := QueueEntry.length_sent_le _ _
  delivered_iff := QueueEntry.outcomeOf_attempted_iff
  failed_of_ne := QueueEntry.outcomeOf_of_ne
  guarded _ o _ member other := QueueEntry.mem_rows_of_not_claimed member other o _
  noted := p.concluded.noted
  touched_iff := p.concluded.touched_iff
  counted_iff := p.concluded.counted_iff
  unwritten _ broken := p.concluded.of_unwritten broken
  lost unapplied := p.concluded.of_lost unapplied
  made applied delivered := (delivered ▸ p.concluded).of_delivered applied
  retrying applied _ _ _ retried := (retried ▸ p.concluded).of_retry applied
  failed applied _ _ givenUp := (givenUp ▸ p.concluded).of_giveUp applied

namespace QueueEntry

/-- Whatever the database replies and the receiver answers, a worker looks the webhook of a claimed
delivery up, writes one outcome to the delivery, and goes on as the reply to that write says. -/
theorem process_settlesOnce {e : QueueEntry} {trace : List Action}
    {result : Except Instant.Overflow (Except DbError DeliveryOutcome)}
    (course : (e.process policy).Course trace result) :
    ∃ found write reply notes outcome, result = .ok outcome ∧
      Action.statements trace =
        (.webhookById e.webhookId, found) :: (write.statement e.id, reply) :: notes ∧
      e.SettlesOnce policy (Action.posts trace) write reply notes outcome := by
  obtain ⟨p, rfl, ended, stated, posted⟩ := process_course course
  refine ⟨p.found, p.write, p.reply, p.notes, p.outcome, ended, stated, ?_⟩
  rw [posted]
  exact p.settlesOnce

/-- A delivery that has one attempt left. -/
def lastAttempt : QueueEntry :=
  { id := 9, tenantId := 21, webhookId := 5, eventType := "report.ready", payload := .null,
    attempts := 4, maxAttempts := 5, nextRetryAt := ⟨0, 0⟩,
    status := DeliveryStatus.processing.name, lastError := some "Webhook timed out",
    createdAt := ⟨0, 0⟩, updatedAt := ⟨0, 0⟩ }

/-- A database that answers with these replies, and a receiver that answers with success at the
address of the machine itself. -/
def answering (replies : List StoreReply) : Surroundings where
  replies := replies
  receiver := "[::1]"
  answers := []
  metrics _ query := .error ⟨query.metricName, "no such metric"⟩
  clock _ := ⟨0, 0⟩

/-- The last attempt finds no webhook, and the count of the failure fails too. -/
theorem process_settlesOnce_lastAttempt :
    let run := (lastAttempt.process .standard).run
      (answering [.rows [], .affected 1, .failed .unreachable])
    run.result = .ok (.error .unreachable) ∧
      ∃ found write reply notes outcome, run.result = .ok outcome ∧
        Action.statements run.trace =
          (.webhookById 5, found) :: (write.statement 9, reply) :: notes ∧
        lastAttempt.SettlesOnce .standard (Action.posts run.trace) write reply notes outcome :=
  ⟨rfl, process_settlesOnce (Routine.course_run _ _)⟩

end QueueEntry

end AlertRelay
