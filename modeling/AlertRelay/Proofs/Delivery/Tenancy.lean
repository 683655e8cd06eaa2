import AlertRelay.Proofs.Delivery.Backoff
import AlertRelay.Proofs.Delivery.Outcome

/-!
# Webhooks of other tenants

A webhook that belongs to another tenant than the delivery is as good as none: nothing is sent to
it, and what is written to the delivery is that the webhook is missing. But the notes of a worker
are addressed by the number that the delivery carries, and not by the webhook that was found to be
its tenant's. So a delivery that is given up is counted on the webhook of the other tenant; nothing
else is ever written to it.

## Main definitions

* `Statement.UpdatesWebhook` — a statement updates the row of a webhook

## Main results

* `QueueEntry.process_foreign` — what a worker does when the webhook belongs to another tenant
* `QueueEntry.foreign_webhook_counted` — a delivery that is counted on the webhook of another tenant
-/

namespace AlertRelay

/-- The statement updates the row of a webhook. Every update of that table selects by the id that it
binds first. -/
def Statement.UpdatesWebhook (s : Statement) (id : Int) : Prop :=
  s.table = "webhooks" ∧ s.verb = "UPDATE" ∧ s.params.head? = some (.int id)

theorem Statement.updatesWebhook_countWebhookFailure {webhookId id : Int} :
    (countWebhookFailure webhookId).UpdatesWebhook id ↔ id = webhookId := by
  simp [UpdatesWebhook, table, verb, params, eq_comm]

theorem Statement.not_updatesWebhook_outcome (w : OutcomeWrite) (delivery id : Int) :
    ¬ (w.statement delivery).UpdatesWebhook id := by
  rintro ⟨table, -⟩
  have queue : (w.statement delivery).table = "delivery_queue" := by cases w <;> rfl
  exact absurd (table.symm.trans queue) (by decide)

namespace QueueEntry

variable {policy : RetryPolicy} {e : QueueEntry} {webhook : WebhookRecord} {found : StoreReply}
  {write : OutcomeWrite} {reply : StoreReply} {notes : Script}
  {outcome : Except DbError DeliveryOutcome}

/-- There is no request to a webhook of another tenant. -/
theorem request_of_foreign (read : found.first? WebhookRecord.ofRow = .ok (some webhook))
    (foreign : webhook.tenantId ≠ e.tenantId) :
    e.request found = .error (.webhookMissing e.webhookId) := by
  rw [request, read]
  exact if_pos foreign

/-- A failed attempt is noted on a webhook exactly if the delivery was given up, and that was
written to a row; the note counts the failure. -/
theorem Concludes.updates_iff {previous limit id : Int} {reason : String}
    (concludes : e.Concludes (.failed (policy.afterFailure previous limit) reason) reply notes
      outcome) :
    (∃ x ∈ notes, x.1.UpdatesWebhook id) ↔
      id = e.webhookId ∧ limit ≤ min (previous + 1) maxCounter ∧ reply.anyAffected = .ok true := by
  rw [← RetryPolicy.exists_afterFailure_giveUp_iff (p := policy)]
  generalize policy.afterFailure previous limit = decision at concludes ⊢
  cases concludes with
  | unwritten broken => simp [broken]
  | lost unapplied => simp [unapplied]
  | retrying => simp
  | failed applied => simp [applied, Statement.updatesWebhook_countWebhookFailure]

/-- The only note after a failed attempt counts it. -/
theorem Concludes.counts {decision : RetryDecision} {reason : String}
    (concludes : e.Concludes (.failed decision reason) reply notes outcome) :
    ∀ x ∈ notes, x.1 = .countWebhookFailure e.webhookId := by
  cases concludes with
  | unwritten | lost | retrying => simp
  | failed => simp

/-- What is written to a delivery whose webhook is missing. -/
def missingFailure (policy : RetryPolicy) (e : QueueEntry) : OutcomeWrite :=
  e.outcomeOf policy (.error (.webhookMissing e.webhookId))

/-- When the webhook that is found belongs to another tenant, nothing is sent, and the attempt is
written as one that found no webhook. The webhook itself is left alone, unless it is the one that
the delivery names, the delivery is given up, and that is written to a row: then the failure is
counted on it. -/
theorem process_foreign {e : QueueEntry} {trace : List Action} {rest : Script}
    {result : Except Instant.Overflow (Except DbError DeliveryOutcome)}
    (course : (e.process policy).Course trace result)
    (looked : Action.statements trace = (.webhookById e.webhookId, found) :: rest)
    (read : found.first? WebhookRecord.ofRow = .ok (some webhook))
    (foreign : webhook.tenantId ≠ e.tenantId) :
    Action.posts trace = [] ∧ ∃ reply notes,
      rest = ((missingFailure policy e).statement e.id, reply) :: notes ∧
      (∀ x ∈ notes, x.1 = .countWebhookFailure e.webhookId) ∧
      ((∃ x ∈ rest, x.1.UpdatesWebhook webhook.id) ↔
        webhook.id = e.webhookId ∧ e.maxAttempts ≤ min (e.attempts + 1) maxCounter ∧
          reply.anyAffected = .ok true) := by
  obtain ⟨p, rfl, -, stated, posted⟩ := process_course course
  obtain ⟨same, rfl⟩ := List.cons.inj (stated.symm.trans looked)
  obtain ⟨-, rfl⟩ := Prod.mk.inj same
  have refused := request_of_foreign read foreign
  have written : p.write = missingFailure policy p.entry := by
    rw [Pass.write, refused]
    rfl
  have concluded := written ▸ p.concluded
  refine ⟨?_, p.reply, p.notes, by rw [written], ?_, ?_⟩
  · rw [posted, Pass.posts, refused]
    rfl
  · exact concluded.counts
  · rw [← concluded.updates_iff]
    simp [Statement.not_updatesWebhook_outcome]

/-- A webhook that belongs to another tenant than the delivery that has one attempt left. -/
def foreignWebhook : WebhookRecord :=
  { id := 5, tenantId := 22, name := "ops", url := "http://[::1]/hook", secret := "whsec",
    eventTypes := .arr [.str wildcardEvent], enabled := true, lastTriggeredAt := none,
    failureCount := 0, createdAt := ⟨0, 0⟩, updatedAt := ⟨0, 0⟩ }

/-- The database finds the webhook of the other tenant, and every write affects a row. -/
def foreignFound : Surroundings :=
  answering [.rows [foreignWebhook.row], .affected 1, .affected 1]

/-- The last attempt is counted on the webhook of the other tenant. -/
theorem foreign_webhook_counted :
    foreignWebhook.tenantId ≠ lastAttempt.tenantId ∧
      ∃ found rest, Action.statements ((lastAttempt.process .standard).run foreignFound).trace =
          (.webhookById lastAttempt.webhookId, found) :: rest ∧
        found.first? WebhookRecord.ofRow = .ok (some foreignWebhook) ∧
        ∃ x ∈ rest, x.1.UpdatesWebhook foreignWebhook.id :=
  ⟨by decide, _, _, rfl, rfl, (.countWebhookFailure 5, .affected 1),
    .tail _ (.head _), rfl, rfl, rfl⟩

/-- With two attempts left the webhook of the other tenant is left alone. -/
theorem process_foreign_retried :
    let e := { lastAttempt with attempts := 3 }
    let run := (e.process .standard).run foreignFound
    Action.posts run.trace = [] ∧ ∃ reply notes,
      (Action.statements run.trace).tail =
        ((missingFailure .standard e).statement e.id, reply) :: notes ∧
      (∀ x ∈ notes, x.1 = .countWebhookFailure e.webhookId) ∧
      ((∃ x ∈ (Action.statements run.trace).tail, x.1.UpdatesWebhook foreignWebhook.id) ↔
        foreignWebhook.id = e.webhookId ∧ e.maxAttempts ≤ min (e.attempts + 1) maxCounter ∧
          reply.anyAffected = .ok true) := by
  intro e run
  have looked : Action.statements run.trace =
      (.webhookById 5, .rows [foreignWebhook.row]) :: (Action.statements run.trace).tail := rfl
  exact process_foreign (Routine.course_run _ _) looked rfl (by decide)

end QueueEntry

end AlertRelay
