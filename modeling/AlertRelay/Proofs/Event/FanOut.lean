import AlertRelay.Event.Emitter
import AlertRelay.Proofs.Routine.Change
import AlertRelay.Proofs.Routine.Complete

/-!
# An event for all its subscribers

The subscribers of an event are asked for once, and then one delivery is queued for each, in their
order and all with the same payload. The first delivery that is not queued ends the work: those
before it stay queued, and none after it is stated. An event whose type is blank is refused before
anything is stated.

## Main definitions

* `TenantEvent.IsBlank` — the type of an event is empty or blank
* `TenantEvent.queueing` — the statement that queues an event for a webhook
* `StoreReply.Gives` — replies give entries, one each
* `TenantEvent.FansOut` — how an event goes out

## Main results

* `TenantEvent.enqueueFor_run_append` — webhooks whose deliveries are queued, and then the others
* `TenantEvent.emit_fansOut` — every event goes out so
-/

namespace AlertRelay

/-- The replies, from the first one on, give these entries, one each. -/
def StoreReply.Gives (reply : Nat → StoreReply) (entries : List QueueEntry) : Prop :=
  ∀ i entry, entries[i]? = some entry → (reply i).one QueueEntry.ofRow = .ok entry

/-- The replies after the first give what comes after the first entry. -/
theorem StoreReply.Gives.tail {reply : Nat → StoreReply} {entry : QueueEntry}
    {entries : List QueueEntry} (gives : Gives reply (entry :: entries)) :
    Gives (fun i => reply (i + 1)) entries :=
  fun i e found => gives (i + 1) e found

namespace TenantEvent

variable {e : TenantEvent} {maxAttempts : Option Int} {w w' : Surroundings} {x : WebhookRecord}
  {webhooks before later : List WebhookRecord} {entries : List QueueEntry} {error : DbError}
  {outcome : Except DbError (List Int)} {trace : List Action}

/-- The type of the event is empty or blank. -/
def IsBlank (e : TenantEvent) : Prop := ∀ c ∈ e.eventType.toList, Text.isBlank c = true

theorem allBlank_iff : Text.allBlank e.eventType = true ↔ e.IsBlank := Text.allBlank_iff

/-- The statement that queues the event for a webhook. -/
def queueing (e : TenantEvent) (maxAttempts : Option Int) (x : WebhookRecord) : Statement :=
  .enqueue (e.delivery maxAttempts x)

/-- The statement that asks for the subscribers of the event. -/
def subscription (e : TenantEvent) : Statement := .subscribedWebhooks e.tenantId e.eventType

/-! ## One webhook after another -/

/-- A delivery that is not queued ends the work. -/
theorem enqueueFor_run_of_refused (e : TenantEvent) (maxAttempts : Option Int) (x : WebhookRecord)
    (later : List WebhookRecord) (refused : (w.reply 0).one QueueEntry.ofRow = .error error) :
    (e.enqueueFor maxAttempts (x :: later)).run w =
      ⟨.ok (.error error), [⟨.execute (e.queueing maxAttempts x), w.reply 0⟩],
        w.afterStatements 1⟩ := by
  refine (Routine.run_read _ w).trans ?_
  rw [refused]
  rfl

/-- A delivery that is queued comes before those of the other webhooks. -/
theorem enqueueFor_run_of_queued {entry : QueueEntry}
    (queued : (w.reply 0).one QueueEntry.ofRow = .ok entry)
    (rest : (e.enqueueFor maxAttempts later).run (w.afterStatements 1) =
      ⟨.ok outcome, trace, w'⟩) :
    (e.enqueueFor maxAttempts (x :: later)).run w =
      ⟨.ok (outcome.map (entry.id :: ·)),
        ⟨.execute (e.queueing maxAttempts x), w.reply 0⟩ :: trace, w'⟩ := by
  refine (Routine.run_read _ w).trans ?_
  rw [queued]
  dsimp only
  -- whatever becomes of the others, the id is put before theirs
  cases outcome <;>
    simp only [Routine.run_bind_of_ok rest, pure, Routine.run_done, List.append_nil, Except.map,
      queueing]

/-- Webhooks whose deliveries are queued, and then the others. -/
theorem enqueueFor_run_append (gives : StoreReply.Gives w.reply entries)
    (each : entries.length = before.length)
    (rest : (e.enqueueFor maxAttempts later).run (w.afterStatements before.length) =
      ⟨.ok outcome, trace, w'⟩) :
    ∃ first, (e.enqueueFor maxAttempts (before ++ later)).run w =
        ⟨.ok (outcome.map (entries.map (·.id) ++ ·)), first ++ trace, w'⟩ ∧
      (Action.statements first).map Prod.fst = before.map (e.queueing maxAttempts) := by
  -- the first reply is for the first webhook, and the surroundings without it are for the others
  induction before generalizing w entries with
  | nil =>
    obtain rfl := List.length_eq_zero_iff.mp each
    refine ⟨[], ?_, rfl⟩
    rw [List.nil_append, List.nil_append]
    exact rest.trans (by cases outcome <;> rfl)
  | cons x before ih =>
    obtain ⟨entry, entries, rfl⟩ := List.exists_cons_of_length_eq_add_one each
    have others : StoreReply.Gives (w.afterStatements 1).reply entries := by
      rw [Surroundings.reply_afterStatements_one]
      exact gives.tail
    have left : (w.afterStatements 1).afterStatements before.length =
        w.afterStatements (x :: before).length := by
      rw [Surroundings.afterStatements_afterStatements, List.length_cons, Nat.add_comm]
    obtain ⟨first, ran, stated⟩ := ih others (Nat.succ.inj each) (left ▸ rest)
    refine ⟨⟨.execute (e.queueing maxAttempts x), w.reply 0⟩ :: first, ?_, ?_⟩
    · refine (enqueueFor_run_of_queued (gives 0 entry rfl) ran).trans ?_
      cases outcome <;> rfl
    · rw [Action.statements_execute, List.map_cons, stated, List.map_cons]

/-! ## The event -/

theorem emit_run_of_blank (blank : e.IsBlank) (w : Surroundings) :
    (e.emit maxAttempts).run w = ⟨.ok (.error .emptyEventType), [], w⟩ := by
  rw [emit, if_pos (allBlank_iff.mpr blank)]
  rfl

/-- Without subscribers that can be read there is nothing to queue. -/
theorem emit_run_of_unread (named : ¬ e.IsBlank)
    (unread : (w.reply 0).all WebhookRecord.ofRow = .error error) :
    (e.emit maxAttempts).run w =
      ⟨.ok (.error (.database error)), [⟨.execute e.subscription, w.reply 0⟩],
        w.afterStatements 1⟩ := by
  rw [emit, if_neg fun blank => named (allBlank_iff.mp blank)]
  refine (Routine.run_read _ w).trans ?_
  rw [unread]
  rfl

theorem logQueued_reports (e : TenantEvent) (subscribers : Nat) :
    (e.logQueued subscribers).Reports :=
  .inr ⟨_, _, _, rfl⟩

/-- The event is queued for the subscribers that were read, and nothing else is stated. -/
theorem emit_run_of_read (named : ¬ e.IsBlank)
    (read : (w.reply 0).all WebhookRecord.ofRow = .ok webhooks)
    (queued : (e.enqueueFor maxAttempts webhooks).run (w.afterStatements 1) =
      ⟨.ok outcome, trace, w'⟩) :
    ((e.emit maxAttempts).run w).statements =
        e.subscription :: (Action.statements trace).map Prod.fst ∧
      ((e.emit maxAttempts).run w).result = .ok (outcome.mapError .database) := by
  -- a report may come last, and it states nothing
  obtain ⟨report, silent, ran⟩ : ∃ report, Action.statements report = [] ∧
      (e.emit maxAttempts).run w = ⟨.ok (outcome.mapError .database),
        ⟨.execute e.subscription, w.reply 0⟩ :: (trace ++ report), w'⟩ := by
    rw [emit, if_neg fun blank => named (allBlank_iff.mp blank)]
    cases outcome with
    | error error =>
      refine ⟨[], rfl, (Routine.run_read _ w).trans ?_⟩
      rw [read]
      dsimp only
      rw [Routine.run_bind_of_ok queued]
      rfl
    | ok ids =>
      obtain ⟨report, reported, silent, -⟩ := (e.logQueued_reports ids.length).run_eq w'
      refine ⟨report, silent, (Routine.run_read _ w).trans ?_⟩
      rw [read]
      dsimp only
      rw [Routine.run_bind_of_ok queued]
      dsimp only
      rw [Routine.run_bind_of_ok reported]
      simp only [pure, Routine.run_done, List.append_nil]
      rfl
  rw [ran, Run.statements, ← Action.statements, Action.statements_execute,
    Action.statements_append, silent, List.append_nil]
  exact ⟨rfl, rfl⟩

/-- How an event goes out, on the replies to its statements. -/
structure FansOut (e : TenantEvent) (maxAttempts : Option Int) (reply : Nat → StoreReply)
    (ran : Run (Except EmitError (List Int))) : Prop where
  /-- An event whose type is blank is refused, and nothing is executed. -/
  blank : e.IsBlank → ran.trace = [] ∧ ran.result = .ok (.error .emptyEventType)
  /-- The subscribers are asked for by tenant, and by the type or the wildcard. -/
  subscription_params : e.subscription.params = [.int e.tenantId, .text e.eventType, .text "*"]
  /-- A delivery is pending and has the same payload for all, and as many attempts as are given, or
  else five. -/
  queueing_params : ∀ webhook, (e.queueing maxAttempts webhook).params =
    [.int e.tenantId, .int webhook.id, .text e.eventType, .json e.payload,
      .int (maxAttempts.getD 5), .text "pending"]
  /-- Without subscribers that can be read nothing is queued. -/
  unread : ¬ e.IsBlank → ∀ error, (reply 0).all WebhookRecord.ofRow = .error error →
    ran.statements = [e.subscription] ∧ ran.result = .ok (.error (.database error))
  /-- If every delivery is queued, there is one for each subscriber, in order, and the result is
  their ids. -/
  complete : ¬ e.IsBlank → ∀ webhooks, (reply 0).all WebhookRecord.ofRow = .ok webhooks →
    ∀ entries, entries.length = webhooks.length → StoreReply.Gives (fun i => reply (i + 1)) entries →
      ran.statements = e.subscription :: webhooks.map (e.queueing maxAttempts) ∧
        ran.result = .ok (.ok (entries.map (·.id)))
  /-- The first delivery that is not queued is the last one that is stated, and its failure is the
  result. -/
  cutOff : ¬ e.IsBlank → ∀ before x later,
    (reply 0).all WebhookRecord.ofRow = .ok (before ++ x :: later) →
      ∀ entries, entries.length = before.length →
        StoreReply.Gives (fun i => reply (i + 1)) entries →
          ∀ error, (reply (before.length + 1)).one QueueEntry.ofRow = .error error →
            ran.statements = e.subscription :: (before ++ [x]).map (e.queueing maxAttempts) ∧
              ran.result = .ok (.error (.database error))

/-- Every event goes out so, whatever the replies to its statements are. -/
theorem emit_fansOut (e : TenantEvent) (maxAttempts : Option Int) (w : Surroundings) :
    e.FansOut maxAttempts w.reply ((e.emit maxAttempts).run w) := by
  constructor
  case blank =>
    intro blank
    rw [emit_run_of_blank blank]
    exact ⟨rfl, rfl⟩
  case subscription_params => rfl
  case queueing_params => exact fun _ => rfl
  case unread =>
    intro named error unread
    rw [emit_run_of_unread named unread]
    exact ⟨rfl, rfl⟩
  case complete =>
    intro named webhooks read entries each gives
    rw [← Surroundings.reply_afterStatements_one] at gives
    -- every webhook is queued for, and none comes after them
    have ended : (e.enqueueFor maxAttempts []).run
        ((w.afterStatements 1).afterStatements webhooks.length) = ⟨.ok (.ok []), [], _⟩ := rfl
    obtain ⟨queued, ran, stated⟩ := enqueueFor_run_append gives each ended
    rw [List.append_nil, List.append_nil] at ran
    obtain ⟨statements, result⟩ := emit_run_of_read named read ran
    rw [statements, result, stated, Except.map, List.append_nil]
    exact ⟨rfl, rfl⟩
  case cutOff =>
    intro named before x later read entries each gives error refused
    rw [← Surroundings.reply_afterStatements_one] at gives
    have last : ((w.afterStatements 1).afterStatements before.length).reply 0 =
        w.reply (before.length + 1) := by
      rw [Surroundings.afterStatements_afterStatements, Surroundings.reply_afterStatements,
        Nat.add_zero, Nat.add_comm]
    rw [← last] at refused
    have ended := enqueueFor_run_of_refused e maxAttempts x later refused
    obtain ⟨queued, ran, stated⟩ := enqueueFor_run_append gives each ended
    obtain ⟨statements, result⟩ := emit_run_of_read named read ran
    rw [statements, result, Action.statements_append, List.map_append, stated, List.map_append]
    exact ⟨rfl, rfl⟩

end TenantEvent

end AlertRelay
