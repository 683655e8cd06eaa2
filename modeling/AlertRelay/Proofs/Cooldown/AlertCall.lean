import AlertRelay.Alert.Scheduler
import AlertRelay.Proofs.Routine.Only

/-!
# What one call of the scheduler may do

A call that is within the cooldown of its alert has no effect at all. Any other call looks metrics
up and, if the alert triggers, announces it: it records the trigger and queues deliveries. Whatever
the database answers on the way, a call that announces also sets the last trigger, of its own alert
and to its own instant.

## Main definitions

* `Statement.announces`, `Statement.stamps` — the statements that announce and that re-arm
* `Routine.Accounted` — what announces also re-arms
* `AlertRecord.IsDueAt` — the cooldown of the stored alert is over

## Main results

* `AlertRecord.process_of_cooling` — a call within the cooldown has no effect
* `AlertRecord.process_stampsOnly` — a call stamps its own alert, with its own instant
* `AlertRecord.process_accounted` — a call that announces also re-arms the cooldown
-/

namespace AlertRelay

/-! ## Statements that announce and that re-arm -/

/-- The statement announces a trigger: it records one or queues a delivery. -/
def Statement.announces : Statement → Bool
  | .insertHistory _ | .enqueue _ => true
  | _ => false

/-- The statement sets the last trigger of an alert. -/
def Statement.stamps : Statement → Bool
  | .setAlertTriggered _ _ => true
  | _ => false

namespace Effect

/-- The effect announces a trigger. -/
def announces : Effect → Bool
  | .execute s => s.announces
  | _ => false

/-- The effect sets a last trigger. -/
def stamps : Effect → Bool
  | .execute s => s.stamps
  | _ => false

/-- The effect neither announces nor sets a last trigger. -/
def IsQuiet (e : Effect) : Prop := e.announces = false ∧ e.stamps = false

/-- The effect sets no last trigger but that of the alert `id`, to `now`. -/
def StampsOnly (id : Int) (now : Instant) (e : Effect) : Prop :=
  e.stamps = true → e = .execute (.setAlertTriggered id now)

/-- The effect asks the database for nothing but rows. -/
def ReadsOnly : Effect → Prop := Asks fun s => s.verb = "SELECT"

theorem ReadsOnly.isQuiet {e : Effect} (h : e.ReadsOnly) : e.IsQuiet := by
  cases e with
  | execute s => cases s <;> first | exact ⟨rfl, rfl⟩ | simp [ReadsOnly, Asks, Statement.verb] at h
  | _ => exact ⟨rfl, rfl⟩

theorem stampsOnly_of_not {e : Effect} (h : e.stamps = false) (id : Int) (now : Instant) :
    e.StampsOnly id now := by
  intro stamps
  rw [h] at stamps
  cases stamps

end Effect

/-! ## What a call may do -/

namespace Routine

variable {α β : Type} {r : Routine α} {f : α → Routine β} {P : Effect → Prop}

/-- Along every run that announces, a last trigger is set. -/
def Accounted (r : Routine α) : Prop :=
  ∀ w, (∃ x ∈ (r.run w).trace, x.effect.announces = true) →
    ∃ x ∈ (r.run w).trace, x.effect.stamps = true

theorem Only.accounted (h : r.Only Effect.IsQuiet) : r.Accounted := by
  rintro w ⟨x, member, announces⟩
  rw [(h.of_mem_trace w x member).1] at announces
  cases announces

/-- What a routine does after a quiet one decides. -/
theorem Only.bind_accounted (h : r.Only Effect.IsQuiet) (next : ∀ a, (f a).Accounted) :
    (r >>= f).Accounted := by
  intro w
  rw [run_bind]
  cases (r.run w).result with
  | error o => exact h.accounted w
  | ok a =>
    -- an announcement is in one of the two parts, and its stamp is in the same part
    rintro ⟨x, member, announces⟩
    rcases List.mem_append.mp member with member | member
    · obtain ⟨y, stamped, stamps⟩ := h.accounted w ⟨x, member, announces⟩
      exact ⟨y, List.mem_append_left _ stamped, stamps⟩
    · obtain ⟨y, stamped, stamps⟩ := next a _ ⟨x, member, announces⟩
      exact ⟨y, List.mem_append_right _ stamped, stamps⟩

end Routine

namespace Rule

variable {r : Rule} {source : MetricSource Routine} {now : Instant} {P : Effect → Prop}

theorem observe_only (lookups : ∀ q, (source q).Only P) (start : Instant)
    (conditions : List Condition) : (r.observe source start now conditions).Only P := by
  induction conditions with
  | nil => exact Routine.only_pure _
  | cons c rest ih =>
    refine (lookups _).bind fun found => ?_
    cases found with
    | error e => exact Routine.only_pure _
    | ok value =>
      refine ih.bind fun observed => ?_
      cases observed <;> exact Routine.only_pure _

/-- Evaluating a rule does nothing but look metrics up. -/
theorem evaluateIfDue_only (lookups : ∀ q, (source q).Only P) :
    (r.evaluateIfDue source now).Only P := by
  rw [evaluateIfDue]
  split
  · exact Routine.only_pure _
  · exact Routine.only_pure _
  · refine Routine.Only.bind ?_ fun outcome => ?_
    · rw [evaluate]
      split
      · exact Routine.only_pure _
      · refine (observe_only lookups _ _).bind fun observed => ?_
        cases observed <;> exact Routine.only_pure _
    · cases outcome <;> exact Routine.only_pure _

end Rule

namespace AlertRecord

variable {a : AlertRecord} {source : MetricSource Routine} {now : Instant}

/-! ## One call -/

section Notify

variable {P : Effect → Prop} (logs : ∀ entry, P (.log entry))
  (finds : ∀ tenant id, P (.execute (.webhookOfTenant tenant id)))
  (queues : ∀ delivery, P (.execute (.enqueue delivery)))

include finds queues in
theorem dispatch_only (payload : Json) (c : Channel) : (a.dispatch payload c).Only P := by
  cases c with
  | unsupported => exact Routine.only_pure _
  | webhook id =>
    refine Routine.only_read (finds _ _) fun found => ?_
    rcases found with _ | _ | webhook
    · exact Routine.only_pure _
    · exact Routine.only_pure _
    · dsimp only
      split
      · refine Routine.only_read (queues _) fun queued => ?_
        cases queued <;> exact Routine.only_pure _
      · exact Routine.only_pure _

include logs finds queues

theorem dispatchAll_only (payload : Json) (channels : List Channel) :
    (a.dispatchAll payload channels).Only P := by
  induction channels with
  | nil => exact Routine.only_pure _
  | cons c rest ih =>
    refine (dispatch_only finds queues payload c).bind fun outcome => ?_
    cases outcome with
    | ok id => exact ih.bind fun _ => Routine.only_pure _
    | error e =>
      exact (Routine.only_log logs _ _ _).bind fun _ => ih.bind fun _ => Routine.only_pure _

/-- Announcing a trigger finds webhooks and queues deliveries. -/
theorem notify_only (trigger : Trigger) : (a.notify trigger).Only P := by
  rw [notify]
  split
  · exact Routine.only_pure _
  · refine (dispatchAll_only logs finds queues _ _).bind fun outcome => ?_
    split <;> exact Routine.only_pure _

end Notify

/-- A trigger sets the last trigger of its own alert, to its own instant. -/
theorem fire_stampsOnly (metadata : Json) :
    (a.fire now metadata).Only (Effect.StampsOnly a.id now) := by
  have other {e : Effect} (h : e.stamps = false) := Effect.stampsOnly_of_not h a.id now
  have logs (entry : LogEntry) : (Effect.log entry).StampsOnly a.id now := other rfl
  -- the record, the stamp, the report and the announcement, in this order
  refine Routine.Only.bind ?_ fun historyId => ?_
  · refine Routine.only_read (other rfl) fun stored => ?_
    cases stored with
    | ok record => exact Routine.only_pure _
    | error e => exact Routine.only_log_pure logs _ _ _ _
  refine Routine.Only.bind ?_ fun _ => ?_
  · refine Routine.only_read (fun _ => rfl) fun stored => ?_
    cases stored with
    | ok _ => exact Routine.only_pure _
    | error e => exact Routine.only_log logs _ _ _
  refine (Routine.only_log logs _ _ _).bind fun _ => ?_
  refine (notify_only logs (fun _ _ => other rfl) (fun _ => other rfl) _).bind fun outcome => ?_
  cases outcome <;> exact Routine.only_pure _

theorem recordTrigger_isOk (metadata : Json) (w : Surroundings) :
    ∃ historyId, ((a.recordTrigger now metadata).run w).result = .ok historyId := by
  rw [recordTrigger, Routine.run_bind]
  change ∃ historyId, (Routine.run _ _).result = _
  split
  · exact ⟨_, rfl⟩
  · exact ⟨none, rfl⟩

/-- A trigger is stamped on every path: whether or not it was recorded, and before any channel is
tried. -/
theorem fire_accounted (metadata : Json) : (a.fire now metadata).Accounted := by
  intro w _
  -- recording always comes back, with or without an id, and the stamp is the next effect
  obtain ⟨historyId, recorded⟩ := recordTrigger_isOk metadata w
  rw [fire, Routine.run_bind, recorded]
  exact ⟨_, List.mem_append_right _ List.mem_cons_self, rfl⟩

/-- An evaluation is concluded by a warning at most, and then by firing or by nothing. -/
theorem conclude_eq (a : AlertRecord) (now : Instant) (e : Evaluation) :
    a.conclude now e =
      (if e.hasUnknownOperator then
        Routine.log .warn "Alert has an unknown operator" [LogEntry.number "alert_id" a.id]
      else pure ()) >>= fun _ =>
        if e.triggered then a.fire now e.metadata else pure (.ok .notTriggered) := by
  rw [conclude]
  split <;> rfl

theorem warning_only {P : Effect → Prop} (logs : ∀ entry, P (.log entry)) (warns : Bool)
    (message : String) (fields : List (String × String)) :
    (if warns then Routine.log .warn message fields else pure ()).Only P := by
  cases warns with
  | false => exact Routine.only_pure _
  | true => exact Routine.only_log logs _ _ _

/-- A call stamps its own alert only, with its own instant. -/
theorem process_stampsOnly (lookups : ∀ q, (source q).Only Effect.ReadsOnly) :
    (a.process source now).Only (Effect.StampsOnly a.id now) := by
  have stamping (q : MetricQuery) : (source q).Only (Effect.StampsOnly a.id now) :=
    (lookups q).mono fun e reads => Effect.stampsOnly_of_not reads.isQuiet.2 a.id now
  rw [process]
  split
  · exact Routine.only_pure _
  refine (Rule.evaluateIfDue_only stamping).bind fun outcome => ?_
  rcases outcome with (o | e) | _ | evaluation
  · trivial
  · exact Routine.only_pure _
  · exact Routine.only_pure _
  · dsimp only
    rw [conclude_eq]
    refine (warning_only (fun _ => Effect.stampsOnly_of_not rfl _ _) _ _ _).bind fun _ => ?_
    split
    · exact fire_stampsOnly _
    · exact Routine.only_pure _

/-- A call that announces also sets the last trigger, whatever becomes of the announcement. -/
theorem process_accounted (lookups : ∀ q, (source q).Only Effect.ReadsOnly) :
    (a.process source now).Accounted := by
  have quiet (q : MetricQuery) : (source q).Only Effect.IsQuiet :=
    (lookups q).mono fun e => Effect.ReadsOnly.isQuiet
  have silent {α : Type} (outcome : α) : (pure outcome : Routine α).Accounted :=
    Routine.Only.accounted (Routine.only_pure _)
  rw [process]
  split
  · exact silent _
  refine (Rule.evaluateIfDue_only quiet).bind_accounted fun outcome => ?_
  rcases outcome with (o | e) | _ | evaluation
  · exact Routine.Only.accounted trivial
  · exact silent _
  · exact silent _
  · dsimp only
    rw [conclude_eq]
    refine (warning_only (fun _ => ⟨rfl, rfl⟩) _ _ _).bind_accounted fun _ => ?_
    split
    · exact fire_accounted _
    · exact silent _

/-- The cooldown of the stored alert is over at `now`. -/
def IsDueAt (a : AlertRecord) (now : Instant) : Prop :=
  ∀ last, a.lastTriggeredAt = some last → last.moved a.cooldownSeconds < now

theorem cooldown_of_rule {rule : Rule} (h : a.rule = .ok rule) :
    rule.cooldownSeconds = a.cooldownSeconds ∧ rule.lastTriggeredAt = a.lastTriggeredAt := by
  rw [AlertRecord.rule] at h
  split at h
  · cases h
  · split at h
    · cases h
    · obtain rfl := Except.ok.inj h
      exact ⟨rfl, rfl⟩

/-- A call within the cooldown has no effect at all. -/
theorem process_of_cooling (cooling : ¬ a.IsDueAt now) :
    (a.process source now).Only fun _ => False := by
  rw [process]
  split
  case h_1 => exact Routine.only_pure _
  case h_2 rule decoded =>
    rw [Rule.evaluateIfDue]
    cases due : rule.isDue now with
    | error o => trivial
    | ok ready =>
      cases ready with
      | false => exact Routine.only_pure _
      | true =>
        -- a rule that is due says of the stored alert what `cooling` denies
        obtain ⟨cooldown, last⟩ := cooldown_of_rule decoded
        have free : ¬ rule.CoolsAt now := (Rule.isDue_eq_true_iff due).mp rfl
        refine absurd (fun t stored => ?_) cooling
        rw [← cooldown]
        exact Decidable.byContradiction fun early => free ⟨t, last.trans stored, early⟩

end AlertRecord

end AlertRelay
