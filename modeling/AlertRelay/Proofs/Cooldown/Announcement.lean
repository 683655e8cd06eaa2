import AlertRelay.Proofs.Cooldown.AlertCall
import AlertRelay.Proofs.Cooldown.Pacing
import AlertRelay.Store.Samples

/-!
# The cooldown across calls of the scheduler

The scheduler reads an alert, processes it, and leaves the last trigger to the database. Between
two calls all that is remembered is the instant that the last update bound. That is enough: a call
that announces always updates the last trigger as well, so the announcements of an alert are paced
by its cooldown, also when its history cannot be written and when its channels fail.

## Main definitions

* `AlertRecord.afterAction` — the stored alert after a statement and its reply
* `AlertCall` — one call of the scheduler, with everything that answers it
* `AlertRecord.records` — a run of calls on one stored alert

## Main results

* `AlertRecord.records_paced` — the calls that re-arm are paced by the cooldown
* `AlertRecord.announcements_apart` — announcements are more than a cooldown apart
-/

namespace AlertRelay

/-- The update of a last trigger ran, if the action is one. -/
def Action.StampRan (x : Action) : Prop :=
  ∀ asked ∈ x.statement?, asked.1.stamps = true → asked.2.ran.isOk = true

instance (x : Action) : Decidable x.StampRan :=
  inferInstanceAs
    (Decidable (∀ asked ∈ x.statement?, asked.1.stamps = true → asked.2.ran.isOk = true))

namespace AlertRecord

variable {a : AlertRecord} {now : Instant}

/-! ## The stored alert between calls -/

/-- The stored alert after an action: an update of its last trigger that ran sets it to the instant
that was bound. -/
def afterAction (a : AlertRecord) : Action → AlertRecord
  | ⟨.execute (.setAlertTriggered id t), reply⟩ =>
    match reply.ran, (Statement.setAlertTriggered id t).params with
    | .ok (), [.int key, .time bound] =>
      if key = a.id then { a with lastTriggeredAt := some bound } else a
    | _, _ => a
  | _ => a

theorem afterAction_of_not_stamps {x : Action} (h : x.effect.stamps = false) :
    a.afterAction x = a := by
  unfold afterAction
  split
  · cases h
  · rfl

theorem afterAction_of_stamps {x : Action} (own : x.effect.StampsOnly a.id now)
    (stamps : x.effect.stamps = true) (ran : x.StampRan) :
    a.afterAction x = { a with lastTriggeredAt := some now.toMicros } := by
  obtain ⟨effect, reply⟩ := x
  obtain rfl := own stamps
  have ran : (StoreReply.ran reply).isOk = true := ran _ rfl rfl
  cases result : StoreReply.ran reply with
  | error e => rw [result] at ran; cases ran
  | ok _ => simp [afterAction, result, Statement.params, Statement.boundTime]

/-- The stored alert after the actions of a call that stamped it, if its updates ran. -/
theorem foldl_afterAction {trace : List Action} (own : ∀ x ∈ trace, x.effect.StampsOnly a.id now)
    (ran : ∀ x ∈ trace, x.StampRan) :
    trace.foldl afterAction a =
      { a with lastTriggeredAt :=
          if trace.any (·.effect.stamps) then some now.toMicros else a.lastTriggeredAt } := by
  induction trace generalizing a with
  | nil => rfl
  | cons x rest ih =>
    rw [List.forall_mem_cons] at own ran
    rw [List.foldl_cons, List.any_cons]
    cases stamps : x.effect.stamps with
    | false =>
      rw [afterAction_of_not_stamps stamps, ih own.2 ran.2, Bool.false_or]
    | true =>
      -- a later stamp of the same call would bind the same instant
      rw [afterAction_of_stamps own.1 stamps ran.1,
        ih (a := { a with lastTriggeredAt := some now.toMicros }) own.2 ran.2, Bool.true_or]
      simp

end AlertRecord

/-- One call of the scheduler: when, with a source of metrics that only reads, and everything that
answers it. -/
structure AlertCall where
  now : Instant
  source : MetricSource Routine
  reads : ∀ q, (source q).Only Effect.ReadsOnly
  surroundings : Surroundings

theorem Routine.measure_reads (q : MetricQuery) : (measure q).Only Effect.ReadsOnly :=
  only_effect trivial

theorem SampleStore.source_reads (q : MetricQuery) : (source q).Only Effect.ReadsOnly :=
  ⟨rfl, fun _ => trivial⟩

/-- What a call did. -/
structure CallRecord where
  now : Instant
  trace : List Action

namespace CallRecord

/-- The call recorded a trigger or queued a delivery, or tried to. -/
def announces (x : CallRecord) : Bool := x.trace.any (·.effect.announces)

/-- The call set a last trigger, or tried to. -/
def stamps (x : CallRecord) : Bool := x.trace.any (·.effect.stamps)

/-- A call as a moment at which the cooldown was consulted. -/
def moment (x : CallRecord) : Moment := ⟨x.now, if x.stamps then some x.now.toMicros else none⟩

end CallRecord

namespace AlertRecord

variable {a : AlertRecord} {c : AlertCall}

/-- What a call does to a stored alert. -/
def call (a : AlertRecord) (c : AlertCall) : CallRecord :=
  ⟨c.now, ((a.process c.source c.now).run c.surroundings).trace⟩

/-- The stored alert after a call. -/
def afterCall (a : AlertRecord) (c : AlertCall) : AlertRecord :=
  (a.call c).trace.foldl afterAction a

/-- What the calls of a run do to a stored alert, each on what the one before left. -/
def records (a : AlertRecord) : List AlertCall → List CallRecord
  | [] => []
  | c :: rest => a.call c :: (a.afterCall c).records rest

theorem stamps_of_announces (announces : (a.call c).announces = true) :
    (a.call c).stamps = true := by
  rw [CallRecord.announces, List.any_eq_true] at announces
  rw [CallRecord.stamps, List.any_eq_true]
  exact process_accounted c.reads _ announces

theorem isDueAt_of_stamps (stamps : (a.call c).stamps = true) : a.IsDueAt c.now := by
  rw [CallRecord.stamps, List.any_eq_true] at stamps
  obtain ⟨x, member, -⟩ := stamps
  exact Classical.byContradiction fun cooling =>
    (process_of_cooling cooling).of_mem_trace _ x member

theorem afterCall_eq (ran : ∀ x ∈ (a.call c).trace, x.StampRan) :
    a.afterCall c =
      { a with lastTriggeredAt :=
          if (a.call c).stamps then some c.now.toMicros else a.lastTriggeredAt } :=
  foldl_afterAction ((process_stampsOnly c.reads).of_mem_trace _) ran

/-- The calls that set the last trigger are paced by the cooldown. -/
theorem records_paced {calls : List AlertCall} (nonnegative : 0 ≤ a.cooldownSeconds)
    (whole : ∀ c ∈ calls, 1000 ∣ c.now.nanos)
    (ran : ∀ x ∈ a.records calls, ∀ y ∈ x.trace, y.StampRan) :
    Paced a.cooldownSeconds a.lastTriggeredAt ((a.records calls).map CallRecord.moment) := by
  induction calls generalizing a with
  | nil => exact .nil _
  | cons c rest ih =>
    rw [List.forall_mem_cons] at whole
    rw [records, List.forall_mem_cons] at ran
    have after := afterCall_eq ran.1
    have paced := ih (a := a.afterCall c) (by rw [after]; exact nonnegative) whole.2 ran.2
    rw [records, List.map_cons, CallRecord.moment]
    rw [after] at paced ⊢
    cases stamps : (a.call c).stamps with
    | false =>
      rw [stamps] at paced
      exact .quiet paced
    | true =>
      rw [stamps] at paced
      exact .fire (isDueAt_of_stamps stamps) (Instant.le_toMicros whole.1)
        (Instant.moved_le_moved_toMicros whole.1 nonnegative) paced

/-- A call that announces is one at which something fired. -/
theorem fires_of_announces {calls : List AlertCall} {x : CallRecord} (member : x ∈ a.records calls)
    (announces : x.announces = true) : x.moment.Fires := by
  induction calls generalizing a with
  | nil => cases member
  | cons c rest ih =>
    rcases List.mem_cons.mp member with rfl | member
    · rw [CallRecord.moment, stamps_of_announces announces]
      rfl
    · exact ih member

/-- Announcements of an alert are more than a cooldown apart, whatever its database and its metrics
answer and in whatever order the calls come. -/
theorem announcements_apart {calls : List AlertCall} (nonnegative : 0 ≤ a.cooldownSeconds)
    (whole : ∀ c ∈ calls, 1000 ∣ c.now.nanos)
    (ran : ∀ x ∈ a.records calls, ∀ y ∈ x.trace, y.StampRan) :
    (a.records calls).Pairwise fun x y => x.announces = true → y.announces = true →
      x.now.moved a.cooldownSeconds < y.now := by
  have paced := (records_paced nonnegative whole ran).pairwise nonnegative
  refine (List.pairwise_map.mp paced).imp_of_mem fun hx hy apart announced announces => ?_
  exact apart (fires_of_announces hx announced) (fires_of_announces hy announces)

/-! ## A run whose history cannot be written -/

/-- An alert with a cooldown of a minute that triggers above a load of 80. -/
def loadAlert : AlertRecord :=
  { id := 7
    tenantId := 1
    name := "load"
    conditions := .arr [.obj [("metric_name", .str "load"), ("aggregation", .str "avg"),
      ("operator", .str "gt"), ("threshold", .double 80)]]
    conditionLogic := "AND"
    windowSeconds := 300
    cooldownSeconds := 60
    severity := "high"
    channels := .arr [.obj [("type", .str "webhook"), ("webhook_id", .int 3)]]
    enabled := true
    lastTriggeredAt := none
    createdAt := ⟨0, 0⟩
    updatedAt := ⟨0, 0⟩ }

/-- A call under a load of 90. -/
def overloaded (now : Instant) (replies : List StoreReply) : AlertCall :=
  { now
    source := Routine.measure
    reads := Routine.measure_reads
    surroundings :=
      { replies
        receiver := ""
        answers := []
        metrics := fun _ _ => .ok 90
        clock := fun _ => now } }

/-- Calls at the end of a cooldown, back in time, and after its end. No trigger record can be
written, and the channel of the alert fails in two ways. -/
def overloadedCalls : List AlertCall :=
  [overloaded ⟨1000, 0⟩ [.failed (.refused "disk full"), .affected 1],
   overloaded ⟨1060, 0⟩ [], overloaded ⟨900, 0⟩ [],
   overloaded ⟨1060, 1000⟩ [.failed (.refused "disk full"), .affected 1, .rows []]]

theorem announcements_apart_overloaded :
    (loadAlert.records overloadedCalls).map (·.announces) = [true, false, false, true] ∧
      (loadAlert.records overloadedCalls).Pairwise fun x y =>
        x.announces = true → y.announces = true →
          x.now.moved loadAlert.cooldownSeconds < y.now :=
  ⟨by decide, announcements_apart (by decide) (by decide) (by decide)⟩

end AlertRecord

end AlertRelay
