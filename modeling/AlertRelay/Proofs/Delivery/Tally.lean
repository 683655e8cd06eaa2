import AlertRelay.Proofs.Delivery.Batch
import AlertRelay.Proofs.Delivery.Posting

/-!
# What the summary of a tick counts

The summary of a tick is to count what was really written. A delivery that was made, one that is
tried again and one whose claim was lost are counted exactly as the replies to their outcome writes
say, whatever becomes of the note on the webhook. A delivery that was given up is counted only if
its failure was counted on the webhook too: when that statement fails, the delivery is missing from
the summary although its row says that it failed, just like one whose outcome could not be written.

## Main definitions

* `Statement.outcome?` — the outcome that a statement writes
* `Finding` — what the reply to such a statement shows
* `Script.shown` — how often some statements show a finding
* `Worker.Summary.Tallies` — the counts of a summary in terms of these

## Main results

* `QueueEntry.Concludes.tells` — what became of one delivery is shown by its statements
* `Worker.tick_tallies` — the counts of every tick are shown by its statements
-/

namespace AlertRelay

/-! ## Findings -/

/-- The outcome that a statement writes, if it writes one. -/
def Statement.outcome? : Statement → Option DeliveryOutcome
  | .markDelivered _ => some .delivered
  | .recordFailure _ (.retry _ _) _ => some .retrying
  | .recordFailure _ (.giveUp _) _ => some .failed
  | _ => none

/-- What the reply to a statement shows about a delivery. -/
inductive Finding where
  /-- The outcome was written to a row. -/
  | written (outcome : DeliveryOutcome)
  /-- The write of an outcome affected no row. -/
  | lost
  /-- The write of an outcome failed. -/
  | unwritten
  /-- The failure could not be counted on the webhook. -/
  | uncounted
  deriving DecidableEq

/-- What the reply to a statement shows. The replies to lookups and to notes of success show
nothing, whether they fail or not. -/
def Finding.of? (x : Statement × StoreReply) : Option Finding :=
  match x.1.outcome?, x.2.anyAffected with
  | some outcome, .ok true => some (.written outcome)
  | some _, .ok false => some .lost
  | some _, .error _ => some .unwritten
  | none, .ok _ => none
  | none, .error _ =>
    match x.1 with
    | .countWebhookFailure _ => some .uncounted
    | _ => none

namespace Script

variable {script later : Script}

/-- How often some statements show a finding. -/
def shown (f : Finding) (script : Script) : Nat := (script.filterMap Finding.of?).count f

theorem shown_append (f : Finding) (script later : Script) :
    (script ++ later).shown f = script.shown f + later.shown f := by
  rw [shown, List.filterMap_append, List.count_append]
  rfl

/-- What became of some deliveries is shown by the statements about them. -/
structure Tells (script : Script) (came : List (Except DbError DeliveryOutcome)) : Prop where
  delivered : came.count (.ok .delivered) = script.shown (.written .delivered)
  retrying : came.count (.ok .retrying) = script.shown (.written .retrying)
  /-- A delivery that was given up is without an outcome if its failure was not counted. -/
  failed : came.count (.ok .failed) + script.shown .uncounted = script.shown (.written .failed)
  claimLost : came.count (.ok .claimLost) = script.shown .lost
  unwritten : came.countP Worker.isUnwritten = script.shown .unwritten + script.shown .uncounted

namespace Tells

variable {came more : List (Except DbError DeliveryOutcome)}

/-- Statements that show nothing tell of no delivery. -/
theorem of_none (none : script.filterMap Finding.of? = []) : script.Tells [] := by
  constructor <;> simp [shown, none]

theorem append (first : script.Tells came) (second : later.Tells more) :
    (script ++ later).Tells (came ++ more) where
  delivered := by rw [List.count_append, first.delivered, second.delivered, shown_append]
  retrying := by rw [List.count_append, first.retrying, second.retrying, shown_append]
  failed := by
    -- neither side has both terms of the sum, so the two equations are added up
    have one := first.failed
    have two := second.failed
    rw [List.count_append, shown_append, shown_append]
    omega
  claimLost := by rw [List.count_append, first.claimLost, second.claimLost, shown_append]
  unwritten := by
    rw [List.countP_append, first.unwritten, second.unwritten, shown_append, shown_append]
    omega

end Tells

end Script

/-! ## One delivery -/

/-- The outcome that a write says. -/
def OutcomeWrite.outcome : OutcomeWrite → DeliveryOutcome
  | .delivered => .delivered
  | .failed (.retry _ _) _ => .retrying
  | .failed (.giveUp _) _ => .failed

theorem OutcomeWrite.outcome?_statement (w : OutcomeWrite) (id : Int) :
    (w.statement id).outcome? = some w.outcome := by
  rcases w with _ | ⟨_ | _, _⟩ <;> rfl

namespace Finding

variable {reply : StoreReply}

/-- Whatever becomes of a lookup, it shows nothing. -/
theorem of?_lookup (id : Int) (found : StoreReply) : of? (.webhookById id, found) = none := by
  rw [of?]
  cases found.anyAffected <;> rfl

/-- Whatever becomes of the note of a success, it shows nothing. -/
theorem of?_touch (id : Int) (touched : StoreReply) : of? (.touchWebhook id, touched) = none := by
  rw [of?]
  cases touched.anyAffected <;> rfl

theorem of?_count_of_ran (id : Int) (ran : reply.ran = .ok ()) :
    of? (.countWebhookFailure id, reply) = none := by
  cases reply with
  | rows | affected => rfl
  | failed error => cases ran

theorem of?_count_of_broken (id : Int) {error : DbError} (broken : reply.ran = .error error) :
    of? (.countWebhookFailure id, reply) = some .uncounted := by
  cases reply with
  | rows | affected => cases broken
  | failed error => rfl

theorem of?_of_applied (w : OutcomeWrite) (id : Int) (applied : reply.anyAffected = .ok true) :
    of? (w.statement id, reply) = some (.written w.outcome) := by
  rw [of?, w.outcome?_statement, applied]

theorem of?_of_unapplied (w : OutcomeWrite) (id : Int)
    (unapplied : reply.anyAffected = .ok false) : of? (w.statement id, reply) = some .lost := by
  rw [of?, w.outcome?_statement, unapplied]

theorem of?_of_broken (w : OutcomeWrite) (id : Int) {error : DbError}
    (broken : reply.anyAffected = .error error) :
    of? (w.statement id, reply) = some .unwritten := by
  rw [of?, w.outcome?_statement, broken]

end Finding

namespace QueueEntry.Concludes

variable {e : QueueEntry} {write : OutcomeWrite} {reply : StoreReply} {notes : Script}
  {outcome : Except DbError DeliveryOutcome}

/-- What became of a delivery is shown by the statements about it. -/
theorem tells (concludes : e.Concludes write reply notes outcome) (found : StoreReply) :
    Script.Tells ((.webhookById e.webhookId, found) :: (write.statement e.id, reply) :: notes)
      [outcome] := by
  have lookup := Finding.of?_lookup e.webhookId found
  cases concludes with
  | unwritten broken =>
    have shown := Finding.of?_of_broken write e.id broken
    constructor <;> simp [Script.shown, lookup, shown, Worker.isUnwritten]
  | lost unapplied =>
    have shown := Finding.of?_of_unapplied write e.id unapplied
    constructor <;> simp [Script.shown, lookup, shown, Worker.isUnwritten]
  | delivered applied touched =>
    have shown := Finding.of?_of_applied .delivered e.id applied
    have note := Finding.of?_touch e.webhookId touched
    constructor <;> simp [Script.shown, lookup, shown, note, OutcomeWrite.outcome,
      Worker.isUnwritten]
  | retrying applied attempts delay reason =>
    have shown := Finding.of?_of_applied (.failed (.retry attempts delay) reason) e.id applied
    constructor <;> simp [Script.shown, lookup, shown, OutcomeWrite.outcome, Worker.isUnwritten]
  | failed applied attempts reason counted =>
    have shown := Finding.of?_of_applied (.failed (.giveUp attempts) reason) e.id applied
    -- the row has its outcome by now, and the count on the webhook decides if the summary has it
    cases read : counted.ran with
    | error error =>
      have note := Finding.of?_count_of_broken e.webhookId read
      constructor <;> simp [Script.shown, lookup, shown, note, OutcomeWrite.outcome,
        Worker.isUnwritten, Except.map]
    | ok _ =>
      have note := Finding.of?_count_of_ran e.webhookId read
      constructor <;> simp [Script.shown, lookup, shown, note, OutcomeWrite.outcome,
        Worker.isUnwritten, Except.map]

end QueueEntry.Concludes

namespace Worker

variable {policy : RetryPolicy} {settings : DeliverySettings} {trace : List Action} {s : Summary}

/-! ## One tick -/

/-- What becomes of a batch is shown by the statements of its passes. -/
theorem passes_tell (passes : List (Pass policy)) :
    Script.Tells (passes.flatMap Pass.statements) (passes.map Pass.outcome) := by
  induction passes with
  | nil => exact .of_none rfl
  | cons p passes ih =>
    have first : Script.Tells p.statements [p.outcome] := p.concluded.tells p.found
    rw [List.flatMap_cons, List.map_cons]
    exact first.append ih

/-- The beginning of a tick shows nothing. -/
theorem Opens.tells {opening : Script} {entries : List QueueEntry} {released : Except DbError Nat}
    (opens : Opens settings opening entries released) : opening.Tells [] := by
  have release (reply : StoreReply) :
      Finding.of? (.releaseStale settings.staleAfter, reply) = none := by
    rw [Finding.of?]
    cases reply.anyAffected <;> rfl
  have claim (reply : StoreReply) :
      Finding.of? (.claimDue settings.batchSize, reply) = none := by
    rw [Finding.of?]
    cases reply.anyAffected <;> rfl
  apply Script.Tells.of_none
  cases opens <;> simp [release, claim]

theorem Tick.tells (t : Tick settings) : t.statements.Tells (t.passes.map Pass.outcome) :=
  t.opens.tells.append (passes_tell t.passes)

/-- What a summary counts, in terms of the replies to the statements of its tick. -/
structure Summary.Tallies (s : Summary) (script : Script) : Prop where
  delivered : s.delivered = script.shown (.written .delivered)
  retried : s.retried = script.shown (.written .retrying)
  /-- A delivery that was given up is missing if its failure could not be counted. -/
  failed : s.failed + script.shown .uncounted = script.shown (.written .failed)
  claimLost : s.claimLost = script.shown .lost
  /-- Every claimed delivery is counted, could not be written, or is missing so. -/
  claimed : s.claimed = s.delivered + s.retried + s.failed + s.claimLost +
    script.shown .unwritten + script.shown .uncounted

/-- The summary of a tick counts what was written, but for the deliveries that were given up and
whose failure could not be counted on their webhook. -/
theorem tick_tallies (course : (tick settings).Course trace (.ok (.ok s))) :
    s.Tallies (Action.statements trace) := by
  obtain ⟨t, ended, stated, -⟩ := tick_course course
  have tells := t.tells
  have summed := sum_count_outcomes (t.passes.map Pass.outcome)
  cases released : t.released with
  | error error =>
    -- a tick that fails at its beginning comes to no summary
    rw [Tick.summary, released] at ended
    cases ended
  | ok count =>
    have counts : s = (t.passes.map Pass.outcome).foldl Summary.count
        ⟨count, t.passes.length, 0, 0, 0, 0⟩ := by
      rw [Tick.summary, released] at ended
      exact Except.ok.inj (Except.ok.inj ended)
    rw [Summary.foldl_count] at counts
    rw [tells.unwritten, List.length_map] at summed
    rw [stated, counts]
    constructor
    · simp [tells.delivered]
    · simp [tells.retrying]
    · simp [tells.failed]
    · simp [tells.claimLost]
    · dsimp only
      omega

/-- A tick that gives the delivery up because its webhook is disabled, and writes that. The count on
the webhook gets the given reply. -/
def givingUp (counted : StoreReply) : Run (Except DbError Summary) :=
  (tick .standard).run (QueueEntry.answering
    [.affected 0, .rows [QueueEntry.lastAttempt.row],
      .rows [{ ownWebhook with enabled := false }.row], .affected 1, counted])

/-- The delivery that was given up is missing from the summary when its failure was not counted. -/
theorem tick_tallies_uncounted :
    (tick .standard).Course (givingUp (.failed .unreachable)).trace (.ok (.ok ⟨0, 1, 0, 0, 0, 0⟩)) ∧
      Summary.Tallies ⟨0, 1, 0, 0, 0, 0⟩
        (Action.statements (givingUp (.failed .unreachable)).trace) := by
  have course : (tick .standard).Course (givingUp (.failed .unreachable)).trace
      (.ok (.ok ⟨0, 1, 0, 0, 0, 0⟩)) := Routine.course_run _ _
  exact ⟨course, tick_tallies course⟩

/-- That the count on the webhook fails changes the summary of a tick: a failure that was written to
its row is not counted, and no outcome write failed that would account for it. -/
theorem failure_uncounted :
    (∃ s, (givingUp (.affected 1)).result = .ok (.ok s) ∧ s.failed = 1) ∧
      ∃ s, (givingUp (.failed .unreachable)).result = .ok (.ok s) ∧
        (Action.statements (givingUp (.failed .unreachable)).trace).shown (.written .failed) = 1 ∧
        s.failed = 0 ∧
        (Action.statements (givingUp (.failed .unreachable)).trace).shown .unwritten = 0 ∧
        s.claimed - (s.delivered + s.retried + s.failed + s.claimLost) = 1 :=
  ⟨⟨_, rfl, rfl⟩, _, rfl, rfl, rfl, rfl, rfl⟩

end Worker

end AlertRelay
