import AlertRelay.Proofs.Delivery.Pass

/-!
# One pass over the queue

A tick takes stale claims back and claims a batch, and then attempts each claimed delivery in turn.
When one of the two statements at its beginning fails, the tick ends there. What it comes to
otherwise is counted from what became of the deliveries. Each attempt is a pass, so a tick is its
beginning and its passes.

## Main definitions

* `Worker.Attempt` — a delivery as a worker attempted it
* `Worker.Opens` — the statements at the beginning of a tick, and what they claim
* `Worker.Tick` — a tick as a worker made it

## Main results

* `Worker.processAll_attempts` — a batch is one attempt for each delivery, in order
* `Worker.tick_attempts` — every course of a tick opens it and attempts what was claimed
* `Worker.tick_course` — every course of a tick is its beginning and its passes
-/

namespace AlertRelay.Worker

variable {policy : RetryPolicy} {settings : DeliverySettings} {trace : List Action}

/-! ## Reports -/

theorem logUnwritten_reports (e : QueueEntry) (outcome : Except DbError DeliveryOutcome) :
    (logUnwritten e outcome).Reports := by
  cases outcome with
  | ok _ => exact .inl rfl
  | error error => exact .inr ⟨_, _, _, rfl⟩

theorem logReleased_reports (released : Nat) : (logReleased released).Reports := by
  rw [logReleased]
  split
  · exact .inr ⟨_, _, _, rfl⟩
  · exact .inl rfl

theorem logComplete_reports (s : Summary) : (logComplete s).Reports := by
  rw [logComplete]
  split <;> exact .inr ⟨_, _, _, rfl⟩

/-! ## The batch -/

/-- A delivery as a worker attempted it: what the worker did, and what became of the delivery. -/
structure Attempt where
  trace : List Action
  outcome : Except DbError DeliveryOutcome

namespace Attempt

/-- The statements of an attempt with their replies. -/
def statements (a : Attempt) : Script := Action.statements a.trace

/-- The requests of an attempt with their answers. -/
def posts (a : Attempt) : List (Post × PostReply) := Action.posts a.trace

/-- The delivery was attempted so: its processing takes this course. -/
def IsOf (policy : RetryPolicy) (e : QueueEntry) (a : Attempt) : Prop :=
  (e.process policy).Course a.trace (.ok a.outcome)

end Attempt

/-- What a batch comes to, counted from what became of its deliveries. -/
def counted (s : Summary) (came : List (Except DbError DeliveryOutcome)) : Summary :=
  came.foldl Summary.count s

/-- A batch is one attempt for each delivery, in order, whatever became of those before it. -/
theorem processAll_attempts {entries : List QueueEntry} {s : Summary}
    {result : Except Instant.Overflow Summary}
    (course : (processAll policy s entries).Course trace result) :
    ∃ attempts, List.Forall₂ (Attempt.IsOf policy) entries attempts ∧
      result = .ok (counted s (attempts.map Attempt.outcome)) ∧
      Action.statements trace = attempts.flatMap Attempt.statements ∧
      Action.posts trace = attempts.flatMap Attempt.posts := by
  induction entries generalizing s trace with
  | nil =>
    obtain ⟨rfl, rfl⟩ := Routine.Course.of_pure course
    exact ⟨[], .nil, rfl, rfl, rfl⟩
  | cons e entries ih =>
    rcases course.of_bind with ⟨outcome, first, later, processed, tail, rfl⟩ | ⟨_, halted, -⟩
    · -- a report follows at most, and then the other deliveries
      obtain ⟨rest, others, sameStatements, samePosts⟩ :=
        tail.of_reports (logUnwritten_reports _ _)
      obtain ⟨attempts, attempted, rfl, stated, posted⟩ := ih others
      refine ⟨⟨first, outcome⟩ :: attempts, .cons processed attempted, rfl, ?_, ?_⟩
      · rw [Action.statements_append, sameStatements, stated]
        rfl
      · rw [Action.posts_append, samePosts, posted]
        rfl
    · -- no delivery stops the routine, so the batch never breaks off in the middle
      obtain ⟨p, -, ended, -⟩ := QueueEntry.process_course halted
      cases ended

/-- Every attempt is a pass. -/
theorem Attempt.IsOf.pass {e : QueueEntry} {a : Attempt} (attempted : a.IsOf policy e) :
    ∃ p : Pass policy, p.entry = e ∧ p.outcome = a.outcome ∧ p.statements = a.statements ∧
      p.posts = a.posts := by
  obtain ⟨p, same, ended, stated, posted⟩ := QueueEntry.process_course attempted
  exact ⟨p, same, (Except.ok.inj ended).symm, stated.symm, posted.symm⟩

/-- The attempts of a batch are passes over its deliveries. -/
theorem passes_of_attempts {entries : List QueueEntry} {attempts : List Attempt}
    (attempted : List.Forall₂ (Attempt.IsOf policy) entries attempts) :
    ∃ passes : List (Pass policy), passes.map Pass.entry = entries ∧
      passes.map Pass.outcome = attempts.map Attempt.outcome ∧
      passes.flatMap Pass.statements = attempts.flatMap Attempt.statements ∧
      passes.flatMap Pass.posts = attempts.flatMap Attempt.posts := by
  induction attempted with
  | nil => exact ⟨[], rfl, rfl, rfl, rfl⟩
  | cons first _ ih =>
    obtain ⟨p, rfl, outcome, stated, posted⟩ := first.pass
    obtain ⟨passes, rfl, outcomes, restStated, restPosted⟩ := ih
    refine ⟨p :: passes, rfl, ?_, ?_, ?_⟩
    · rw [List.map_cons, List.map_cons, outcome, outcomes]
    · rw [List.flatMap_cons, List.flatMap_cons, stated, restStated]
    · rw [List.flatMap_cons, List.flatMap_cons, posted, restPosted]

/-! ## The whole tick -/

/-- The statements at the beginning of a tick with the deliveries that they claim, and how many
stale claims were taken back unless one of them failed. -/
inductive Opens (settings : DeliverySettings) : Script → List QueueEntry → Except DbError Nat → Prop
  | unreleased {released : StoreReply} {error : DbError}
      (broken : released.affected? = .error error) :
      Opens settings [(.releaseStale settings.staleAfter, released)] [] (.error error)
  | unclaimed {released claimed : StoreReply} {count : Nat} {error : DbError}
      (ran : released.affected? = .ok count)
      (broken : claimed.all QueueEntry.ofRow = .error error) :
      Opens settings [(.releaseStale settings.staleAfter, released),
        (.claimDue settings.batchSize, claimed)] [] (.error error)
  | batch {released claimed : StoreReply} {count : Nat} {entries : List QueueEntry}
      (ran : released.affected? = .ok count) (read : claimed.all QueueEntry.ofRow = .ok entries) :
      Opens settings [(.releaseStale settings.staleAfter, released),
        (.claimDue settings.batchSize, claimed)] entries (.ok count)

/-- A tick as a worker made it: how it began, and its passes over the claimed deliveries. -/
structure Tick (settings : DeliverySettings) where
  opening : Script
  passes : List (Pass settings.retryPolicy)
  released : Except DbError Nat
  opens : Opens settings opening (passes.map Pass.entry) released

namespace Tick

/-- The statements of a tick with their replies. -/
def statements (t : Tick settings) : Script := t.opening ++ t.passes.flatMap Pass.statements

/-- The requests of a tick with their answers. -/
def posts (t : Tick settings) : List (Post × PostReply) := t.passes.flatMap Pass.posts

/-- What a tick comes to. -/
def summary (t : Tick settings) : Except DbError Summary :=
  t.released.map fun released =>
    counted ⟨released, t.passes.length, 0, 0, 0, 0⟩ (t.passes.map Pass.outcome)

end Tick

/-- A batch, and the report at its end. -/
theorem batch_attempts {entries : List QueueEntry} {s : Summary}
    {result : Except Instant.Overflow (Except DbError Summary)}
    (course : (do
      let summary ← processAll policy s entries
      logComplete summary
      return .ok summary : Routine _).Course trace result) :
    ∃ attempts, List.Forall₂ (Attempt.IsOf policy) entries attempts ∧
      result = .ok (.ok (counted s (attempts.map Attempt.outcome))) ∧
      Action.statements trace = attempts.flatMap Attempt.statements ∧
      Action.posts trace = attempts.flatMap Attempt.posts := by
  rcases course.of_bind with ⟨_, first, later, dealt, reported, rfl⟩ | ⟨overflow, halted, -⟩
  · obtain ⟨attempts, attempted, ended, stated, posted⟩ := processAll_attempts dealt
    obtain rfl := Except.ok.inj ended
    obtain ⟨rest, done, sameStatements, samePosts⟩ := reported.of_reports (logComplete_reports _)
    obtain ⟨rfl, rfl⟩ := Routine.Course.of_pure done
    exact ⟨attempts, attempted, rfl, by simp [stated, sameStatements],
      by simp [posted, samePosts]⟩
  · obtain ⟨attempts, -, ended, -⟩ := processAll_attempts halted
    cases ended

/-- Every course of a tick opens it and attempts what was claimed. -/
theorem tick_attempts {result : Except Instant.Overflow (Except DbError Summary)}
    (course : (tick settings).Course trace result) :
    ∃ opening entries released attempts, Opens settings opening entries released ∧
      List.Forall₂ (Attempt.IsOf settings.retryPolicy) entries attempts ∧
      result = .ok (released.map fun count =>
        counted ⟨count, entries.length, 0, 0, 0, 0⟩ (attempts.map Attempt.outcome)) ∧
      Action.statements trace = opening ++ attempts.flatMap Attempt.statements ∧
      Action.posts trace = attempts.flatMap Attempt.posts := by
  obtain ⟨released, rest, rfl, tail⟩ := Routine.Course.of_read course
  cases ran : released.affected? with
  | error error =>
    -- the tick ends with the failed release
    rw [ran] at tail
    obtain ⟨rfl, rfl⟩ := Routine.Course.of_pure tail
    exact ⟨_, [], _, [], .unreleased ran, .nil, rfl, rfl, rfl⟩
  | ok count =>
    rw [ran] at tail
    obtain ⟨later, tail, sameStatements, samePosts⟩ := tail.of_reports (logReleased_reports count)
    obtain ⟨claimed, last, rfl, batch⟩ := Routine.Course.of_read tail
    cases read : claimed.all QueueEntry.ofRow with
    | error error =>
      -- the claim also fails when one of its rows does not read as a delivery
      rw [read] at batch
      obtain ⟨rfl, rfl⟩ := Routine.Course.of_pure batch
      refine ⟨_, [], _, [], .unclaimed ran read, .nil, rfl, ?_, ?_⟩
      · simp [sameStatements]
      · simp [samePosts]
    | ok entries =>
      rw [read] at batch
      obtain ⟨attempts, attempted, rfl, stated, posted⟩ := batch_attempts batch
      refine ⟨_, entries, _, attempts, .batch ran read, attempted, rfl, ?_, ?_⟩
      · simp [sameStatements, stated]
      · simp [samePosts, posted]

/-- Every course of a tick opens it and deals with what was claimed. -/
theorem tick_course {result : Except Instant.Overflow (Except DbError Summary)}
    (course : (tick settings).Course trace result) :
    ∃ t : Tick settings, result = .ok t.summary ∧ Action.statements trace = t.statements ∧
      Action.posts trace = t.posts := by
  obtain ⟨opening, entries, released, attempts, opens, attempted, rfl, stated, posted⟩ :=
    tick_attempts course
  obtain ⟨passes, rfl, outcomes, sameStatements, samePosts⟩ := passes_of_attempts attempted
  refine ⟨⟨opening, passes, released, opens⟩, ?_, ?_, ?_⟩
  · rw [Tick.summary, outcomes, List.length_map]
  · rw [stated, ← sameStatements]
    rfl
  · rw [posted, ← samePosts]
    rfl

/-! ## What was claimed -/

/-- The deliveries that a statement claimed for a batch. -/
def claimedBy : Statement × StoreReply → List QueueEntry
  | (.claimDue _, reply) => (reply.all QueueEntry.ofRow).toOption.getD []
  | _ => []

/-- The deliveries that were claimed for batches, in order. -/
def claimed (script : Script) : List QueueEntry := script.flatMap claimedBy

theorem claimed_append (script later : Script) :
    claimed (script ++ later) = claimed script ++ claimed later := List.flatMap_append

theorem claimedBy_outcome (w : OutcomeWrite) (id : Int) (reply : StoreReply) :
    claimedBy (w.statement id, reply) = [] := by
  cases w <;> rfl

/-- The beginning of a tick claims what the tick deals with. -/
theorem Opens.claimed_opening {opening : Script} {entries : List QueueEntry}
    {released : Except DbError Nat} (opens : Opens settings opening entries released) :
    Worker.claimed opening = entries := by
  cases opens with
  | unreleased => rfl
  | unclaimed _ broken => simp [Worker.claimed, claimedBy, broken, Except.toOption]
  | batch _ read => simp [Worker.claimed, claimedBy, read, Except.toOption]

/-- Dealing with a delivery claims nothing. -/
theorem claimed_pass (p : Pass policy) : claimed p.statements = [] := by
  rw [claimed, List.flatMap_eq_nil_iff]
  intro x member
  rcases p.mem_statements member with rfl | rfl | ⟨_, rfl | rfl⟩
  · rfl
  · exact claimedBy_outcome _ _ _
  · rfl
  · rfl

theorem Tick.claimed_statements (t : Tick settings) :
    claimed t.statements = t.passes.map Pass.entry := by
  have none : claimed (t.passes.flatMap Pass.statements) = [] := by
    rw [claimed, List.flatMap_assoc, List.flatMap_eq_nil_iff]
    exact fun p _ => claimed_pass p
  rw [Tick.statements, claimed_append, t.opens.claimed_opening, none, List.append_nil]

end AlertRelay.Worker
