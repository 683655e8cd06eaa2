import AlertRelay.Proofs.Delivery.Backoff
import AlertRelay.Proofs.Delivery.Outcome
import AlertRelay.Proofs.Delivery.Tick
import AlertRelay.Proofs.Queue.LostClaim

/-!
# The attempts of a delivery from tick to tick

A worker computes the attempts that it writes from the delivery as it was claimed. When each claim
finds the attempts that the last applied failure wrote, these are the failures that were applied so
far: a write that failed or affected no row leaves them, and one that was applied raises them by
one.

## Main definitions

* `Script.Each` — every statement stands in a relation to those before it
* `Script.applied` — the decisions of a delivery's failures that were written to a row
* `Script.counter` — the attempts that the last of them wrote
* `Script.ClaimsInStep` — a claim of a delivery finds these attempts
* `QueueEntry.CountedTo` — the failures were applied one by one, up to a number of them

## Main results

* `QueueEntry.CountedTo.pass` — one claim of the delivery counts on
* `QueueEntry.CountedTo.run` — and so does any run of ticks
-/

namespace AlertRelay

/-! ## Scripts -/

namespace Script

variable {R : Script → Statement × StoreReply → Prop} {earlier script later : Script}

/-- Every statement of a script, which comes after an earlier one, stands in a relation to all that
were run before it. -/
def Each (R : Script → Statement × StoreReply → Prop) (earlier : Script) : Script → Prop
  | [] => True
  | x :: rest => R earlier x ∧ Each R (earlier ++ [x]) rest

theorem each_append :
    Each R earlier (script ++ later) ↔
      Each R earlier script ∧ Each R (earlier ++ script) later := by
  induction script generalizing earlier with
  | nil => simp [Each]
  | cons x script ih => simp [Each, ih, and_assoc]

theorem each_iff :
    Each R earlier script ↔ ∀ before x, before ++ [x] <+: script → R (earlier ++ before) x := by
  induction script generalizing earlier with
  | nil => simp [Each]
  | cons y script ih =>
    rw [Each, ih]
    constructor
    · rintro ⟨first, rest⟩ (_ | ⟨z, before⟩) x within
      · obtain ⟨rfl, -⟩ := List.cons_prefix_cons.mp within
        rwa [List.append_nil]
      · obtain ⟨rfl, later⟩ := List.cons_prefix_cons.mp within
        simpa using rest before x later
    · refine fun all => ⟨by simpa using all [] y (by simp), fun before x within => ?_⟩
      simpa using all (y :: before) x (List.cons_prefix_cons.mpr ⟨rfl, within⟩)

/-- The decision of a delivery's failure that a statement wrote to a row. -/
def appliedFailure? (id : Int) : Statement × StoreReply → Option RetryDecision
  | (.recordFailure delivery decision _, reply) =>
    if delivery = id ∧ reply.anyAffected = .ok true then some decision else none
  | _ => none

/-- The decisions of a delivery's failures that were written to a row, in order. -/
def applied (id : Int) (script : Script) : List RetryDecision :=
  script.filterMap (appliedFailure? id)

/-- The attempts that the last of them wrote; before there is one, none were made. -/
def counter (id : Int) (script : Script) : Int :=
  ((applied id script).getLast?.map RetryDecision.attempts).getD 0

/-- The delivery was given up, and that was written to a row. -/
def IsGivenUp (id : Int) (script : Script) : Prop :=
  ∃ attempts, .giveUp attempts ∈ applied id script

/-- The statement writes a failure of the delivery. -/
def isFailureOf (id : Int) : Statement × StoreReply → Bool
  | (.recordFailure delivery _ _, _) => delivery == id
  | _ => false

/-- No failure of the delivery is written. -/
def Spares (id : Int) (script : Script) : Prop := ∀ x ∈ script, isFailureOf id x = false

theorem applied_append (id : Int) (script later : Script) :
    applied id (script ++ later) = applied id script ++ applied id later := List.filterMap_append

theorem appliedFailure?_of_not_isFailureOf {id : Int} {x : Statement × StoreReply}
    (other : isFailureOf id x = false) : appliedFailure? id x = none := by
  obtain ⟨s, reply⟩ := x
  cases s with
  | recordFailure delivery decision error =>
    have ne : delivery ≠ id := by simpa [isFailureOf] using other
    exact if_neg fun both => ne both.1
  | _ => rfl

theorem Spares.applied {id : Int} (spares : Spares id script) : applied id script = [] :=
  List.filterMap_eq_nil_iff.mpr fun x member =>
    appliedFailure?_of_not_isFailureOf (spares x member)

/-- A statement that claims the delivery finds the attempts that its last applied failure wrote, and
does so only as long as it has not been given up. -/
def ClaimsInStep (e : QueueEntry) (earlier : Script) (x : Statement × StoreReply) : Prop :=
  ∀ c ∈ Worker.claimedBy x, c.id = e.id →
    e.SameDelivery c ∧ c.attempts = counter e.id earlier ∧ ¬ IsGivenUp e.id earlier

end Script

theorem Worker.Opens.spares {settings : DeliverySettings} {opening : Script}
    {entries : List QueueEntry} {released : Except DbError Nat}
    (opens : Opens settings opening entries released) (id : Int) : Script.Spares id opening := by
  cases opens <;> simp [Script.Spares, Script.isFailureOf]

namespace Pass

variable {policy : RetryPolicy} {id : Int}

theorem spares_notes (p : Pass policy) (id : Int) : Script.Spares id p.notes := by
  intro x member
  rcases p.mem_notes member with ⟨_, rfl | rfl⟩
  · rfl
  · rfl

/-- Dealing with one delivery writes no failure of another. -/
theorem spares (p : Pass policy) (other : ¬ p.entry.id = id) : Script.Spares id p.statements := by
  have written : Script.isFailureOf id (p.write.statement p.entry.id, p.reply) = false := by
    cases p.write <;> simp [OutcomeWrite.statement, Script.isFailureOf, other]
  rw [Script.Spares, statements, List.forall_mem_cons, List.forall_mem_cons]
  exact ⟨rfl, written, p.spares_notes id⟩

theorem spares_flatMap {passes : List (Pass policy)} (others : ∀ p ∈ passes, ¬ p.entry.id = id) :
    Script.Spares id (passes.flatMap statements) := by
  intro x member
  obtain ⟨p, among, within⟩ := List.mem_flatMap.mp member
  exact p.spares (others p among) x within

end Pass

/-! ## Counting on -/

namespace QueueEntry

open Script

variable {policy : RetryPolicy} {e : QueueEntry} {earlier script : Script} {n : Nat}

/-- The failures of the delivery were applied one by one, up to a number of them. -/
structure CountedTo (policy : RetryPolicy) (e : QueueEntry) (script : Script) (n : Nat) : Prop where
  applied : applied e.id script = policy.decisions e.maxAttempts n 0
  within : (n : Int) ≤ e.maxAttempts

/-- After a counted number of failures, a failure of the delivery is what the policy decides for as
many attempts, which are fewer than the limit. -/
def CountsOn (policy : RetryPolicy) (e : QueueEntry) (earlier : Script)
    (x : Statement × StoreReply) : Prop :=
  ∃ n, e.CountedTo policy earlier n ∧ ∀ decision reason, x.1 = .recordFailure e.id decision reason →
    (n : Int) < e.maxAttempts ∧ decision = policy.afterFailure n e.maxAttempts

namespace CountedTo

theorem nil (limited : e.HasLimit) : e.CountedTo policy [] 0 :=
  ⟨rfl, Int.le_of_lt limited.1⟩

theorem length_applied (counted : e.CountedTo policy script n) (limited : e.HasLimit) :
    (Script.applied e.id script).length = n := by
  have within := counted.within
  rw [counted.applied, RetryPolicy.length_decisions limited.2 (by omega)]

/-- The counter is the number of failures that were applied. -/
theorem counter_eq (counted : e.CountedTo policy script n) (limited : e.HasLimit) :
    counter e.id script = n := by
  have within := counted.within
  rw [counter, counted.applied]
  cases n with
  | zero => rfl
  | succ n =>
    have short : (n : Int) < e.maxAttempts := by omega
    have last := RetryPolicy.counted_of_short limited.2 short
    rw [RetryPolicy.decisions_succ limited.2 (by omega), List.getLast?_concat, Option.map_some,
      Option.getD_some, RetryPolicy.attempts_afterFailure, Int.zero_add, last]
    rfl

/-- At the limit the delivery was given up. -/
theorem isGivenUp (counted : e.CountedTo policy script n) (limited : e.HasLimit)
    (reached : (n : Int) = e.maxAttempts) : IsGivenUp e.id script := by
  have least : 1 ≤ e.maxAttempts := limited.1
  obtain ⟨m, rfl⟩ : ∃ m, n = m + 1 := ⟨n - 1, by omega⟩
  refine ⟨e.maxAttempts, ?_⟩
  rw [counted.applied, RetryPolicy.decisions_succ limited.2 (by omega),
    RetryPolicy.afterFailure_eq_giveUp limited.2 (by omega)]
  exact List.mem_append_right _ (.head _)

/-- A statement that writes no failure of the delivery leaves the count. -/
theorem skip {x : Statement × StoreReply} (counted : e.CountedTo policy earlier n)
    (other : isFailureOf e.id x = false) :
    e.CountsOn policy earlier x ∧ e.CountedTo policy (earlier ++ [x]) n := by
  constructor
  · refine ⟨n, counted, fun decision reason writes => ?_⟩
    obtain ⟨s, reply⟩ := x
    obtain rfl : s = .recordFailure e.id decision reason := writes
    simp [isFailureOf] at other
  · have none : Script.applied e.id [x] = [] := by
      rw [Script.applied, List.filterMap_cons_none (appliedFailure?_of_not_isFailureOf other)]
      rfl
    exact ⟨by rw [applied_append, none, List.append_nil, counted.applied], counted.within⟩

/-- So do any number of them. -/
theorem spares (counted : e.CountedTo policy earlier n) (spares : Spares e.id script) :
    Each (e.CountsOn policy) earlier script ∧ e.CountedTo policy (earlier ++ script) n := by
  induction script generalizing earlier with
  | nil => exact ⟨trivial, by rwa [List.append_nil]⟩
  | cons x script ih =>
    obtain ⟨countsOn, skipped⟩ := counted.skip (spares x (.head _))
    obtain ⟨rest, after⟩ := ih skipped fun y member => spares y (.tail _ member)
    exact ⟨⟨countsOn, rest⟩, by rwa [List.append_assoc] at after⟩

/-- The write of a failure is counted if it is applied, and leaves the count if it is not. -/
theorem write {x : Statement × StoreReply} {reason : String} {reply : StoreReply}
    (counted : e.CountedTo policy earlier n) (limited : e.HasLimit)
    (short : (n : Int) < e.maxAttempts)
    (writes : x = (.recordFailure e.id (policy.afterFailure n e.maxAttempts) reason, reply)) :
    e.CountsOn policy earlier x ∧ ∃ m, e.CountedTo policy (earlier ++ [x]) m := by
  subst writes
  refine ⟨⟨n, counted, fun decision kept same => ?_⟩, ?_⟩
  · obtain ⟨-, rfl, -⟩ := Statement.recordFailure.inj same
    exact ⟨short, rfl⟩
  · by_cases took : reply.anyAffected = .ok true
    · refine ⟨n + 1, ?_, by omega⟩
      rw [applied_append, counted.applied, RetryPolicy.decisions_succ limited.2 (by omega),
        Int.zero_add]
      simp [Script.applied, appliedFailure?, took]
    · refine ⟨n, ?_, counted.within⟩
      rw [applied_append, counted.applied]
      simp [Script.applied, appliedFailure?, took]

/-- One claim of the delivery that finds the attempts so far counts on. -/
theorem pass (counted : e.CountedTo policy earlier n) (limited : e.HasLimit) (p : Pass policy)
    (same : e.SameDelivery p.entry) (found : p.entry.attempts = n)
    (short : (n : Int) < e.maxAttempts) :
    Each (e.CountsOn policy) earlier p.statements ∧
      ∃ m, e.CountedTo policy (earlier ++ p.statements) m := by
  obtain ⟨looked, counted⟩ :=
    counted.skip (x := (.webhookById p.entry.webhookId, p.found)) rfl
  -- only a pass that did not deliver counts; a delivery leaves the counter where it is
  have written : ∀ x, x = (p.write.statement p.entry.id, p.reply) →
      e.CountsOn policy (earlier ++ [(.webhookById p.entry.webhookId, p.found)]) x ∧
        ∃ m, e.CountedTo policy
          (earlier ++ [(.webhookById p.entry.webhookId, p.found)] ++ [x]) m := by
    intro x write
    by_cases delivered : p.write = .delivered
    · rw [delivered] at write
      obtain ⟨countsOn, skipped⟩ := counted.skip (x := x) (write ▸ rfl)
      exact ⟨countsOn, n, skipped⟩
    · obtain ⟨reason, failed⟩ := p.settlesOnce.failed_of_ne delivered
      rw [failed, found, same.maxAttempts, OutcomeWrite.statement, same.id] at write
      exact counted.write limited short write
  obtain ⟨countsOn, m, after⟩ := written _ rfl
  obtain ⟨rest, done⟩ := after.spares (p.spares_notes e.id)
  exact ⟨⟨looked, countsOn, rest⟩, m, by simpa [Pass.statements] using done⟩

/-- A batch that claims the delivery at most once counts on. -/
theorem passes {passes : List (Pass policy)} (counted : e.CountedTo policy earlier n)
    (limited : e.HasLimit) (once : passes.countP (·.entry.id = e.id) ≤ 1)
    (claims : ∀ p ∈ passes, p.entry.id = e.id →
      e.SameDelivery p.entry ∧ p.entry.attempts = n ∧ (n : Int) < e.maxAttempts) :
    Each (e.CountsOn policy) earlier (passes.flatMap Pass.statements) ∧
      ∃ m, e.CountedTo policy (earlier ++ passes.flatMap Pass.statements) m := by
  induction passes generalizing earlier with
  | nil => exact ⟨trivial, n, by simpa using counted⟩
  | cons p passes ih =>
    rw [List.flatMap_cons, each_append, ← List.append_assoc]
    by_cases own : p.entry.id = e.id
    · obtain ⟨same, found, short⟩ := claims p (.head _) own
      obtain ⟨first, m, after⟩ := counted.pass limited p same found short
      -- the batch has no other claim of the delivery
      have others : ∀ q ∈ passes, ¬ q.entry.id = e.id := by
        rw [List.countP_cons_of_pos (by simpa using own)] at once
        have none := Nat.le_zero.mp (Nat.le_of_succ_le_succ once)
        simpa using List.countP_eq_zero.mp none
      obtain ⟨rest, done⟩ := after.spares (Pass.spares_flatMap others)
      exact ⟨⟨first, rest⟩, m, done⟩
    · obtain ⟨first, after⟩ := counted.spares (p.spares own)
      rw [List.countP_cons_of_neg (by simpa using own)] at once
      obtain ⟨rest, done⟩ := ih after once fun q member => claims q (.tail _ member)
      exact ⟨⟨first, rest⟩, done⟩

/-- What the beginning of a tick claims of the delivery has the attempts so far. -/
theorem claims {settings : DeliverySettings} {opening : Script} {entries : List QueueEntry}
    {released : Except DbError Nat} (counted : e.CountedTo policy earlier n) (limited : e.HasLimit)
    (opens : Worker.Opens settings opening entries released)
    (inStep : Each (ClaimsInStep e) earlier opening) :
    ∀ c ∈ entries, c.id = e.id →
      e.SameDelivery c ∧ c.attempts = n ∧ (n : Int) < e.maxAttempts := by
  cases opens with
  | unreleased | unclaimed => simp
  | batch ran read =>
    intro c member own
    obtain ⟨-, claims, -⟩ := inStep
    obtain ⟨-, counted⟩ := counted.skip (x := (.releaseStale settings.staleAfter, _)) rfl
    obtain ⟨same, found, notGivenUp⟩ :=
      claims c (by simpa [Worker.claimedBy, read, Except.toOption]) own
    have unreached : (n : Int) ≠ e.maxAttempts := fun reached =>
      notGivenUp (counted.isGivenUp limited reached)
    have within := counted.within
    exact ⟨same, found.trans (counted.counter_eq limited), by omega⟩

/-- A tick that claims the delivery in step counts on. -/
theorem tick {settings : DeliverySettings} {t : Worker.Tick settings}
    (counted : e.CountedTo settings.retryPolicy earlier n) (limited : e.HasLimit)
    (once : (Worker.claimed t.statements).countP (·.id = e.id) ≤ 1)
    (inStep : Each (ClaimsInStep e) earlier t.statements) :
    Each (e.CountsOn settings.retryPolicy) earlier t.statements ∧
      ∃ m, e.CountedTo settings.retryPolicy (earlier ++ t.statements) m := by
  rw [t.claimed_statements, List.countP_map] at once
  rw [Worker.Tick.statements, each_append] at inStep ⊢
  have claims := counted.claims limited t.opens inStep.1
  obtain ⟨opening, after⟩ := counted.spares (t.opens.spares e.id)
  obtain ⟨rest, done⟩ := after.passes limited once fun p member =>
    claims p.entry (List.mem_map_of_mem member)
  exact ⟨⟨opening, rest⟩, by rwa [← List.append_assoc]⟩

/-- Any run of ticks that claim the delivery in step counts on. -/
theorem run {settings : DeliverySettings} {ticks : List (List Action)}
    (counted : e.CountedTo settings.retryPolicy earlier n) (limited : e.HasLimit)
    (courses : ∀ trace ∈ ticks, ∃ result, (Worker.tick settings).Course trace result)
    (once : ∀ trace ∈ ticks, (Worker.claimed (Action.statements trace)).countP (·.id = e.id) ≤ 1)
    (inStep : Each (ClaimsInStep e) earlier (Action.statements ticks.flatten)) :
    Each (e.CountsOn settings.retryPolicy) earlier (Action.statements ticks.flatten) ∧
      ∃ m, e.CountedTo settings.retryPolicy (earlier ++ Action.statements ticks.flatten) m := by
  induction ticks generalizing earlier n with
  | nil => exact ⟨trivial, n, by simpa using counted⟩
  | cons trace ticks ih =>
    obtain ⟨result, course⟩ := courses trace (.head _)
    obtain ⟨t, -, stated, -⟩ := Worker.tick_course course
    have claimedOnce := once trace (.head _)
    rw [List.flatten_cons, Action.statements_append, each_append] at inStep
    rw [List.flatten_cons, Action.statements_append, each_append, ← List.append_assoc]
    rw [stated] at inStep claimedOnce ⊢
    obtain ⟨first, m, after⟩ := counted.tick limited claimedOnce inStep.1
    obtain ⟨rest, done⟩ := ih after (fun later member => courses later (.tail _ member))
      (fun later member => once later (.tail _ member)) inStep.2
    exact ⟨⟨first, rest⟩, done⟩

end CountedTo

end QueueEntry

end AlertRelay
