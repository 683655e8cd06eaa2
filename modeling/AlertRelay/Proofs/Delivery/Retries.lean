import AlertRelay.Proofs.Delivery.Counter
import AlertRelay.Proofs.Delivery.Posting

/-!
# From the first attempt to the last

A delivery that never succeeds is retried, after delays that do not get shorter, until as many
failures as its limit were written to its row; the last of them gives it up. Writes that fail or
affect no row change nothing about that. On its webhook a failure is counted right after each write
that gives a delivery up, and nowhere else.

## Main definitions

* `Script.CountsGivenUp` — failures are counted right after the writes that give deliveries up
* `QueueEntry.ClaimedInStep` — ticks in which a delivery is claimed with the attempts so far
* `QueueEntry.RetriedToLimit` — how a failing delivery is retried, and given up

## Main results

* `QueueEntry.ticks_retriedToLimit` — any run of ticks in which every attempt fails is of this form
-/

namespace AlertRelay

/-! ## Counts of failures -/

namespace Script

variable {claims : List QueueEntry} {script later : Script}

/-- The statement gives a delivery up, and affected a row. -/
def GivesUp (id : Int) (x : Statement × StoreReply) : Prop :=
  (∃ attempts reason, x.1 = .recordFailure id (.giveUp attempts) reason) ∧
    x.2.anyAffected = .ok true

/-- The statement counts a failure on a webhook. -/
def Counts (webhookId : Int) (x : Statement × StoreReply) : Prop :=
  x.1 = .countWebhookFailure webhookId

theorem GivesUp.not_counts {id webhookId : Int} {x : Statement × StoreReply} (h : GivesUp id x) :
    ¬ Counts webhookId x := by
  obtain ⟨⟨attempts, reason, writes⟩, -⟩ := h
  intro counts
  cases writes.symm.trans counts

theorem GivesUp.id_eq {id id' : Int} {x : Statement × StoreReply} (h : GivesUp id x)
    (h' : GivesUp id' x) : id = id' := by
  obtain ⟨⟨attempts, reason, writes⟩, -⟩ := h
  obtain ⟨⟨attempts', reason', writes'⟩, -⟩ := h'
  exact (Statement.recordFailure.inj (writes.symm.trans writes')).1

theorem Counts.webhookId_eq {webhookId webhookId' : Int} {x : Statement × StoreReply}
    (h : Counts webhookId x) (h' : Counts webhookId' x) : webhookId = webhookId' :=
  Statement.countWebhookFailure.inj (h.symm.trans h')

/-- Right after each write that gives a delivery up, and nowhere else, a failure is counted on the
webhook that the delivery names. -/
inductive CountsGivenUp (claims : List QueueEntry) : Script → Prop
  | nil : CountsGivenUp claims []
  | skip {x : Statement × StoreReply} {rest : Script} (kept : ∀ id, ¬ GivesUp id x)
      (uncounted : ∀ webhookId, ¬ Counts webhookId x) (after : CountsGivenUp claims rest) :
      CountsGivenUp claims (x :: rest)
  | pair {c : QueueEntry} {x y : Statement × StoreReply} {rest : Script} (member : c ∈ claims)
      (givesUp : GivesUp c.id x) (counts : Counts c.webhookId y)
      (after : CountsGivenUp claims rest) : CountsGivenUp claims (x :: y :: rest)

namespace CountsGivenUp

/-- A statement of another kind comes in between. -/
theorem skip_of {s : Statement} {reply : StoreReply} {rest : Script}
    (kept : ∀ id attempts reason, s ≠ .recordFailure id (.giveUp attempts) reason)
    (uncounted : ∀ webhookId, s ≠ .countWebhookFailure webhookId)
    (after : CountsGivenUp claims rest) : CountsGivenUp claims ((s, reply) :: rest) := by
  refine .skip ?_ uncounted after
  rintro id ⟨⟨attempts, reason, writes⟩, -⟩
  exact kept id attempts reason writes

theorem append (first : CountsGivenUp claims script) (second : CountsGivenUp claims later) :
    CountsGivenUp claims (script ++ later) := by
  induction first with
  | nil => exact second
  | skip kept uncounted _ ih => exact .skip kept uncounted ih
  | pair member givesUp counts _ ih => exact .pair member givesUp counts ih

/-- After a write that gives a delivery up comes the count. -/
theorem followed (h : CountsGivenUp claims script) {before : Script} {x : Statement × StoreReply}
    {id : Int} (within : before ++ [x] <+: script) (givesUp : GivesUp id x) :
    ∃ c ∈ claims, c.id = id ∧ ∃ y, Counts c.webhookId y ∧ before ++ [x, y] <+: script := by
  induction h generalizing before with
  | nil => simp at within
  | skip kept _ _ ih =>
    cases before with
    | nil =>
      obtain ⟨rfl, -⟩ := List.cons_prefix_cons.mp within
      exact absurd givesUp (kept id)
    | cons z before =>
      obtain ⟨rfl, later⟩ := List.cons_prefix_cons.mp within
      obtain ⟨c, member, own, y, counts, further⟩ := ih later
      exact ⟨c, member, own, y, counts, List.cons_prefix_cons.mpr ⟨rfl, further⟩⟩
  | @pair c w y rest member first counts _ ih =>
    -- the write is the first of the pair or comes after it: the second of the pair is a count
    match before with
    | [] =>
      obtain ⟨rfl, -⟩ := List.cons_prefix_cons.mp within
      exact ⟨c, member, first.id_eq givesUp, y, counts, List.prefix_append [x, y] rest⟩
    | [z] =>
      obtain ⟨rfl, second⟩ := List.cons_prefix_cons.mp within
      obtain ⟨rfl, -⟩ := List.cons_prefix_cons.mp second
      exact absurd counts givesUp.not_counts
    | z :: z' :: before =>
      obtain ⟨rfl, second⟩ := List.cons_prefix_cons.mp within
      obtain ⟨rfl, later⟩ := List.cons_prefix_cons.mp second
      obtain ⟨c, member, own, y, counts, further⟩ := ih later
      exact ⟨c, member, own, y, counts,
        List.cons_prefix_cons.mpr ⟨rfl, List.cons_prefix_cons.mpr ⟨rfl, further⟩⟩⟩

/-- Before a count comes the write that gives the delivery up. -/
theorem preceded (h : CountsGivenUp claims script) {before : Script} {y : Statement × StoreReply}
    {webhookId : Int} (within : before ++ [y] <+: script) (counts : Counts webhookId y) :
    ∃ c ∈ claims, c.webhookId = webhookId ∧ ∃ front x, before = front ++ [x] ∧ GivesUp c.id x := by
  induction h generalizing before with
  | nil => simp at within
  | skip _ uncounted _ ih =>
    cases before with
    | nil =>
      obtain ⟨rfl, -⟩ := List.cons_prefix_cons.mp within
      exact absurd counts (uncounted webhookId)
    | cons z before =>
      obtain ⟨rfl, later⟩ := List.cons_prefix_cons.mp within
      obtain ⟨c, member, names, front, x, rfl, givesUp⟩ := ih later
      exact ⟨c, member, names, z :: front, x, rfl, givesUp⟩
  | @pair c w v rest member first second _ ih =>
    -- the count is the second of the pair or comes after it: the first of the pair is a write
    match before with
    | [] =>
      obtain ⟨rfl, -⟩ := List.cons_prefix_cons.mp within
      exact absurd counts first.not_counts
    | [z] =>
      obtain ⟨rfl, rest⟩ := List.cons_prefix_cons.mp within
      obtain ⟨rfl, -⟩ := List.cons_prefix_cons.mp rest
      exact ⟨c, member, second.webhookId_eq counts, [], z, rfl, first⟩
    | z :: z' :: before =>
      obtain ⟨rfl, rest⟩ := List.cons_prefix_cons.mp within
      obtain ⟨rfl, later⟩ := List.cons_prefix_cons.mp rest
      obtain ⟨c, member, names, front, x, rfl, givesUp⟩ := ih later
      exact ⟨c, member, names, z :: z' :: front, x, rfl, givesUp⟩

theorem flatMap {α : Type} {parts : List α} {f : α → Script}
    (each : ∀ a ∈ parts, CountsGivenUp claims (f a)) : CountsGivenUp claims (parts.flatMap f) := by
  induction parts with
  | nil => exact .nil
  | cons a parts ih =>
    rw [List.flatMap_cons]
    exact (each a (.head _)).append (ih fun b member => each b (.tail _ member))

end CountsGivenUp

end Script

open Script

theorem QueueEntry.Concludes.countsGivenUp {claims : List QueueEntry} {e : QueueEntry}
    {write : OutcomeWrite} {reply : StoreReply} {notes : Script}
    {outcome : Except DbError DeliveryOutcome} (concludes : e.Concludes write reply notes outcome)
    (member : e ∈ claims) :
    CountsGivenUp claims ((write.statement e.id, reply) :: notes) := by
  -- a write that was not applied gives nothing up, and there are no notes after it
  have unapplied (ne : reply.anyAffected ≠ .ok true) :
      CountsGivenUp claims [(write.statement e.id, reply)] := by
    refine .skip (fun _ givesUp => ne givesUp.2) (fun webhookId counts => ?_) .nil
    cases write <;> cases counts
  cases concludes with
  | unwritten broken => exact unapplied (by simp [broken])
  | lost affected => exact unapplied (by simp [affected])
  | delivered => exact .skip_of nofun nofun (.skip_of nofun nofun .nil)
  | retrying =>
    exact .skip_of (fun _ _ _ same => nomatch (Statement.recordFailure.inj same).2.1) nofun .nil
  | failed applied attempts reason counted =>
    exact .pair member ⟨⟨attempts, reason, rfl⟩, applied⟩ rfl .nil

/-- Dealing with a delivery counts it on its webhook exactly after giving it up. -/
theorem Pass.countsGivenUp {policy : RetryPolicy} {claims : List QueueEntry} (p : Pass policy)
    (member : p.entry ∈ claims) : CountsGivenUp claims p.statements :=
  .skip_of nofun nofun (p.concluded.countsGivenUp member)

theorem Worker.Opens.countsGivenUp {settings : DeliverySettings} {opening : Script}
    {entries claims : List QueueEntry} {released : Except DbError Nat}
    (opens : Opens settings opening entries released) : CountsGivenUp claims opening := by
  cases opens with
  | unreleased => exact .skip_of nofun nofun .nil
  | unclaimed | batch => exact .skip_of nofun nofun (.skip_of nofun nofun .nil)

/-- So does a tick with the deliveries that it claims. -/
theorem Worker.Tick.countsGivenUp {settings : DeliverySettings} {claims : List QueueEntry}
    (t : Tick settings) (among : ∀ c ∈ claimed t.statements, c ∈ claims) :
    CountsGivenUp claims t.statements := by
  rw [t.claimed_statements] at among
  exact t.opens.countsGivenUp.append
    (.flatMap fun p member => p.countsGivenUp (among _ (List.mem_map_of_mem member)))

/-- So does any run of ticks. -/
theorem Worker.ticks_countsGivenUp {settings : DeliverySettings} {ticks : List (List Action)}
    (courses : ∀ trace ∈ ticks, ∃ result, (tick settings).Course trace result) :
    CountsGivenUp (claimed (Action.statements ticks.flatten))
      (Action.statements ticks.flatten) := by
  rw [Action.statements_flatten]
  refine .flatMap fun trace member => ?_
  obtain ⟨result, course⟩ := courses trace member
  obtain ⟨t, -, stated, -⟩ := tick_course course
  rw [stated]
  refine t.countsGivenUp fun c claimed => ?_
  rw [← stated] at claimed
  obtain ⟨x, within, claims⟩ := List.mem_flatMap.mp claimed
  exact List.mem_flatMap.mpr ⟨x, List.mem_flatMap.mpr ⟨trace, member, within⟩, claims⟩

/-! ## Failing attempts -/

/-- No attempt on the delivery succeeds. -/
def QueueEntry.Fails (e : QueueEntry) (posts : List (Post × PostReply)) : Prop :=
  ∀ x ∈ posts, x.1.delivery = toString e.id → ∀ code, x.2 = .status code →
    Post.isSuccess code = false

theorem QueueEntry.Fails.mono {e : QueueEntry} {posts more : List (Post × PostReply)}
    (fails : e.Fails more) (subset : posts ⊆ more) : e.Fails posts :=
  fun x member => fails x (subset member)

/-- A pass on a delivery that fails does not deliver it. -/
theorem Pass.not_delivered {policy : RetryPolicy} {e : QueueEntry} (p : Pass policy)
    (own : p.entry.id = e.id) (fails : e.Fails p.posts) : p.write ≠ .delivered := by
  intro delivered
  obtain ⟨q, code, sole, success⟩ := p.settlesOnce.delivered_iff.mp delivered
  have requested : p.entry.request p.found = .ok q := by
    have sent := Worker.posted_pass p
    rw [sole] at sent
    cases request : p.entry.request p.found with
    | error error =>
      rw [request] at sent
      cases sent
    | ok q' =>
      rw [request] at sent
      cases sent
      rfl
  obtain ⟨webhook, -, formed⟩ := QueueEntry.request_eq_ok_iff.mp requested
  have named : q.delivery = toString e.id :=
    own ▸ (QueueEntry.carries_of_post formed).delivery
  have failed := fails (q, .status code) (sole ▸ .head _) named code rfl
  rw [success] at failed
  cases failed

/-- A pass on a delivery that fails writes one failure of it, and no pass writes one of another. -/
theorem Pass.countP_failures {policy : RetryPolicy} {e : QueueEntry} (p : Pass policy)
    (fails : e.Fails p.posts) :
    p.statements.countP (isFailureOf e.id) = if p.entry.id = e.id then 1 else 0 := by
  by_cases own : p.entry.id = e.id
  · obtain ⟨reason, failed⟩ := p.settlesOnce.failed_of_ne (p.not_delivered own fails)
    have notes : p.notes.countP (isFailureOf e.id) = 0 :=
      List.countP_eq_zero.mpr fun x member => by simp [p.spares_notes e.id x member]
    rw [if_pos own, Pass.statements, failed, List.countP_cons_of_neg (by simp [isFailureOf]),
      List.countP_cons_of_pos (by simp [isFailureOf, OutcomeWrite.statement, own]), notes]
  · rw [if_neg own]
    exact List.countP_eq_zero.mpr fun x member => by simp [p.spares own x member]

namespace Worker

theorem countP_passes {policy : RetryPolicy} {e : QueueEntry} {passes : List (Pass policy)}
    (fails : e.Fails (passes.flatMap Pass.posts)) :
    (passes.flatMap Pass.statements).countP (isFailureOf e.id) =
      (passes.map Pass.entry).countP (·.id = e.id) := by
  induction passes with
  | nil => rfl
  | cons p passes ih =>
    rw [List.flatMap_cons] at fails
    rw [List.flatMap_cons, List.countP_append, p.countP_failures (fails.mono (by simp)),
      ih (fails.mono (by simp)), List.map_cons, List.countP_cons, Nat.add_comm]
    simp

theorem Tick.countP_failures {settings : DeliverySettings} {e : QueueEntry} (t : Tick settings)
    (fails : e.Fails t.posts) :
    t.statements.countP (isFailureOf e.id) = (claimed t.statements).countP (·.id = e.id) := by
  have opening : t.opening.countP (isFailureOf e.id) = 0 :=
    List.countP_eq_zero.mpr fun x member => by simp [t.opens.spares e.id x member]
  rw [t.claimed_statements, Tick.statements, List.countP_append, opening, countP_passes fails,
    Nat.zero_add]

/-- In any ticks in which a delivery fails, each claim of it ends with one failure written. -/
theorem ticks_countP_failures {settings : DeliverySettings} {e : QueueEntry}
    {ticks : List (List Action)}
    (courses : ∀ trace ∈ ticks, ∃ result, (tick settings).Course trace result)
    (fails : e.Fails (Action.posts ticks.flatten)) :
    (Action.statements ticks.flatten).countP (isFailureOf e.id) =
      (claimed (Action.statements ticks.flatten)).countP (·.id = e.id) := by
  induction ticks with
  | nil => rfl
  | cons trace ticks ih =>
    rw [List.flatten_cons, Action.posts_append] at fails
    obtain ⟨result, course⟩ := courses trace (.head _)
    obtain ⟨t, -, stated, posted⟩ := tick_course course
    have first := t.countP_failures
      (fails.mono (posted ▸ List.subset_append_left (Action.posts trace) _))
    have rest := ih (fun later member => courses later (.tail _ member)) (fails.mono (by simp))
    rw [List.flatten_cons, Action.statements_append, claimed_append, List.countP_append,
      List.countP_append, stated, first, rest]

end Worker

/-! ## From the first attempt to the last -/

namespace QueueEntry

variable {settings : DeliverySettings} {policy : RetryPolicy} {e : QueueEntry} {n : Nat}

/-- No tick claims the delivery twice, and each claim finds it as it was queued, with the attempts
that its last applied failure wrote, and not after it was given up. -/
structure ClaimedInStep (e : QueueEntry) (ticks : List (List Action)) : Prop where
  once : ∀ trace ∈ ticks, (Worker.claimed (Action.statements trace)).countP (·.id = e.id) ≤ 1
  inStep : ∀ before x, before ++ [x] <+: Action.statements ticks.flatten → ClaimsInStep e before x

/-- How a delivery is retried whose attempts fail, and how it is given up at its limit. -/
structure RetriedToLimit (policy : RetryPolicy) (e : QueueEntry) (script : Script) : Prop where
  /-- Each claim of the delivery ends with one failure written, applied or not. -/
  written : script.countP (isFailureOf e.id) = (Worker.claimed script).countP (·.id = e.id)
  /-- The counter is always the number of failures that were applied so far: one that was not
  applied leaves it. -/
  counter_eq : ∀ before, before <+: script → counter e.id before = (applied e.id before).length
  /-- No failure is written once as many were applied as the limit allows. -/
  within : ∀ before decision reason reply,
    before ++ [(.recordFailure e.id decision reason, reply)] <+: script →
      ((applied e.id before).length : Int) + 1 ≤ e.maxAttempts
  /-- Short of the limit a failure puts the delivery back in line, with one attempt more and a delay
  that follows from their number. -/
  retried : ∀ before decision reason reply,
    before ++ [(.recordFailure e.id decision reason, reply)] <+: script →
      ∀ k : Int, k = (applied e.id before).length + 1 → k < e.maxAttempts →
        decision = .retry k (policy.backoff k) ∧
          (Statement.recordFailure e.id decision reason).params =
            [.int e.id, Statement.boundStatus .pending, .int k, .text reason,
              .float (policy.backoff k).toSeconds, Statement.boundStatus .processing]
  /-- The failure at the limit gives the delivery up. -/
  givenUp : ∀ before decision reason reply,
    before ++ [(.recordFailure e.id decision reason, reply)] <+: script →
      ((applied e.id before).length : Int) + 1 = e.maxAttempts →
        decision = .giveUp e.maxAttempts ∧
          (Statement.recordFailure e.id decision reason).params =
            [.int e.id, Statement.boundStatus .failed, .int e.maxAttempts, .text reason,
              Statement.boundStatus .processing]
  /-- The delays stay between base and ceiling, and do not get shorter. -/
  delays : ∀ k, policy.base ≤ policy.backoff k ∧ policy.backoff k ≤ policy.max ∧
    policy.backoff k ≤ policy.backoff (k + 1)
  /-- After the delivery was given up, the failure is counted on its webhook at once. -/
  followed : ∀ before x, before ++ [x] <+: script → GivesUp e.id x →
    ∃ y, Counts e.webhookId y ∧ before ++ [x, y] <+: script
  /-- A failure is counted only at once after a claimed delivery was given up. -/
  preceded : ∀ before y webhookId, before ++ [y] <+: script → Counts webhookId y →
    ∃ c ∈ Worker.claimed script, c.webhookId = webhookId ∧
      ∃ front x, before = front ++ [x] ∧ GivesUp c.id x

/-- The delivery keeps its webhook from claim to claim. -/
theorem ClaimedInStep.same {ticks : List (List Action)} (claimed : e.ClaimedInStep ticks)
    {c : QueueEntry} (member : c ∈ Worker.claimed (Action.statements ticks.flatten))
    (own : c.id = e.id) : e.SameDelivery c := by
  obtain ⟨x, within, claims⟩ := List.mem_flatMap.mp member
  obtain ⟨before, after, split⟩ := List.append_of_mem within
  have found : before ++ [x] <+: Action.statements ticks.flatten := ⟨after, by simp [split]⟩
  exact (claimed.inStep before x found c claims own).1

/-- When every statement counts on, the failures are counted before each of them and at the end. -/
theorem CountedTo.of_prefix {script before : Script} (counted : e.CountedTo policy script n)
    (each : ∀ before x, before ++ [x] <+: script → e.CountsOn policy before x)
    (within : before <+: script) : ∃ m, e.CountedTo policy before m := by
  obtain ⟨rest, rfl⟩ := within
  cases rest with
  | nil => exact ⟨n, by simpa using counted⟩
  | cons x rest =>
    obtain ⟨m, counted, -⟩ := each before x ⟨rest, by simp⟩
    exact ⟨m, counted⟩

/-- A failure that counts on is what the policy decides for the failures that were applied before
it. -/
theorem CountsOn.failure {before : Script} {decision : RetryDecision} {reason : String}
    {reply : StoreReply} (limited : e.HasLimit)
    (countsOn : e.CountsOn policy before (.recordFailure e.id decision reason, reply)) :
    ((applied e.id before).length : Int) < e.maxAttempts ∧
      decision = policy.afterFailure (applied e.id before).length e.maxAttempts := by
  obtain ⟨n, counted, fails⟩ := countsOn
  rw [counted.length_applied limited]
  exact fails decision reason rfl

/-- In any run of ticks in which every attempt on a delivery fails, it is retried until it is given
up at its limit. -/
theorem ticks_retriedToLimit {ticks : List (List Action)} (limited : e.HasLimit)
    (courses : ∀ trace ∈ ticks, ∃ result, (Worker.tick settings).Course trace result)
    (claimed : e.ClaimedInStep ticks) (fails : e.Fails (Action.posts ticks.flatten)) :
    e.RetriedToLimit settings.retryPolicy (Action.statements ticks.flatten) := by
  have inStep : Each (ClaimsInStep e) [] (Action.statements ticks.flatten) :=
    each_iff.mpr claimed.inStep
  obtain ⟨each, n, counted⟩ := (CountedTo.nil limited).run limited courses claimed.once inStep
  simp only [each_iff, List.nil_append] at each counted
  have paired := Worker.ticks_countsGivenUp courses
  refine
    { written := Worker.ticks_countP_failures courses fails
      counter_eq := fun before within => ?_
      within := fun before _ _ _ within => ((each before _ within).failure limited).1
      retried := ?_
      givenUp := ?_
      delays := fun k => ⟨RetryPolicy.base_le_backoff _ k, RetryPolicy.backoff_le_max _ k,
        RetryPolicy.backoff_mono _ (by omega)⟩
      followed := ?_
      preceded := fun _ _ _ within counts => paired.preceded within counts }
  · obtain ⟨m, upTo⟩ := counted.of_prefix each within
    rw [upTo.counter_eq limited, upTo.length_applied limited]
  · rintro before decision reason reply within k rfl short
    obtain ⟨-, decided⟩ := (each before _ within).failure limited
    rw [decided, RetryPolicy.afterFailure_eq_retry limited.2 short]
    exact ⟨rfl, rfl⟩
  · intro before decision reason reply within last
    obtain ⟨-, decided⟩ := (each before _ within).failure limited
    rw [decided, RetryPolicy.afterFailure_eq_giveUp limited.2 last]
    exact ⟨rfl, rfl⟩
  · intro before x within givesUp
    obtain ⟨c, member, own, y, counts, further⟩ := paired.followed within givesUp
    rw [(claimed.same member own).webhookId] at counts
    exact ⟨y, counts, further⟩

/-- A delivery with two attempts, as it is claimed after some of them. -/
def twice (attempts : Int) : QueueEntry := { lastAttempt with attempts, maxAttempts := 2 }

/-- A tick in which it is claimed, its webhook is disabled, and the write of the failure affects
some rows. -/
def tryDisabled (attempts : Int) (rows : Nat) : List Action :=
  ((Worker.tick .standard).run
    (answering [.affected 0, .rows [(twice attempts).row],
      .rows [{ Worker.ownWebhook with enabled := false }.row], .affected rows, .affected 1])).trace

/-- The first failure is applied, the second one is not, and the third one gives the delivery up. -/
def disabledTicks : List (List Action) := [tryDisabled 0 1, tryDisabled 1 0, tryDisabled 1 1]

theorem claimsInStep_of_none {earlier : Script} {x : Statement × StoreReply}
    (none : Worker.claimedBy x = []) : ClaimsInStep e earlier x := by
  intro c member
  rw [none] at member
  cases member

theorem claimsInStep_of_sole {earlier : Script} {x : Statement × StoreReply} {c : QueueEntry}
    (sole : Worker.claimedBy x = [c]) (same : e.SameDelivery c)
    (found : c.attempts = counter e.id earlier) (kept : ¬ IsGivenUp e.id earlier) :
    ClaimsInStep e earlier x := by
  intro d member _
  rw [sole, List.mem_singleton] at member
  exact member ▸ ⟨same, found, kept⟩

theorem disabledTicks_claimed : (twice 0).ClaimedInStep disabledTicks where
  once := by decide
  inStep := by
    have each : Each (ClaimsInStep (twice 0)) [] (Action.statements disabledTicks.flatten) := by
      refine ⟨claimsInStep_of_none rfl, ?_, claimsInStep_of_none rfl, claimsInStep_of_none rfl,
        claimsInStep_of_none rfl, ?_, claimsInStep_of_none rfl, claimsInStep_of_none rfl,
        claimsInStep_of_none rfl, ?_, claimsInStep_of_none rfl, claimsInStep_of_none rfl,
        claimsInStep_of_none rfl, trivial⟩
      · exact claimsInStep_of_sole (c := twice 0) rfl ⟨rfl, rfl, rfl, rfl, rfl, rfl, rfl⟩ rfl
          fun ⟨_, given⟩ => nomatch given
      · exact claimsInStep_of_sole (c := twice 1) rfl ⟨rfl, rfl, rfl, rfl, rfl, rfl, rfl⟩ rfl
          fun ⟨_, given⟩ => nomatch given
      · exact claimsInStep_of_sole (c := twice 1) rfl ⟨rfl, rfl, rfl, rfl, rfl, rfl, rfl⟩ rfl
          fun ⟨_, given⟩ => nomatch given
    exact each_iff.mp each

/-- The delivery whose webhook is disabled is retried once and given up at its second failure. -/
theorem ticks_retriedToLimit_disabled :
    applied 9 (Action.statements disabledTicks.flatten) =
        [.retry 1 (Span.ofSeconds 60), .giveUp 2] ∧
      (twice 0).RetriedToLimit .standard (Action.statements disabledTicks.flatten) := by
  have courses : ∀ trace ∈ disabledTicks,
      ∃ result, (Worker.tick .standard).Course trace result := by
    intro trace member
    obtain ⟨attempts, rows, rfl⟩ : ∃ attempts rows, trace = tryDisabled attempts rows := by
      rcases List.mem_cons.mp member with rfl | member
      · exact ⟨_, _, rfl⟩
      · rcases List.mem_pair.mp member with rfl | rfl
        · exact ⟨_, _, rfl⟩
        · exact ⟨_, _, rfl⟩
    exact ⟨_, Routine.course_run _ _⟩
  have limited : (twice 0).HasLimit :=
    ⟨show (1 : Int) ≤ 2 by decide, show (2 : Int) ≤ 32767 by decide⟩
  exact ⟨by decide, ticks_retriedToLimit limited courses disabledTicks_claimed
    fun _ member => nomatch member⟩

end QueueEntry

end AlertRelay
