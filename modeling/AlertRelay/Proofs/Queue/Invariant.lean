import AlertRelay.Proofs.Queue.System

/-!
# What holds of the delivery queue at every time

The attempts of every row are as its status allows, every claim agrees with its row, and the rows
that are being processed are exactly the rows of held claims, one claim each. A worker may write the
outcome of a claim that it lost long ago, so what keeps this is not that the row is as it was when
it was claimed but that the limit of attempts and the count the worker started from never change.

## Main definitions

* `Claim.Sound` — a claim agrees with its row
* `QueueSystem.Sound` — what holds at every time
* `QueueSystem.Changes` — what a move may do to the table

## Main results

* `Claim.advance_cases` — a worker leaves the queue, but for one write
* `QueueSystem.changes_step` — a move changes the table in one way of its kind
* `QueueSystem.step_sound` — a move keeps what holds
* `QueueSystem.run_sound` — it holds after any moves in any order
-/

namespace AlertRelay

/-! ## Claims -/

namespace QueueTable

variable {t : QueueTable} {o : Occasion}

theorem isProcessing_iff {id : Int} :
    t.isProcessing id = true ↔ ∃ e ∈ t.rows, e.id = id ∧ e.Has .processing := by
  simp only [isProcessing, List.any_eq_true, Bool.and_eq_true, beq_iff_eq]
  rfl

theorem answer_of_offQueue {e : Effect} (h : e.IsOffQueue) : (t.answer o e).1 = t := by
  cases e with
  | execute s => rw [answer, apply_of_table_ne h]; rfl
  | _ => rfl

end QueueTable

namespace Claim

variable {c : Claim} {t t' : QueueTable} {o : Occasion}

/-- The worker attempts the delivery, and has its outcome yet to write. -/
def IsAttempting (c : Claim) : Prop :=
  ∃ r : Routine (Except AttemptError Nat), r.Only Effect.IsOffQueue ∧
    c.rest = r >>= c.entry.settle c.policy

/-- The update by which the worker writes the outcome of its attempt. -/
def outcome (c : Claim) (o : Occasion) (result : Except AttemptError Nat) : RowChange :=
  (c.entry.outcomeOf c.policy result).change o c.entry.id

theorem outcome_selects_iff {result : Except AttemptError Nat} {e : QueueEntry} :
    (c.outcome o result).selects e = true ↔ e.id = c.entry.id ∧ e.Has .processing := by
  rw [outcome, OutcomeWrite.change, Bool.and_eq_true, beq_iff_eq, beq_iff_eq]
  rfl

/-- The worker does not touch the queue any more. -/
def IsThrough (c : Claim) : Prop := c.rest.Only Effect.IsOffQueue

/-- What holds of a claim and the table at every time. -/
structure Sound (t : QueueTable) (c : Claim) : Prop where
  counter : c.entry.IsLimited → 0 ≤ c.entry.attempts ∧ c.entry.attempts < c.entry.maxAttempts
  stored : ∃ e ∈ t.rows, c.entry.SameDelivery e ∧
    (c.standing = .held → e.Has .processing ∧ e.attempts = c.entry.attempts)
  phase : c.IsAttempting ∨ c.IsThrough

theorem entry_advance (c : Claim) (t : QueueTable) (o : Occasion) :
    (c.advance t o).2.entry = c.entry := by
  rw [advance]
  split <;> rfl

theorem standing_advance (c : Claim) (t : QueueTable) (o : Occasion) :
    (c.advance t o).2.standing = c.standing := by
  rw [advance]
  split <;> rfl

theorem rest_refresh (c : Claim) (t : QueueTable) (lost : Standing) :
    (c.refresh t lost).rest = c.rest := by
  rw [refresh]
  split <;> rfl

/-- The next effect of a worker is one outside the queue, or it writes the outcome of its attempt
and touches the queue no more. -/
theorem advance_cases (phase : c.IsAttempting ∨ c.IsThrough) :
    (c.advance t o).1 = t ∧ ((c.advance t o).2.IsAttempting ∨ (c.advance t o).2.IsThrough) ∨
      ∃ result, c.rest = c.entry.settle c.policy result ∧
        (c.advance t o).1 = t.update (c.outcome o result) o.now ∧
        (c.advance t o).2.IsThrough := by
  rcases phase with ⟨r, offQueue, rest⟩ | through
  · cases r with
    | done result =>
      -- the attempt is over, so the next effect is the write
      right
      obtain ⟨next, settle, through, -⟩ := c.entry.settle_eq c.policy result
      have rest : c.rest = c.entry.settle c.policy result := rest
      refine ⟨result, rest, ?_⟩
      rw [advance, rest, settle]
      exact ⟨congrArg Prod.fst (QueueTable.answer_outcome _ _), through _⟩
    | halt overflow =>
      left
      have rest : c.rest = .halt overflow := rest
      rw [advance, rest]
      exact ⟨rfl, .inr (by rw [IsThrough, rest]; trivial)⟩
    | ask e next =>
      -- one more effect of the attempt, with the write still to come
      left
      have rest : c.rest = .ask e fun answer => next answer >>= c.entry.settle c.policy := rest
      rw [advance, rest]
      exact ⟨QueueTable.answer_of_offQueue offQueue.1, .inl ⟨_, offQueue.2 _, rfl⟩⟩
  · left
    rw [advance]
    split
    case h_1 e next rest =>
      rw [IsThrough, rest] at through
      exact ⟨QueueTable.answer_of_offQueue through.1, .inr (through.2 _)⟩
    case h_2 => exact ⟨rfl, .inr through⟩
    case h_3 => exact ⟨rfl, .inr through⟩

/-- The stored row of a claim. -/
theorem Sound.same_of_mem (h : c.Sound t) {e : QueueEntry} (member : e ∈ t.rows)
    (same : e.id = c.entry.id) : c.entry.SameDelivery e ∧
      (c.standing = .held → e.Has .processing ∧ e.attempts = c.entry.attempts) := by
  obtain ⟨x, member', stored, held⟩ := h.stored
  obtain rfl := t.eq_of_id_eq member member' (same.trans stored.id.symm)
  exact ⟨stored, held⟩

theorem advance_sound (h : c.Sound t) : (c.advance t o).2.Sound t where
  counter := by
    rw [entry_advance]
    exact h.counter
  stored := by
    rw [entry_advance, standing_advance]
    exact h.stored
  phase := by
    rcases advance_cases (o := o) (t := t) h.phase with ⟨-, phase⟩ | ⟨result, -, -, through⟩
    · exact phase
    · exact .inr through

/-- A change of the table that leaves the row of a held claim keeps the claim. -/
theorem Sound.mono (h : c.Sound t) {added : List QueueEntry} (evolves : t.Evolves added t')
    (stays : c.standing = .held → ∀ e ∈ t.rows, e.id = c.entry.id → e ∈ t'.rows) :
    c.Sound t' where
  counter := h.counter
  stored := by
    obtain ⟨e, member, same, held⟩ := h.stored
    by_cases standing : c.standing = .held
    · exact ⟨e, stays standing e member same.id, same, held⟩
    · obtain ⟨e', member', change⟩ := evolves.kept e member
      refine ⟨e', member', ?_, fun held => absurd held standing⟩
      rcases change with rfl | becomes
      · exact same
      · exact same.trans becomes.same
  phase := h.phase

theorem refresh_sound (h : c.Sound t) (evolves : t.Evolves [] t') (taken : t.NoneTaken t')
    {lost : Standing} (isLost : lost ≠ .held) : (c.refresh t' lost).Sound t' := by
  rw [refresh]
  split
  case isTrue broken =>
    -- a claim that is not held only needs its row to be there
    have unheld : ({ c with standing := lost } : Claim).Sound t :=
      ⟨h.counter, by
        obtain ⟨e, member, same, -⟩ := h.stored
        exact ⟨e, member, same, fun held => absurd held isLost⟩, h.phase⟩
    exact unheld.mono evolves fun held => absurd held isLost
  case isFalse unbroken =>
    -- no row began to be processed, so a row that is processing now is the one that was held
    refine h.mono evolves fun held e member same => ?_
    have processing : t'.isProcessing c.entry.id = true := by
      by_contra none
      exact unbroken ⟨held, Bool.not_eq_true _ ▸ none⟩
    obtain ⟨x, member', same', processing⟩ := QueueTable.isProcessing_iff.mp processing
    obtain rfl := t.eq_of_id_eq (taken x member' processing) member (same'.trans same.symm)
    exact member'

end Claim

/-! ## What holds at every time -/

/-- The ids of the rows whose claims are held. -/
def Claim.heldIds (claims : List Claim) : List Int :=
  (claims.filter fun c => c.standing = .held).map (·.entry.id)

namespace Claim

variable {claims : List Claim} {c : Claim}

theorem mem_heldIds {id : Int} :
    id ∈ heldIds claims ↔ ∃ c ∈ claims, c.standing = .held ∧ c.entry.id = id := by
  simp [heldIds, and_assoc]

theorem heldIds_append (claims claims' : List Claim) :
    heldIds (claims ++ claims') = heldIds claims ++ heldIds claims' := by
  rw [heldIds, List.filter_append, List.map_append]
  rfl

theorem heldIds_start (policy : RetryPolicy) (es : List QueueEntry) :
    heldIds (es.map (start policy)) = es.map (·.id) := by
  induction es with
  | nil => rfl
  | cons e rest ih => exact congrArg (e.id :: ·) ih

/-- The next effect of a worker takes or loses no claim by itself. -/
theorem heldIds_set {c' : Claim} (entry : c'.entry = c.entry) (standing : c'.standing = c.standing)
    {index : Nat} (found : claims[index]? = some c) :
    heldIds (claims.set index c') = heldIds claims := by
  induction claims generalizing index with
  | nil => rfl
  | cons d rest ih =>
    cases index with
    | zero =>
      -- neither what the filter looks at nor the id is changed
      obtain rfl := Option.some.inj found
      simp [heldIds, List.filter_cons, standing, entry, apply_ite]
    | succ index =>
      have tail := ih found
      simp only [heldIds] at tail
      simp [heldIds, List.filter_cons, apply_ite, tail]

/-- The claims that are held on are those whose row is still processing. -/
theorem heldIds_refresh {lost : Standing} (isLost : lost ≠ .held) (t : QueueTable) :
    heldIds (claims.map (refresh t lost)) = (heldIds claims).filter t.isProcessing := by
  induction claims with
  | nil => rfl
  | cons c rest ih =>
    simp only [heldIds] at ih
    by_cases held : c.standing = .held
    · cases still : t.isProcessing c.entry.id with
      | true => simp [heldIds, refresh, held, still, ih]
      | false => simp [heldIds, refresh, held, still, isLost, ih]
    · simp [heldIds, refresh, held, ih]

end Claim

namespace QueueSystem

/-- What holds at every time. -/
structure Sound (s : QueueSystem) : Prop where
  /-- The attempts of every row are as its status allows. -/
  rows : ∀ e ∈ s.table.rows, e.IsLimited → e.CounterFits
  /-- Every claim agrees with its row. -/
  claims : ∀ c ∈ s.claims, c.Sound s.table
  /-- A row that is being processed is held. -/
  held : ∀ e ∈ s.table.rows, e.Has .processing → e.id ∈ Claim.heldIds s.claims
  /-- No two claims of one row are held. -/
  disjoint : (Claim.heldIds s.claims).Nodup

variable {s : QueueSystem} {t' : QueueTable} {o : Occasion}

theorem initial_sound : initial.Sound := by
  refine ⟨?_, ?_, ?_, List.nodup_nil⟩ <;> simp [initial, QueueTable.empty]

theorem rows_of_evolves (h : s.Sound) {added : List QueueEntry}
    (new : ∀ e ∈ added, e.Has .pending ∧ e.attempts = 0) (evolves : s.table.Evolves added t') :
    ∀ e ∈ t'.rows, e.IsLimited → e.CounterFits := by
  intro e' member' limited
  rcases evolves.origin e' member' with ⟨e, member, rfl | becomes⟩ | member
  · exact h.rows e' member limited
  · have limited : e.IsLimited := becomes.same.isLimited_iff.mp limited
    exact becomes.fits limited (h.rows e member limited)
  · obtain ⟨pending, zero⟩ := new e' member
    have limited : 1 ≤ e'.maxAttempts := limited
    exact .of_lt .pending pending (by decide) (by omega) (by omega)

/-- A change that takes no row keeps what holds, once the claims whose rows it took out of
processing are lost. -/
theorem settleOn_sound {claims : List Claim} (h : Sound ⟨s.table, claims⟩)
    (evolves : s.table.Evolves [] t') (taken : s.table.NoneTaken t') {lost : Standing}
    (isLost : lost ≠ .held) : (settleOn t' lost claims).Sound where
  rows := rows_of_evolves h (by simp) evolves
  claims := by
    intro c' member'
    obtain ⟨c, member, rfl⟩ := List.mem_map.mp member'
    exact Claim.refresh_sound (h.claims c member) evolves taken isLost
  held := by
    intro e member processing
    rw [settleOn, Claim.heldIds_refresh isLost, List.mem_filter]
    exact ⟨h.held e (taken e member processing) processing,
      QueueTable.isProcessing_iff.mpr ⟨e, member, rfl, processing⟩⟩
  disjoint := by
    rw [settleOn, Claim.heldIds_refresh isLost]
    exact h.disjoint.filter _

/-- What a move may do to the table: nothing, or one change of its own kind. -/
inductive Changes (s : QueueSystem) : Move → QueueTable → Prop
  | unchanged (m : Move) : s.Changes m s.table
  | enqueue (o : Occasion) (delivery : NewDelivery)
      (fresh : (delivery.entry o).id ∉ s.table.rows.map (·.id)) :
      s.Changes (.enqueue o delivery) (s.table.insert (delivery.entry o) fresh)
  | claim (o : Occasion) (policy : RetryPolicy) (request : ClaimRequest)
      (among : QueueEntry → Bool) :
      s.Changes (.claim o policy request) (s.table.update (.claim among) o.now)
  | release (o : Occasion) (olderThan : Span) :
      s.Changes (.release o olderThan) (s.table.update (.release o olderThan.toSeconds) o.now)
  | write {o : Occasion} {index : Nat} {c : Claim} {result : Except AttemptError Nat}
      (found : s.claims[index]? = some c) (attempted : c.rest = c.entry.settle c.policy result) :
      s.Changes (.advance o index) (s.table.update (c.outcome o result) o.now)

theorem changes_step (h : s.Sound) (m : Move) : s.Changes m (s.step m).table := by
  cases m with
  | enqueue o delivery =>
    rw [step]
    rcases s.table.perform_enqueue (o := o) delivery with unchanged | ⟨fresh, added⟩
    · rw [unchanged]
      exact .unchanged _
    · rw [added]
      exact .enqueue o delivery fresh
  | claim o policy request =>
    obtain ⟨among, table, -⟩ := s.table.perform_request (o := o) request
    change s.Changes _ (s.table.perform o request.routine).1
    rw [table]
    exact .claim o policy request among
  | release o olderThan =>
    rw [step, settleOn, QueueTable.perform_releaseStale]
    exact .release o olderThan
  | advance o index =>
    rw [step]
    cases found : s.claims[index]? with
    | none => exact .unchanged _
    | some c =>
      have phase := (h.claims c (List.mem_of_getElem? found)).phase
      change s.Changes _ (c.advance s.table o).1
      rcases Claim.advance_cases (o := o) (t := s.table) phase with
        ⟨unchanged, -⟩ | ⟨result, attempted, written, -⟩
      · rw [unchanged]
        exact .unchanged _
      · rw [written]
        exact .write found attempted

/-- A move changes only rows that are not final, and adds only what it queues. -/
theorem Changes.evolves (h : s.Sound) {m : Move} (changes : s.Changes m t') :
    s.table.Evolves m.added t' := by
  cases changes with
  | unchanged => exact .refl _ _
  | enqueue o delivery fresh => exact QueueTable.insert_evolves fresh
  | claim o policy request among => exact QueueTable.claim_evolves among o.now
  | release o olderThan =>
    exact QueueTable.update_evolves fun _ _ selected => QueueEntry.becomes_release selected
  | @write o index c result found attempted =>
    have sound := h.claims c (List.mem_of_getElem? found)
    refine QueueTable.update_evolves fun e member selected => ?_
    obtain ⟨same, processing⟩ := Claim.outcome_selects_iff.mp selected
    exact QueueEntry.becomes_outcome (sound.same_of_mem member same).1 sound.counter result
      processing

/-- A move that is no claim begins to process no row. -/
theorem Changes.noneTaken {m : Move} (changes : s.Changes m t')
    (unclaimed : ∀ o policy request, m ≠ .claim o policy request) : s.table.NoneTaken t' := by
  cases changes with
  | unchanged => exact fun e member _ => member
  | enqueue o delivery fresh => exact QueueTable.insert_noneTaken fresh rfl
  | claim o policy request among => exact absurd rfl (unclaimed o policy request)
  | release o olderThan =>
    refine QueueTable.update_noneTaken fun e _ _ => ?_
    exact QueueEntry.Has.not (s := .pending) rfl (by decide)
  | write found attempted =>
    exact QueueTable.update_noneTaken fun e _ _ => QueueEntry.outcome_not_processing _ _ e

/-- A held claim's row is being processed. -/
theorem Sound.processing_of_held (h : s.Sound) {id : Int} (held : id ∈ Claim.heldIds s.claims) :
    ∃ e ∈ s.table.rows, e.id = id ∧ e.Has .processing := by
  obtain ⟨c, member, standing, rfl⟩ := Claim.mem_heldIds.mp held
  obtain ⟨e, stored, same, processing⟩ := (h.claims c member).stored
  exact ⟨e, stored, same.id, (processing standing).1⟩

/-- A new claim agrees with its row. -/
theorem start_sound (h : s.Sound) {among : QueueEntry → Bool} {now : Instant} {e : QueueEntry}
    (claimed : e ∈ s.table.changed (.claim among) now) (policy : RetryPolicy) :
    (Claim.start policy e).Sound (s.table.update (.claim among) now) := by
  obtain ⟨x, member, selected, rfl⟩ := QueueTable.mem_changed.mp claimed
  have stored := QueueTable.mem_update_of_selects member selected now
  have processing : ((RowChange.claim among).write now x).Has .processing := rfl
  refine ⟨fun limited => ?_, ⟨_, stored, .refl _, fun _ => ⟨processing, rfl⟩⟩,
    .inl ⟨_, QueueEntry.attempt_offQueue _, QueueEntry.process_eq _ _⟩⟩
  have fits := rows_of_evolves h (by simp) (s.table.claim_evolves among now) _ stored limited
  exact ⟨fits.nonnegative, fits.lt_of_processing processing⟩

/-- Claiming rows keeps what holds. -/
theorem claim_sound (h : s.Sound) (among : QueueEntry → Bool) (policy : RetryPolicy) (now : Instant) :
    Sound ⟨s.table.update (.claim among) now,
      s.claims ++ (s.table.changed (.claim among) now).map (Claim.start policy)⟩ where
  rows := rows_of_evolves h (by simp) (QueueTable.claim_evolves among now)
  claims := by
    intro c member
    rcases List.mem_append.mp member with member | member
    · refine (h.claims c member).mono (s.table.claim_evolves among now) fun held e stored same => ?_
      have processing := (((h.claims c member).same_of_mem stored same).2 held).1
      exact QueueTable.mem_update_of_not_selects stored
        (fun selected => processing.not (by decide) (QueueEntry.pending_of_selects selected)) now
    · obtain ⟨e, claimed, rfl⟩ := List.mem_map.mp member
      exact start_sound h claimed policy
  held := by
    intro e' member' processing
    obtain ⟨e, member, rfl⟩ := QueueTable.mem_update.mp member'
    rw [Claim.heldIds_append, Claim.heldIds_start, RowChange.id_change, QueueTable.map_id_changed]
    -- a processing row was claimed just now, or it was processing and is not selected
    by_cases selected : (RowChange.claim among).selects e = true
    · exact List.mem_append_right _
        (List.mem_map.mpr ⟨e, List.mem_filter.mpr ⟨member, selected⟩, rfl⟩)
    · rw [RowChange.change, if_neg selected] at processing
      exact List.mem_append_left _ (h.held e member processing)
  disjoint := by
    rw [Claim.heldIds_append, Claim.heldIds_start, List.nodup_append]
    refine ⟨h.disjoint, QueueTable.nodup_changed _ _, ?_⟩
    rintro id held _ claimed rfl
    -- a held row is processing, a claimed one was pending
    obtain ⟨e, stored, same, processing⟩ := h.processing_of_held held
    rw [QueueTable.map_id_changed] at claimed
    obtain ⟨x, member, same'⟩ := List.mem_map.mp claimed
    obtain ⟨stored', selected⟩ := List.mem_filter.mp member
    obtain rfl := s.table.eq_of_id_eq stored stored' (same.trans same'.symm)
    exact processing.not (by decide) (QueueEntry.pending_of_selects selected)

/-- A move keeps what holds. -/
theorem step_sound (h : s.Sound) (m : Move) : (s.step m).Sound := by
  have changes := changes_step h m
  cases m with
  | enqueue o delivery =>
    exact
      { rows := rows_of_evolves h (by simp [Move.added, NewDelivery.entry, QueueEntry.Has])
          (changes.evolves h)
        claims := fun c member => (h.claims c member).mono (changes.evolves h) fun _ e stored _ =>
          QueueTable.enqueue_keeps delivery e stored
        held := fun e member processing =>
          h.held e (changes.noneTaken nofun e member processing) processing
        disjoint := h.disjoint }
  | claim o policy request =>
    obtain ⟨among, table, claimed⟩ := s.table.perform_request (o := o) request
    have claims := claim_sound h among policy o.now
    rw [← table, ← claimed] at claims
    exact claims
  | release o olderThan =>
    exact settleOn_sound (s := s) h (changes.evolves h) (changes.noneTaken nofun) (by decide)
  | advance o index =>
    rw [step] at changes ⊢
    cases found : s.claims[index]? with
    | none => exact h
    | some c =>
      rw [found] at changes
      have sound : c.Sound s.table := h.claims c (List.mem_of_getElem? found)
      have ids := Claim.heldIds_set (c.entry_advance s.table o) (c.standing_advance s.table o) found
      -- the worker moves on, before the table settles
      have advanced : Sound ⟨s.table, s.claims.set index (c.advance s.table o).2⟩ :=
        { rows := h.rows
          claims := fun d member => by
            rcases List.mem_or_eq_of_mem_set member with member | rfl
            · exact h.claims d member
            · exact Claim.advance_sound sound
          held := fun e member processing => by
            rw [ids]
            exact h.held e member processing
          disjoint := by
            rw [ids]
            exact h.disjoint }
      exact settleOn_sound (s := s) advanced (changes.evolves h) (changes.noneTaken nofun)
        (by decide)

/-- What holds after moves from a state in which it holds. -/
theorem runFrom_sound (h : s.Sound) (moves : List Move) : (s.runFrom moves).Sound := by
  induction moves generalizing s with
  | nil => exact h
  | cons m rest ih => exact ih (step_sound h m)

/-- After any moves in any order everything is as it should be. -/
theorem run_sound (moves : List Move) : (run moves).Sound := runFrom_sound initial_sound moves

end QueueSystem

end AlertRelay
