import AlertRelay.Proofs.Queue.Invariant

/-!
# Outcomes of lost claims

The write of an outcome is guarded by the id and the status of its row, and by nothing that tells
one claim of the row from another. So what decides whether it applies is not whether the worker's
own claim is still held but whether any claim of the row is. The write of a claim that was taken
back affects no row, and is reported as lost, unless the row was claimed again; then it ends the
other worker's claim, and sets the attempts to one more than they were when the lost claim was made.

## Main definitions

* `QueueSystem.Writes` — the next effect of a claim's worker is to write its outcome
* `QueueSystem.Holds` — a claim of a row is held
* `QueueSystem.GuardsWrites` — when outcomes are written, and what becomes of the attempts

## Main results

* `QueueSystem.run_guardsWrites` — what the guard of an outcome ensures, in every run
* `QueueSystem.late_write_lowers_attempts` — a run in which a lost claim lowers the attempts
-/

namespace AlertRelay

/-! ## One outcome -/

/-- The limit of attempts is at least one, and a value of its column. -/
def QueueEntry.HasLimit (e : QueueEntry) : Prop := e.IsLimited ∧ e.maxAttempts ≤ maxCounter

theorem QueueEntry.SameDelivery.hasLimit_iff {e e' : QueueEntry} (h : e.SameDelivery e') :
    e'.HasLimit ↔ e.HasLimit := by
  rw [HasLimit, HasLimit, h.isLimited_iff, h.maxAttempts]

/-- The attempts after an outcome, given those before it. -/
def QueueEntry.attemptsAfter (claimed : QueueEntry) (before : Int) :
    Except AttemptError Nat → Int
  | .ok _ => before
  | .error _ => min (claimed.attempts + 1) maxCounter

theorem Claim.attempts_outcome (c : Claim) (o : Occasion) (result : Except AttemptError Nat)
    (now : Instant) (e : QueueEntry) :
    ((c.outcome o result).write now e).attempts = c.entry.attemptsAfter e.attempts result := by
  cases result with
  | ok status => rfl
  | error error =>
    rw [outcome, QueueEntry.outcomeOf, QueueEntry.attemptsAfter,
      ← c.policy.attempts_afterFailure _ c.entry.maxAttempts]
    cases c.policy.afterFailure c.entry.attempts c.entry.maxAttempts <;> rfl

/-- An update that does not set the attempts leaves them. -/
theorem QueueTable.attempts_eq_of_mem_update {t : QueueTable} {u : RowChange} {now : Instant}
    (keeps : ∀ e, (u.set e).attempts = e.attempts) {e e' : QueueEntry} (member : e ∈ t.rows)
    (member' : e' ∈ (t.update u now).rows) (same : e'.id = e.id) : e'.attempts = e.attempts := by
  rw [eq_change_of_mem_update member member' same, RowChange.change]
  split
  · exact keeps e
  · rfl

/-- The write of an outcome, and what its worker does when it affects no row. -/
theorem Claim.advance_settle {c : Claim} {result : Except AttemptError Nat}
    (attempted : c.rest = c.entry.settle c.policy result) (t : QueueTable) (o : Occasion) :
    (c.advance t o).1 = t.update (c.outcome o result) o.now ∧
      (t.changed (c.outcome o result) o.now = [] →
        QueueEntry.ReportsLoss (c.advance t o).2.rest) := by
  obtain ⟨next, settle, -, lost⟩ := c.entry.settle_eq c.policy result
  rw [advance, attempted, settle]
  refine ⟨congrArg Prod.fst (QueueTable.answer_outcome _ _), fun none => lost _ ?_⟩
  rw [outcome] at none
  rw [QueueTable.answer_outcome, QueueTable.counting, none]
  rfl

namespace QueueSystem

/-- The next effect of the worker of a claim is to write its outcome. -/
structure Writes (s : QueueSystem) (index : Nat) (c : Claim) (result : Except AttemptError Nat) :
    Prop where
  found : s.claims[index]? = some c
  attempted : c.rest = c.entry.settle c.policy result

/-- A claim of a row is held. -/
structure Holds (s : QueueSystem) (d : Claim) (id : Int) : Prop where
  mem : d ∈ s.claims
  held : d.standing = .held
  id_eq : d.entry.id = id

variable {s : QueueSystem} {index : Nat} {c d : Claim} {result : Except AttemptError Nat}
  {o : Occasion}

/-- A held claim agrees with its row. -/
theorem Holds.row (h : s.Sound) {id : Int} (holds : s.Holds d id) :
    ∃ e ∈ s.table.rows, e.id = id ∧ e.Has .processing ∧ e.attempts = d.entry.attempts := by
  obtain ⟨e, member, same, held⟩ := (h.claims d holds.mem).stored
  exact ⟨e, member, same.id.trans holds.id_eq, held holds.held⟩

theorem holds_of_processing (h : s.Sound) {e : QueueEntry} (member : e ∈ s.table.rows)
    (processing : e.Has .processing) : ∃ d, s.Holds d e.id := by
  obtain ⟨d, member', held, same⟩ := Claim.mem_heldIds.mp (h.held e member processing)
  exact ⟨d, member', held, same⟩

theorem Writes.table_step (writes : s.Writes index c result) (o : Occasion) :
    (s.step (.advance o index)).table =
      s.table.update (c.outcome o result) o.now := by
  rw [step, writes.found]
  exact (c.advance_settle writes.attempted s.table o).1

/-- A write selects no row when no claim of its row is held. -/
theorem not_selects_of_not_holds (h : s.Sound) (free : ∀ d, ¬ s.Holds d c.entry.id)
    (o : Occasion) (result : Except AttemptError Nat) :
    ∀ e ∈ s.table.rows, (c.outcome o result).selects e = false := by
  intro e member
  by_contra selected
  obtain ⟨same, processing⟩ := Claim.outcome_selects_iff.mp (Bool.not_eq_false _ ▸ selected)
  obtain ⟨d, holds⟩ := holds_of_processing h member processing
  exact free d (same ▸ holds)

/-- A write leaves the table exactly when no claim of its row is held, by whichever worker. -/
theorem Writes.table_eq_iff (h : s.Sound) (writes : s.Writes index c result) :
    (s.step (.advance o index)).table = s.table ↔ ∀ d, ¬ s.Holds d c.entry.id := by
  rw [writes.table_step]
  constructor
  · intro unchanged d holds
    obtain ⟨e, member, same, processing, -⟩ := holds.row h
    have selected : (c.outcome o result).selects e = true :=
      Claim.outcome_selects_iff.mpr ⟨same, processing⟩
    have written := QueueTable.mem_update_of_selects member selected o.now
    rw [unchanged] at written
    -- the written row would be the row itself, which has left processing
    have fixed := s.table.eq_of_id_eq written member (RowChange.id_set _ e)
    exact QueueEntry.outcome_not_processing _ _ e (fixed ▸ processing)
  · intro free
    exact QueueTable.update_of_none (not_selects_of_not_holds h free o result) o.now

/-- A write that affects no row is reported as lost, and its worker does nothing else. -/
theorem Writes.reportsLoss (h : s.Sound) (writes : s.Writes index c result)
    (free : ∀ d, ¬ s.Holds d c.entry.id) (o : Occasion) :
    ∃ c', (s.step (.advance o index)).claims[index]? = some c' ∧
      QueueEntry.ReportsLoss c'.rest := by
  have unchanged := QueueTable.changed_of_none (not_selects_of_not_holds h free o result) o.now
  have lost := (c.advance_settle writes.attempted s.table o).2 unchanged
  obtain ⟨inside, -⟩ := List.getElem?_eq_some_iff.mp writes.found
  have advanced : (s.step (.advance o index)).claims =
      (s.claims.set index (c.advance s.table o).2).map
        (Claim.refresh (c.advance s.table o).1 .ended) := by
    rw [step, writes.found]
    rfl
  rw [advanced, List.getElem?_map, List.getElem?_set_self inside]
  refine ⟨_, rfl, ?_⟩
  rw [Claim.rest_refresh]
  exact lost

/-- While a claim of its row is held, by whichever worker, a write changes that row and no other. -/
theorem Writes.applies (h : s.Sound) (writes : s.Writes index c result)
    (holds : s.Holds d c.entry.id) (o : Occasion) :
    ∃ e ∈ s.table.rows, ∃ e' ∈ (s.step (.advance o index)).table.rows,
      e.id = c.entry.id ∧ e'.id = c.entry.id ∧ e.Has .processing ∧ ¬ e'.Has .processing ∧
        e.attempts = d.entry.attempts ∧
        e'.attempts = c.entry.attemptsAfter d.entry.attempts result ∧
        ∀ x ∈ s.table.rows, x ≠ e → x ∈ (s.step (.advance o index)).table.rows := by
  obtain ⟨e, member, same, processing, counted⟩ := holds.row h
  rw [writes.table_step]
  refine ⟨e, member, _, QueueTable.mem_update_of_selects member
    (Claim.outcome_selects_iff.mpr ⟨same, processing⟩) o.now, same, ?_, processing,
    QueueEntry.outcome_not_processing _ _ e, counted, ?_, fun x member' other => ?_⟩
  · exact (RowChange.id_set _ e).trans same
  · rw [Claim.attempts_outcome, counted]
  · refine QueueTable.mem_update_of_not_selects member' (fun selected => other ?_) o.now
    exact s.table.eq_of_id_eq member' member ((Claim.outcome_selects_iff.mp selected).1.trans same.symm)

/-! ## The attempts of a row -/

/-- Only the write of a failed attempt changes the attempts of a row. -/
theorem writes_of_attempts_ne (h : s.Sound) {m : Move} {e e' : QueueEntry}
    (member : e ∈ s.table.rows) (member' : e' ∈ (s.step m).table.rows) (same : e'.id = e.id)
    (changed : e'.attempts ≠ e.attempts) :
    ∃ o index c error, m = .advance o index ∧ s.Writes index c (.error error) ∧
      c.entry.id = e.id := by
  have changes := changes_step h m
  generalize (s.step m).table = t' at changes member'
  cases changes with
  | unchanged => exact absurd (congrArg _ (s.table.eq_of_id_eq member' member same)) changed
  | enqueue o delivery fresh =>
    have kept : e ∈ (s.table.insert (delivery.entry o) fresh).rows :=
      List.mem_append_left _ member
    exact absurd (congrArg _ (QueueTable.eq_of_id_eq member' kept same)) changed
  | claim o policy request among =>
    exact absurd (QueueTable.attempts_eq_of_mem_update (fun _ => rfl) member member' same) changed
  | release o olderThan =>
    exact absurd (QueueTable.attempts_eq_of_mem_update (fun _ => rfl) member member' same) changed
  | @write o index c result found attempted =>
    rw [QueueTable.eq_change_of_mem_update member member' same, RowChange.change] at changed
    by_cases selected : (c.outcome o result).selects e = true
    · rw [if_pos selected, Claim.attempts_outcome] at changed
      cases result with
      | ok status => exact absurd rfl changed
      | error error =>
        exact ⟨o, index, c, error, rfl, ⟨found, attempted⟩,
          (Claim.outcome_selects_iff.mp selected).1.symm⟩
    · rw [if_neg selected] at changed
      exact absurd rfl changed

/-- A failed attempt written under a claim of its row that is held: the attempts are one more than
when the writer claimed the row, and were what they were when the holder claimed it. -/
theorem Writes.attempts_eq (h : s.Sound) {error : AttemptError}
    (writes : s.Writes index c (.error error)) (holds : s.Holds d c.entry.id)
    (limited : c.entry.HasLimit) {e e' : QueueEntry} (member : e ∈ s.table.rows)
    (member' : e' ∈ (s.step (.advance o index)).table.rows) (same : e.id = c.entry.id)
    (same' : e'.id = c.entry.id) :
    e.attempts = d.entry.attempts ∧ e'.attempts = c.entry.attempts + 1 := by
  obtain ⟨x, stored, x', stored', id, id', -, -, counted, written, -⟩ := writes.applies h holds o
  obtain rfl := s.table.eq_of_id_eq member stored (same.trans id.symm)
  obtain rfl := QueueTable.eq_of_id_eq member' stored' (same'.trans id'.symm)
  have claimed := (h.claims c (List.mem_of_getElem? writes.found)).counter limited.1
  have bound := limited.2
  rw [QueueEntry.attemptsAfter] at written
  exact ⟨counted, by omega⟩

/-! ## What the guard ensures -/

/-- When outcomes are written, and what becomes of the attempts of a row. -/
structure GuardsWrites (s : QueueSystem) : Prop where
  /-- A write affects no row exactly when no claim of its row is held: neither the claim of the
  writer nor one that was made after it. -/
  unapplied_iff : ∀ {o index c result}, s.Writes index c result →
    ((s.step (.advance o index)).table = s.table ↔ ∀ d, ¬ s.Holds d c.entry.id)
  /-- A write that affects no row is reported as lost, and nothing else is written. -/
  reported : ∀ {o index c result}, s.Writes index c result → (∀ d, ¬ s.Holds d c.entry.id) →
    ∃ c', (s.step (.advance o index)).claims[index]? = some c' ∧ QueueEntry.ReportsLoss c'.rest
  /-- Any other write changes its row, which leaves processing, and no other row. -/
  applied : ∀ {o index c d result}, s.Writes index c result → s.Holds d c.entry.id →
    ∃ e ∈ s.table.rows, ∃ e' ∈ (s.step (.advance o index)).table.rows,
      e.id = c.entry.id ∧ e'.id = c.entry.id ∧ e.Has .processing ∧ ¬ e'.Has .processing ∧
        e.attempts = d.entry.attempts ∧
        e'.attempts = c.entry.attemptsAfter d.entry.attempts result ∧
        ∀ x ∈ s.table.rows, x ≠ e → x ∈ (s.step (.advance o index)).table.rows
  /-- A failed attempt raises the attempts by exactly one if the writer and the holder claimed the
  row at the same count, as they do when they are one, and lowers them exactly if the row came to
  fail more than once in between. -/
  raised_iff : ∀ {o index c d error e e'}, s.Writes index c (.error error) →
    s.Holds d c.entry.id → c.entry.HasLimit → e ∈ s.table.rows →
    e' ∈ (s.step (.advance o index)).table.rows → e.id = c.entry.id → e'.id = c.entry.id →
    (e'.attempts = e.attempts + 1 ↔ c.entry.attempts = d.entry.attempts) ∧
      (e'.attempts < e.attempts ↔ c.entry.attempts + 1 < d.entry.attempts)
  /-- Nothing else lowers the attempts of a row. -/
  lowered : ∀ {m e e'}, e ∈ s.table.rows → e' ∈ (s.step m).table.rows → e'.id = e.id →
    e.HasLimit → e'.attempts < e.attempts →
    ∃ o index c error d, m = .advance o index ∧ s.Writes index c (.error error) ∧
      c.standing ≠ .held ∧ s.Holds d e.id ∧ c.entry.id = e.id ∧
        c.entry.attempts + 1 < d.entry.attempts

theorem lost_of_lowers (h : s.Sound) {m : Move} {e e' : QueueEntry} (member : e ∈ s.table.rows)
    (member' : e' ∈ (s.step m).table.rows) (same : e'.id = e.id) (limited : e.HasLimit)
    (lower : e'.attempts < e.attempts) :
    ∃ o index c error d, m = .advance o index ∧ s.Writes index c (.error error) ∧
      c.standing ≠ .held ∧ s.Holds d e.id ∧ c.entry.id = e.id ∧
        c.entry.attempts + 1 < d.entry.attempts := by
  obtain ⟨o, index, c, error, rfl, writes, id⟩ :=
    writes_of_attempts_ne h member member' same (by omega)
  have sound := h.claims c (List.mem_of_getElem? writes.found)
  have delivery := (sound.same_of_mem member id.symm).1
  have claimLimited : c.entry.HasLimit := delivery.hasLimit_iff.mp limited
  -- a write that affects no row would not lower anything
  obtain ⟨d, holds⟩ : ∃ d, s.Holds d c.entry.id := by
    by_contra free
    have unchanged := (writes.table_eq_iff (o := o) h).mpr fun d holds => free ⟨d, holds⟩
    rw [unchanged] at member'
    have fixed := s.table.eq_of_id_eq member' member same
    rw [fixed] at lower
    omega
  obtain ⟨before, after⟩ :=
    writes.attempts_eq h holds claimLimited member member' id.symm (same.trans id.symm)
  refine ⟨o, index, c, error, d, rfl, writes, fun held => ?_, id ▸ holds, id, by omega⟩
  -- a writer that held the row itself would have raised the attempts
  have own := ((sound.same_of_mem member id.symm).2 held).2
  omega

/-- What the guard of an outcome ensures, in every run. -/
theorem run_guardsWrites (moves : List Move) : (run moves).GuardsWrites :=
  have h := run_sound moves
  { unapplied_iff := fun writes => writes.table_eq_iff h
    reported := fun writes free => writes.reportsLoss h free _
    applied := fun writes holds => writes.applies h holds _
    raised_iff := fun writes holds limited member member' same same' => by
      obtain ⟨before, after⟩ := writes.attempts_eq h holds limited member member' same same'
      omega
    lowered := fun member member' same limited lower =>
      lost_of_lowers h member member' same limited lower }

/-! ## A lost claim that writes -/

/-- An occasion at a second of a day on which every webhook is gone: claims are stale after five
minutes, and what failed is due again after half a minute. -/
def webhooksGone (second : Int) : Occasion where
  now := ⟨second, 0⟩
  freshId := 1
  isLocked _ := false
  earlier _ := ⟨second - 300, 0⟩
  later _ := ⟨second + 30, 0⟩
  world
    | .execute _ => .rows []
    | .post _ => .broken
    | .measure query => .error ⟨query.metricName, "no such metric"⟩
    | .now => ⟨second, 0⟩
    | .log _ => ()

/-- A worker claims a delivery and is held up after it has looked the webhook up. Its claim is taken
back, two more attempts fail, and another worker claims the delivery again. -/
def lateMoves : List Move :=
  [.enqueue (webhooksGone 0) ⟨1, 3, "report.ready", .null, none⟩,
   .claim (webhooksGone 0) .standard (.one 1), .advance (webhooksGone 0) 0,
   .release (webhooksGone 400) (Span.ofSeconds 300),
   .claim (webhooksGone 400) .standard (.one 1), .advance (webhooksGone 400) 1,
   .advance (webhooksGone 400) 1,
   .claim (webhooksGone 430) .standard (.one 1), .advance (webhooksGone 430) 2,
   .advance (webhooksGone 430) 2,
   .claim (webhooksGone 500) .standard (.one 1)]

/-- The first worker's write applies, though its claim was taken back, and lowers the attempts. -/
theorem late_write_lowers_attempts :
    ∃ c result, (run lateMoves).Writes 0 c result ∧ c.standing = .released ∧
      (run lateMoves).table.rows.map (·.attempts) = [2] ∧
      ((run lateMoves).step (.advance (webhooksGone 501) 0)).table.rows.map (·.attempts) = [1] :=
  ⟨_, .error (.webhookMissing 3), ⟨rfl, rfl⟩, rfl, rfl, rfl⟩

end QueueSystem

end AlertRelay
