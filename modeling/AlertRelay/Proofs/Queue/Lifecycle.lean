import AlertRelay.Proofs.Queue.Invariant
import Mathlib.Data.List.Induction

/-!
# The life of a delivery

Whatever workers do and in whatever order, also when they write outcomes of claims that were taken
back and made again in the meantime, a delivery keeps to one path: it is pending until it is
claimed, and it comes to an end once. Its attempts stay within its limit, and reach it exactly when
it fails for good.

## Main definitions

* `QueueSystem.KeepsLifecycle` — what the queue guarantees of its rows along a run

## Main results

* `QueueSystem.step_evolves` — a move changes only rows that are not final
* `QueueSystem.processing_of_step` — only a claim of a pending row begins to process it
* `QueueSystem.run_keepsLifecycle` — every run keeps the life of its deliveries
-/

namespace AlertRelay

/-- Nothing follows the status of the row. -/
def QueueEntry.IsFinal (e : QueueEntry) : Prop := e.Has .delivered ∨ e.Has .failed

theorem QueueEntry.IsFinal.not_isOpen {e : QueueEntry} (h : e.IsFinal) : ¬ e.IsOpen := by
  rintro (pending | processing)
  · rcases h with delivered | failed
    · exact pending.not (by decide) delivered
    · exact pending.not (by decide) failed
  · rcases h with delivered | failed
    · exact processing.not (by decide) delivered
    · exact processing.not (by decide) failed

namespace QueueSystem

variable {s : QueueSystem} {e : QueueEntry}

/-! ## One move -/

theorem step_evolves (h : s.Sound) (m : Move) : s.table.Evolves m.added (s.step m).table :=
  (changes_step h m).evolves h

/-- Only a claim begins to process a row, and the row was pending. -/
theorem processing_of_step (h : s.Sound) (m : Move) {e' : QueueEntry}
    (member : e' ∈ (s.step m).table.rows) (processing : e'.Has .processing) :
    e' ∈ s.table.rows ∨ (∃ o policy request, m = .claim o policy request) ∧
      ∃ e ∈ s.table.rows, e.id = e'.id ∧ e.Has .pending := by
  have changes := changes_step h m
  by_cases claimed : ∃ o policy request, m = .claim o policy request
  · generalize (s.step m).table = t' at changes member
    obtain ⟨o, policy, request, rfl⟩ := claimed
    cases changes with
    | unchanged => exact .inl member
    | claim _ _ _ among =>
      obtain ⟨e, stored, rfl⟩ := QueueTable.mem_update.mp member
      by_cases selected : (RowChange.claim among).selects e = true
      · exact .inr ⟨⟨o, policy, request, rfl⟩, e, stored, (RowChange.id_change _ _ e).symm,
          QueueEntry.pending_of_selects selected⟩
      · rw [RowChange.change, if_neg selected]
        exact .inl stored
  · refine .inl (changes.noneTaken (fun o policy request is => ?_) e' member processing)
    exact claimed ⟨o, policy, request, is⟩

/-! ## A run -/

theorem final_mem_runFrom (h : s.Sound) (member : e ∈ s.table.rows) (final : e.IsFinal)
    (moves : List Move) : e ∈ (s.runFrom moves).table.rows := by
  induction moves generalizing s with
  | nil => exact member
  | cons m rest ih =>
    refine ih (step_sound h m) ?_
    obtain ⟨e', member', rfl | becomes⟩ := (step_evolves h m).kept e member
    · exact member'
    · exact absurd becomes.isOpen final.not_isOpen

theorem sameDelivery_of_runFrom (h : s.Sound) (member : e ∈ s.table.rows) (moves : List Move) :
    ∃ e' ∈ (s.runFrom moves).table.rows, e.SameDelivery e' := by
  induction moves generalizing s e with
  | nil => exact ⟨e, member, .refl e⟩
  | cons m rest ih =>
    obtain ⟨e', member', rfl | becomes⟩ := (step_evolves h m).kept e member
    · exact ih (step_sound h m) member'
    · obtain ⟨e'', member'', same⟩ := ih (step_sound h m) member'
      exact ⟨e'', member'', becomes.same.trans same⟩

/-- Every row of a run was queued by one of its moves, and is still the same delivery. -/
theorem queued_of_mem_run (moves : List Move) (member : e ∈ (run moves).table.rows) :
    ∃ m ∈ moves, ∃ x ∈ m.added, x.SameDelivery e := by
  induction moves using List.reverseRecOn generalizing e with
  | nil => simp [run, runFrom, initial, QueueTable.empty] at member
  | append_singleton before m ih =>
    have last : run (before ++ [m]) = (run before).step m := List.foldl_append
    rw [last] at member
    -- the last move left the row, changed it, or queued it
    rcases (step_evolves (run_sound before) m).origin e member with ⟨x, stored, change⟩ | new
    · obtain ⟨m', member', y, added, same⟩ := ih stored
      refine ⟨m', List.mem_append_left _ member', y, added, ?_⟩
      rcases change with rfl | becomes
      · exact same
      · exact same.trans becomes.same
    · exact ⟨m, by simp, e, new, .refl e⟩

/-- What the queue guarantees of its rows along a run. -/
structure KeepsLifecycle (moves : List Move) : Prop where
  /-- Every row is a queued delivery, unchanged in all that makes it one. -/
  queued : ∀ e ∈ (run moves).table.rows, ∃ m ∈ moves, ∃ x ∈ m.added, x.SameDelivery e
  /-- The attempts of a row that was queued with a limit of at least one are as its status allows:
  short of the limit while it is pending or processing and when it is delivered, at the limit
  exactly when it has failed. -/
  counted : ∀ e ∈ (run moves).table.rows, 1 ≤ e.maxAttempts → e.CounterFits
  /-- A final row is never changed again. -/
  final : ∀ e ∈ (run moves).table.rows, e.IsFinal →
    ∀ more, e ∈ ((run moves).runFrom more).table.rows
  /-- A row stays, as the same delivery. -/
  same : ∀ e ∈ (run moves).table.rows,
    ∀ more, ∃ e' ∈ ((run moves).runFrom more).table.rows, e.SameDelivery e'
  /-- Processing begins only when a pending row is claimed. -/
  taken : ∀ m, ∀ e' ∈ ((run moves).step m).table.rows, e'.Has .processing →
    e' ∈ (run moves).table.rows ∨ (∃ o policy request, m = .claim o policy request) ∧
      ∃ e ∈ (run moves).table.rows, e.id = e'.id ∧ e.Has .pending

/-- Every run keeps the life of its deliveries, however its moves are interleaved. -/
theorem run_keepsLifecycle (moves : List Move) : KeepsLifecycle moves :=
  have sound := run_sound moves
  { queued := fun _ member => queued_of_mem_run moves member
    counted := sound.rows
    final := fun _ member isFinal more => final_mem_runFrom sound member isFinal more
    same := fun _ member more => sameDelivery_of_runFrom sound member more
    taken := fun m _ member processing => processing_of_step sound m member processing }

end QueueSystem

end AlertRelay
