import AlertRelay.Proofs.Text.Cut
import AlertRelay.Routine.Run
import AlertRelay.Store.Queue

/-!
# What is kept of a failure

A failed attempt is written with the text of its failure, whether it is to be retried or given up.
At most 2000 bytes of the text are written. Of a longer text that is the longest beginning that ends
between two characters, and it ends at most three bytes before the limit, where the search for its
end begins. To write again what was kept of a failure is to write the failure.

## Main definitions

* `Queue.WritesError` — a statement writes a text to the column of the last failure
* `Queue.KeepsError` — what is written of a failure

## Main results

* `Queue.recordFailure_keepsError` — every failure is written so
-/

namespace AlertRelay.Queue

/-- The statement sets the column of the last failure from its fourth parameter, and that is the
text. -/
def WritesError (s : Statement) (text : String) : Prop :=
  (∃ rest, s.sql =
    "UPDATE delivery_queue SET status = $2, attempts = $3, last_error = $4" ++ rest) ∧
    s.params[3]? = some (.text text)

/-- What is written of a failure, in a run that writes it. -/
structure KeepsError (id : Int) (decision : RetryDecision) (error kept : String)
    (ran : Run (Except DbError Bool)) : Prop where
  /-- One statement is executed, and it writes what is kept. -/
  stated : ran.statements = [.recordFailure id decision kept]
  written : WritesError (.recordFailure id decision kept) kept
  /-- A text that fits is kept as it is. -/
  whole : (Text.utf8 error).length ≤ 2000 → kept = error
  /-- What is kept is the longest beginning of at most 2000 bytes that ends between characters. -/
  longest : Text.IsLongestStart 2000 (Text.utf8 error) (Text.utf8 kept)
  /-- Of a longer text that is at least 1997 bytes. -/
  near : 2000 < (Text.utf8 error).length → 1997 ≤ (Text.utf8 kept).length
  /-- Three steps back from the limit are enough to find where it ends. -/
  found : 2000 < (Text.utf8 error).length → ∀ allowed, 3 ≤ allowed →
    Text.stepBack (Text.utf8 error) allowed 2000 = .ok (Text.utf8 kept).length
  /-- No step leads out of the text. -/
  inside : ∀ allowed, Text.stepBack (Text.utf8 error) allowed 2000 ≠ .error .beforeStart
  /-- So the bytes are cut without a fault, and no character is split. -/
  computed : ∀ allowed, 3 ≤ allowed →
    Text.cut allowed 2000 (Text.utf8 error) = .ok (Text.utf8 kept)
  /-- Nothing is cut off from what was kept. -/
  again : Text.truncate 2000 kept = kept
  rewritten : recordFailure id decision kept = recordFailure id decision error

theorem writesError_recordFailure (id : Int) (decision : RetryDecision) (text : String) :
    WritesError (.recordFailure id decision text) text := by
  -- a retry also sets when the delivery is due again, so the two texts go on differently
  cases decision with
  | retry attempts delay =>
    refine ⟨⟨", next_retry_at = NOW() + make_interval(secs => $5) WHERE id = $1 AND status = $6", ?_⟩,
      rfl⟩
    change _ ++ _ = _
    decide +kernel
  | giveUp attempts =>
    refine ⟨⟨" WHERE id = $1 AND status = $5", ?_⟩, rfl⟩
    change _ ++ _ = _
    decide +kernel

/-- What was kept of a failure is kept as it is. -/
theorem truncate_kept (error : String) :
    Text.truncate maxErrorBytes (Text.truncate maxErrorBytes error) =
      Text.truncate maxErrorBytes error := by
  rw [Text.truncate_truncate, Nat.min_self]

/-- Every failure is written so, for every decision on it and whatever the reply is. -/
theorem recordFailure_keepsError (id : Int) (decision : RetryDecision) (error : String)
    (w : Surroundings) :
    KeepsError id decision error (Text.truncate maxErrorBytes error)
      ((recordFailure id decision error).run w) := by
  constructor
  case stated => rfl
  case written => exact writesError_recordFailure id decision _
  case whole => exact Text.truncate_of_fits
  case longest => exact Text.isLongestStart_truncate maxErrorBytes error
  case near =>
    intro exceeds
    have kept := Text.le_length_utf8_truncate exceeds
    rw [maxErrorBytes]
    omega
  case found =>
    intro exceeds allowed enough
    exact Text.stepBack_utf8 enough exceeds
  case inside =>
    intro allowed
    exact Text.stepBack_ne_beforeStart _ allowed maxErrorBytes
  case computed =>
    intro allowed enough
    exact Text.cut_utf8 enough maxErrorBytes error
  case again => exact truncate_kept error
  case rewritten => rw [recordFailure, truncate_kept, ← recordFailure]

end AlertRelay.Queue
