import AlertRelay.Routine.Run

/-!
# What a routine may do

A predicate on effects that holds of every effect a routine may come to have, whatever it is
answered. It is kept by sequencing, so it can be read off the text of a routine, and it holds of
every action along every run.

## Main definitions

* `Effect.Asks` — the statements among effects satisfy a predicate
* `Routine.Only` — every effect of a routine satisfies a predicate

## Main results

* `Routine.Only.bind` — sequencing keeps a predicate on effects
* `Routine.Only.of_mem_trace` — it holds along every run
-/

namespace AlertRelay

/-- An effect that is a statement satisfies `p`. -/
def Effect.Asks (p : Statement → Prop) : Effect → Prop
  | .execute s => p s
  | _ => True

namespace Routine

variable {α β : Type} {P Q : Effect → Prop} {r : Routine α} {f : α → Routine β}

/-- Every effect the routine may have satisfies `P`, whatever the answers before it. -/
def Only (P : Effect → Prop) : Routine α → Prop
  | .done _ => True
  | .halt _ => True
  | .ask e next => P e ∧ ∀ answer, (next answer).Only P

theorem only_pure (a : α) : (pure a : Routine α).Only P := trivial

theorem only_effect {e : Effect} (h : P e) : (effect e).Only P := ⟨h, fun _ => trivial⟩

theorem only_log (h : ∀ entry, P (.log entry)) (level : LogLevel) (message : String)
    (fields : List (String × String)) : (log level message fields).Only P :=
  only_effect (h _)

namespace Only

theorem mono (h : r.Only P) (imp : ∀ e, P e → Q e) : r.Only Q := by
  induction r with
  | done a => trivial
  | halt o => trivial
  | ask e next ih => exact ⟨imp e h.1, fun answer => ih answer (h.2 answer)⟩

/-- Sequencing keeps a predicate on effects. -/
theorem bind (h : r.Only P) (next : ∀ a, (f a).Only P) : (r >>= f).Only P := by
  induction r with
  | done a => exact next a
  | halt o => trivial
  | ask e rest ih => exact ⟨h.1, fun answer => ih answer (h.2 answer)⟩

/-- Every action along a run has an effect that the routine may have. -/
theorem of_mem_trace (h : r.Only P) (w : Surroundings) : ∀ x ∈ (r.run w).trace, P x.effect := by
  induction r generalizing w with
  | done a => simp [run_done]
  | halt o => simp [run]
  | ask e next ih =>
    intro x member
    rw [run_ask] at member
    rcases List.mem_cons.mp member with rfl | member
    · exact h.1
    · exact ih _ (h.2 _) _ x member

end Only

/-- A statement, and then what its reply is read as decides. -/
theorem only_read {s : Statement} {read : StoreReply → α} (h : P (.execute s))
    (next : ∀ a, (f a).Only P) : ((do return read (← execute s)) >>= f).Only P :=
  ⟨h, fun reply => next (read reply)⟩

/-- A log entry, and then nothing more. -/
theorem only_log_pure (h : ∀ entry, P (.log entry)) (level : LogLevel) (message : String)
    (fields : List (String × String)) (b : β) :
    (log level message fields >>= fun _ => pure b).Only P :=
  (only_log h level message fields).bind fun _ => only_pure b

end Routine

end AlertRelay
