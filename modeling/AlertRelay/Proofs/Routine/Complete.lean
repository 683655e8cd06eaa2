import AlertRelay.Routine.Run

/-!
# Routines that come to a value

A run of two routines in sequence goes on from where the first came to its value, and ends where it
is halted. A routine that halts on no path comes to a value whatever it is answered. Completion is
kept by sequencing, so that it can be read off the text of a routine.

## Main definitions

* `Routine.Completes` — a routine halts on no path

## Main results

* `Routine.run_bind_of_ok`, `Routine.run_bind_of_error` — runs in sequence
* `Routine.Completes.bind` — sequencing keeps completion
* `Routine.Completes.exists_result` — every run of such a routine has a value
-/

namespace AlertRelay.Routine

variable {α β : Type} {r : Routine α} {f : α → Routine β}

/-! ## Runs in sequence -/

/-- The second routine runs in what the first leaves. -/
theorem run_bind_of_ok {a : α} {w w' : Surroundings} {trace : List Action}
    (first : r.run w = ⟨.ok a, trace, w'⟩) :
    (r >>= f).run w = { (f a).run w' with trace := trace ++ ((f a).run w').trace } := by
  rw [run_bind, first]

/-- Nothing runs after a routine that is halted. -/
theorem run_bind_of_error {o : Instant.Overflow} {w w' : Surroundings} {trace : List Action}
    (first : r.run w = ⟨.error o, trace, w'⟩) : (r >>= f).run w = ⟨.error o, trace, w'⟩ := by
  rw [run_bind, first]

/-! ## Completion -/

/-- The routine comes to a value, whatever the answers to its effects. -/
def Completes : Routine α → Prop
  | .done _ => True
  | .halt _ => False
  | .ask _ next => ∀ answer, (next answer).Completes

theorem completes_pure (a : α) : (pure a : Routine α).Completes := trivial

theorem completes_effect (e : Effect) : (effect e).Completes := fun _ => trivial

theorem completes_log (level : LogLevel) (message : String) (fields : List (String × String)) :
    (log level message fields).Completes :=
  completes_effect _

namespace Completes

/-- Sequencing keeps completion. -/
theorem bind (h : r.Completes) (next : ∀ a, (f a).Completes) : (r >>= f).Completes := by
  induction r with
  | done a => exact next a
  | halt o => exact h.elim
  | ask e rest ih => exact fun answer => ih answer (h answer)

/-- Every run has a value. -/
theorem exists_result (h : r.Completes) (w : Surroundings) :
    ∃ a, (r.run w).result = .ok a := by
  induction r generalizing w with
  | done a => exact ⟨a, rfl⟩
  | halt o => exact h.elim
  | ask e next ih => exact ih _ (h _) _

end Completes

/-- A statement, and then what its reply is read as decides. -/
theorem completes_read {s : Statement} {read : StoreReply → α} (next : ∀ a, (f a).Completes) :
    ((do return read (← execute s)) >>= f).Completes :=
  fun reply => next (read reply)

end AlertRelay.Routine
