import AlertRelay.Proofs.Routine.Course
import AlertRelay.Proofs.Store.Secret

/-!
# Routines that report more

One routine reports more than another if it has the same effects in the same order, but for log
entries in between, and comes to a related value. A log entry has no answer to speak of and leaves
the surroundings as they are. So on the same scripts both routines run the same statements and get
the same replies, and what runs after them finds the same surroundings.

## Main definitions

* `Routine.ReportsMore` — the second routine does what the first does, and reports more at most
* `Run.SameButReports` — two runs differ in log entries only

## Main results

* `Routine.ReportsMore.bind` — it is kept by sequencing
* `Routine.ReportsMore.run` — the runs of such routines
-/

namespace AlertRelay

variable {α β γ δ : Type}

/-- The runs come to related values, have the same statements with the same replies, and leave the
same surroundings. -/
structure Run.SameButReports (V : α → β → Prop) (r : Run α) (r' : Run β) : Prop where
  result : EndsAlike V r.result r'.result
  statements : Action.statements r'.trace = Action.statements r.trace
  rest : r'.rest = r.rest

namespace Routine

/-- The second routine has the effects of the first in the same order, but for log entries in
between, and comes to a related value. -/
inductive ReportsMore (V : α → β → Prop) : Routine α → Routine β → Prop
  | done {a : α} {b : β} (related : V a b) : ReportsMore V (.done a) (.done b)
  | halt (overflow : Instant.Overflow) : ReportsMore V (.halt overflow) (.halt overflow)
  | ask {e : Effect} {next : e.Answer → Routine α} {next' : e.Answer → Routine β}
      (rest : ∀ answer, ReportsMore V (next answer) (next' answer)) :
      ReportsMore V (.ask e next) (.ask e next')
  | report {r : Routine α} {entry : LogEntry} {next' : Unit → Routine β}
      (rest : ReportsMore V r (next' ())) : ReportsMore V r (.ask (.log entry) next')

namespace ReportsMore

variable {U : α → β → Prop} {V : γ → δ → Prop} {r : Routine α} {r' : Routine β}
  {f : α → Routine γ} {f' : β → Routine δ}

theorem refl (r : Routine α) : ReportsMore Eq r r := by
  induction r with
  | done a => exact .done rfl
  | halt overflow => exact .halt overflow
  | ask e next ih => exact .ask ih

/-- Sequencing keeps a routine that reports more. -/
theorem bind (more : ReportsMore U r r') (next : ∀ {a b}, U a b → ReportsMore V (f a) (f' b)) :
    ReportsMore V (r >>= f) (r' >>= f') := by
  -- what follows is put in at the end, so only there the values matter
  induction more with
  | done related => exact next related
  | halt overflow => exact .halt overflow
  | ask _ ih => exact .ask ih
  | report _ ih => exact .report ih

/-- What follows the same routine may report more from every value. -/
theorem bind_same {r : Routine α} {f : α → Routine γ} {f' : α → Routine δ}
    (next : ∀ a, ReportsMore V (f a) (f' a)) : ReportsMore V (r >>= f) (r >>= f') :=
  (refl r).bind fun {a _} equal => equal ▸ next a

/-- Nothing but the value of the second routine is changed by what follows it. -/
theorem map {V : α → δ → Prop} {g : β → δ} (more : ReportsMore U r r')
    (related : ∀ {a b}, U a b → V a (g b)) :
    ReportsMore V r (r' >>= fun b => pure (g b)) := by
  have pure_last := more.bind (f := pure) fun held => .done (related held)
  rwa [bind_pure] at pure_last

/-- The runs of such routines are the same but for what they report. -/
theorem run (more : ReportsMore U r r') (w : Surroundings) :
    (r.run w).SameButReports U (r'.run w) := by
  induction more generalizing w with
  | done related => exact ⟨.ok related, rfl, rfl⟩
  | halt overflow => exact ⟨.error overflow, rfl, rfl⟩
  | @ask e next next' _ ih =>
    obtain ⟨result, statements, rest⟩ := ih (w.handle e).1 (w.handle e).2
    -- the first action is the same, and the others have the same statements
    have first (later : List Action) : Action.statements (⟨e, (w.handle e).1⟩ :: later) =
        Action.statements [⟨e, (w.handle e).1⟩] ++ Action.statements later :=
      Action.statements_append [_] later
    exact ⟨result, (first _).trans ((congrArg _ statements).trans (first _).symm), rest⟩
  | report _ ih =>
    -- a report leaves the surroundings in which the rest runs
    obtain ⟨result, statements, rest⟩ := ih w
    exact ⟨result, statements, rest⟩

end ReportsMore

end Routine

end AlertRelay
