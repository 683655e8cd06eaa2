import Mathlib.Data.List.Forall2

/-!
# The first violated check

Checks that are made in order report the first of them that is violated. A check is given by the
errors that it reports: when it is violated there is one, and else there is none.

## Main definitions

* `Checks.First` — what the first violated check reports

## Main results

* `Checks.exists_first_iff` — something is reported exactly when a check is violated
* `Checks.findSome?_eq_some_iff` — the first verdict of a list
* `Checks.bind_eq_error_iff` — a computation that may fail, and then the rest
-/

namespace AlertRelay.Checks

variable {ε α β : Type} {check : ε → Prop} {checks rest : List (ε → Prop)} {e : ε}

/-- The first violated check reports the error. -/
def First (checks : List (ε → Prop)) (e : ε) : Prop :=
  ∃ before check after, checks = before ++ check :: after ∧ check e ∧
    ∀ earlier ∈ before, ∀ e', ¬ earlier e'

theorem not_first_nil : ¬ First [] e := by
  rintro ⟨before, check, after, split, -⟩
  exact absurd split (by simp)

theorem first_cons : First (check :: rest) e ↔ check e ∨ (∀ e', ¬ check e') ∧ First rest e := by
  constructor
  · rintro ⟨before, violated, after, split, reports, passed⟩
    cases before with
    | nil =>
      obtain ⟨rfl, rfl⟩ := List.cons.inj split
      exact .inl reports
    | cons first before =>
      obtain ⟨rfl, rfl⟩ := List.cons.inj split
      rw [List.forall_mem_cons] at passed
      exact .inr ⟨passed.1, before, violated, after, rfl, reports, passed.2⟩
  · rintro (reports | ⟨passes, before, violated, after, rfl, reports, passed⟩)
    · exact ⟨[], check, rest, rfl, reports, by simp⟩
    · exact ⟨check :: before, violated, after, rfl, reports,
        List.forall_mem_cons.mpr ⟨passes, passed⟩⟩

theorem first_singleton : First [check] e ↔ check e := by
  rw [first_cons, or_iff_left fun later => not_first_nil later.2]

/-- Checks that are made before others. -/
theorem first_append : First (checks ++ rest) e ↔
    First checks e ∨ (∀ e', ¬ First checks e') ∧ First rest e := by
  induction checks with
  | nil => simp [not_first_nil]
  | cons check checks ih =>
    simp only [List.cons_append, first_cons, ih, not_or, not_and]
    constructor
    · rintro (now | ⟨passes, later | ⟨passed, last⟩⟩)
      · exact .inl (.inl now)
      · exact .inl (.inr ⟨passes, later⟩)
      · exact .inr ⟨fun e' => ⟨passes e', fun _ => passed e'⟩, last⟩
    · rintro ((now | ⟨passes, later⟩) | ⟨passed, last⟩)
      · exact .inl now
      · exact .inr ⟨passes, .inl later⟩
      · have passes : ∀ e', ¬ check e' := fun e' => (passed e').1
        exact .inr ⟨passes, .inr ⟨fun e' => (passed e').2 passes, last⟩⟩

/-- Something is reported exactly when some check is violated. -/
theorem exists_first_iff : (∃ e, First checks e) ↔ ∃ check ∈ checks, ∃ e, check e := by
  induction checks with
  | nil => simp [not_first_nil]
  | cons check rest ih =>
    simp only [first_cons, List.exists_mem_cons_iff, ← ih]
    constructor
    · rintro ⟨e, reports | ⟨-, later⟩⟩
      · exact .inl ⟨e, reports⟩
      · exact .inr ⟨e, later⟩
    · intro some_violated
      by_cases violated : ∃ e, check e
      · exact violated.imp fun e => .inl
      · rcases some_violated with now | ⟨e, later⟩
        · exact absurd now violated
        · exact ⟨e, .inr ⟨fun e' reports => violated ⟨e', reports⟩, later⟩⟩

/-- A verdict comes before the others. -/
theorem findSome?_cons_iff {v : Option ε} {verdicts : List (Option ε)}
    (here : ∀ e, v = some e ↔ check e)
    (later : v = none → (verdicts.findSome? id = some e ↔ First rest e)) :
    (v :: verdicts).findSome? id = some e ↔ First (check :: rest) e := by
  rw [first_cons]
  cases v with
  | none =>
    have passes : ∀ e', ¬ check e' := fun e' reports => nomatch (here e').mpr reports
    simp [passes, later]
  | some found =>
    have only : ∀ e', check e' ↔ found = e' := fun e' => by rw [← here, Option.some.injEq]
    simp [only]

/-- The first verdict of a list is that of the first violated check. -/
theorem findSome?_eq_some_iff {verdicts : List (Option ε)}
    (same : List.Forall₂ (fun v check => ∀ e, v = some e ↔ check e) verdicts checks) :
    verdicts.findSome? id = some e ↔ First checks e := by
  induction same with
  | nil => simp [not_first_nil]
  | cons here _ ih => exact findSome?_cons_iff here fun _ => ih

/-- A computation that may fail succeeds with its rest. -/
theorem bind_eq_ok_iff {x : Except ε α} {f : α → Except ε β} {b : β} :
    (x >>= f) = .ok b ↔ ∃ a, x = .ok a ∧ f a = .ok b := by
  cases x <;> simp [bind, Except.bind]

/-- A computation that fails as some checks do, and then goes on with others. -/
theorem bind_eq_error_iff_append {x : Except ε α} {f : α → Except ε β}
    (here : ∀ e, x = .error e ↔ First checks e)
    (later : ∀ a, x = .ok a → (f a = .error e ↔ First rest e)) :
    (x >>= f) = .error e ↔ First (checks ++ rest) e := by
  rw [first_append]
  cases x with
  | error found =>
    have only : ∀ e', First checks e' ↔ found = e' := fun e' => by rw [← here, Except.error.injEq]
    simp [only, bind, Except.bind]
  | ok a =>
    have passes : ∀ e', ¬ First checks e' := fun e' reports => nomatch (here e').mpr reports
    simp [passes, bind, Except.bind, later a rfl]

/-- A computation that fails as one check does, and then goes on with others. -/
theorem bind_eq_error_iff {x : Except ε α} {f : α → Except ε β}
    (here : ∀ e, x = .error e ↔ check e)
    (later : ∀ a, x = .ok a → (f a = .error e ↔ First rest e)) :
    (x >>= f) = .error e ↔ First (check :: rest) e :=
  bind_eq_error_iff_append (fun e => (here e).trans first_singleton.symm) later

end AlertRelay.Checks
