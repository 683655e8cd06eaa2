import AlertRelay.Proofs.Routine.Course

/-!
# Surroundings in general

Scripts answer the statements and the requests of a run, and only one host can be reached. In
general what answers an effect may look at everything that happened before it: a database decides by
what was written, and every host has answers of its own. Against such a responder a routine always
comes to an end, along one of its courses. Scripts that answer every request, wherever it goes, are
a special case: each statement gets the next reply, and each request the next answer.

## Main definitions

* `Responder` — what answers every effect, from all that happened before
* `Responder.Gives` — the answers of some actions are those of a responder
* `Routine.against` — what a routine does against a responder, and how it ends
* `Responder.scripted` — replies and answers one after another

## Main results

* `Routine.exists_course` — every responder leads every routine along a course
* `Responder.Gives.reply_eq`, `Responder.Gives.answer_eq` — what scripts give
-/

namespace AlertRelay

/-- What answers every effect, from all that happened before it. -/
abbrev Responder := List Action → (effect : Effect) → effect.Answer

namespace Responder

/-- The answers of the actions that follow some others are those of the responder. -/
def Gives (respond : Responder) : List Action → List Action → Prop
  | _, [] => True
  | before, x :: rest => x.answer = respond before x.effect ∧ respond.Gives (before ++ [x]) rest

/-- Replies and answers one after another, wherever a request goes. -/
def scripted (replies : List StoreReply) (answers : List PostReply) : Responder
  | before, .execute _ => replies.getD (Action.statements before).length Surroundings.exhausted
  | before, .post _ => answers.getD (Action.posts before).length Surroundings.accepted
  | _, .measure query => .error ⟨query.metricName, "no such metric"⟩
  | _, .now => ⟨0, 0⟩
  | _, .log _ => ()

end Responder

namespace Routine

variable {α : Type}

/-- What the routine does against a responder after some actions, and how it ends. -/
def against (respond : Responder) :
    Routine α → List Action → List Action × Except Instant.Overflow α
  | .done a, _ => ([], .ok a)
  | .halt overflow, _ => ([], .error overflow)
  | .ask effect next, before =>
    let x : Action := ⟨effect, respond before effect⟩
    let later := against respond (next x.answer) (before ++ [x])
    (x :: later.1, later.2)

theorem course_against (respond : Responder) (r : Routine α) (before : List Action) :
    r.Course (r.against respond before).1 (r.against respond before).2 := by
  induction r generalizing before with
  | done a => exact .done a
  | halt overflow => exact .halt overflow
  | ask effect next ih => exact .ask _ (ih _ _)

theorem gives_against (respond : Responder) (r : Routine α) (before : List Action) :
    respond.Gives before (r.against respond before).1 := by
  induction r generalizing before with
  | done a => trivial
  | halt overflow => trivial
  | ask effect next ih => exact ⟨rfl, ih _ _⟩

/-- Every responder leads every routine along a course. -/
theorem exists_course (respond : Responder) (r : Routine α) :
    ∃ trace result, r.Course trace result ∧ respond.Gives [] trace :=
  ⟨_, _, course_against respond r [], gives_against respond r []⟩

end Routine

namespace Responder.Gives

variable {β γ : Type} {respond : Responder} {pick : Action → Option (β × γ)}
  {replies : List StoreReply} {answers : List PostReply} {before trace : List Action}

/-- Actions of one sort that are answered by their number get these answers in order. -/
theorem answer_of_counted (script : Nat → γ)
    (counted : ∀ {before x y}, x.answer = respond before x.effect → pick x = some y →
      y.2 = script (before.filterMap pick).length)
    (gives : respond.Gives before trace) {n : Nat} {y : β × γ}
    (found : (trace.filterMap pick)[n]? = some y) :
    y.2 = script ((before.filterMap pick).length + n) := by
  induction trace generalizing before n with
  | nil => cases found
  | cons x rest ih =>
    obtain ⟨given, gives⟩ := gives
    cases picked : pick x with
    | none =>
      -- an action of another sort leaves the number as it is
      rw [List.filterMap_cons_none picked] at found
      rw [ih gives found]
      simp [picked]
    | some z =>
      rw [List.filterMap_cons_some picked] at found
      cases n with
      | zero =>
        cases found
        exact counted given picked
      | succ n =>
        rw [ih gives found]
        simp only [List.filterMap_append, List.filterMap_cons_some picked, List.filterMap_nil,
          List.length_append, List.length_singleton]
        congr 1
        omega

/-- The statements get the replies of the script, one after another. -/
theorem reply_eq (gives : (scripted replies answers).Gives [] trace) {n : Nat}
    {x : Statement × StoreReply} (found : (Action.statements trace)[n]? = some x) :
    x.2 = replies.getD n Surroundings.exhausted := by
  have given := answer_of_counted (replies.getD · Surroundings.exhausted) ?_ gives found
  · simpa using given
  · rintro before ⟨_ | _ | _ | _ | _, reply⟩ y answered picked
    case execute =>
      cases picked
      exact answered
    all_goals cases picked

/-- The requests get the answers of the script, one after another. -/
theorem answer_eq (gives : (scripted replies answers).Gives [] trace) {n : Nat}
    {x : Post × PostReply} (found : (Action.posts trace)[n]? = some x) :
    x.2 = answers.getD n Surroundings.accepted := by
  have given := answer_of_counted (answers.getD · Surroundings.accepted) ?_ gives found
  · simpa using given
  · rintro before ⟨_ | _ | _ | _ | _, answer⟩ y answered picked
    case post =>
      cases picked
      exact answered
    all_goals cases picked

end Responder.Gives

end AlertRelay
