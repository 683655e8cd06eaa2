import AlertRelay.Alert.Evaluation
import AlertRelay.Proofs.Routine.Change
import AlertRelay.Proofs.Routine.Complete

/-!
# Looking metrics up

Evaluating a rule asks its source for one metric after another, in the order of the conditions. Each
lookup runs in what the ones before it left, and the first that fails is the last one made.

## Main definitions

* `MetricQuery.Answered` — some queries are put in turn, and each is answered
* `MetricQuery.StopsAt` — some queries are put in turn, up to one that is not answered

## Main results

* `MetricQuery.Answered.alike` — only the replies to the lookups themselves matter to them
* `Rule.observe_run_of_answered`, `Rule.observe_run_of_stopsAt` — what a rule observes is what the
  queries of its conditions are answered
-/

namespace AlertRelay

namespace MetricQuery

variable {source : MetricSource Routine} {queries : List MetricQuery} {w w' v : Surroundings}
  {asked : List Action} {values : List Float}

/-- The queries are put in turn, and each is answered with a value. -/
inductive Answered (source : MetricSource Routine) :
    List MetricQuery → Surroundings → List Action → List Float → Surroundings → Prop
  | nil (w : Surroundings) : Answered source [] w [] [] w
  | cons {q : MetricQuery} {rest : List MetricQuery} {w w₁ w₂ : Surroundings}
      {first later : List Action} {value : Float} {values : List Float}
      (answer : (source q).run w = ⟨.ok (.ok value), first, w₁⟩)
      (others : Answered source rest w₁ later values w₂) :
      Answered source (q :: rest) w (first ++ later) (value :: values) w₂

/-- The queries are put in turn, up to the first that is not answered with a value: the lookup
fails, or the source itself leaves the range of instants. -/
inductive StopsAt (source : MetricSource Routine) :
    List MetricQuery → Surroundings → List Action → Except Instant.Overflow MetricError →
      Surroundings → Prop
  | here {q : MetricQuery} {rest : List MetricQuery} {w w' : Surroundings} {asked : List Action}
      {ending : Except Instant.Overflow MetricError}
      (stops : (source q).run w = ⟨ending.map .error, asked, w'⟩) :
      StopsAt source (q :: rest) w asked ending w'
  | later {q : MetricQuery} {rest : List MetricQuery} {w w₁ w' : Surroundings}
      {first asked : List Action} {value : Float} {ending : Except Instant.Overflow MetricError}
      (answer : (source q).run w = ⟨.ok (.ok value), first, w₁⟩)
      (stops : StopsAt source rest w₁ asked ending w') :
      StopsAt source (q :: rest) w (first ++ asked) ending w'

/-- Either all queries are answered, or there is a first that is not. -/
theorem answered_or_stopsAt (source : MetricSource Routine) (queries : List MetricQuery)
    (w : Surroundings) :
    (∃ asked values w', Answered source queries w asked values w') ∨
      ∃ asked ending w', StopsAt source queries w asked ending w' := by
  induction queries generalizing w with
  | nil => exact .inl ⟨[], [], w, .nil w⟩
  | cons q rest ih =>
    rcases answer : (source q).run w with ⟨(o | e | value), first, w₁⟩
    · exact .inr ⟨first, .error o, w₁, .here answer⟩
    · exact .inr ⟨first, .ok e, w₁, .here answer⟩
    · rcases ih w₁ with ⟨asked, values, w', answered⟩ | ⟨asked, ending, w', stops⟩
      · exact .inl ⟨first ++ asked, value :: values, w', .cons answer answered⟩
      · exact .inr ⟨first ++ asked, ending, w', .later answer stops⟩

/-- A source that comes to a value on every path stops at a lookup that fails. -/
theorem StopsAt.exists_error {ending : Except Instant.Overflow MetricError}
    (stops : StopsAt source queries w asked ending w') (completes : ∀ q, (source q).Completes) :
    ∃ e, ending = .ok e := by
  induction stops with
  | @here _ _ _ _ _ ending stops =>
    obtain ⟨found, ended⟩ := (completes _).exists_result _
    rw [stops] at ended
    cases ending with
    | error o => cases ended
    | ok e => exact ⟨e, rfl⟩
  | later _ _ ih => exact ih

/-- The lookups take the replies to their own statements off the script. -/
theorem Answered.reply_rest (answered : Answered source queries w asked values w') (n : Nat) :
    w'.reply n = w.reply ((Action.statements asked).length + n) := by
  induction answered generalizing n with
  | nil w => simp
  | @cons q _ w _ _ first later _ _ answer others ih =>
    have taken := Routine.reply_rest (source q) w
    rw [answer] at taken
    rw [ih, taken, Action.statements_append, List.length_append, Nat.add_assoc]

/-- Queries are answered alike where the replies to their statements are the same. -/
theorem Answered.alike {changed : Nat → Prop} (answered : Answered source queries w asked values w')
    (alike : w.Alike changed v)
    (unread : ∀ n < (Action.statements asked).length, ¬ changed n) :
    ∃ v', Answered source queries v asked values v' ∧
      w'.Alike (fun n => changed ((Action.statements asked).length + n)) v' := by
  induction answered generalizing v changed with
  | nil w => exact ⟨v, .nil v, by simpa using alike⟩
  | @cons q _ w _ _ first later _ _ answer others ih =>
    rw [Action.statements_append, List.length_append] at unread ⊢
    -- the first lookup reads none of the changed replies, and the others count on from there
    obtain ⟨v₁, answer', rest⟩ := Routine.run_alike (r := source q) alike
      (by rw [answer]; exact fun n read => unread n (Nat.lt_add_right _ read))
    rw [answer] at answer' rest
    obtain ⟨v', others', left⟩ := ih rest fun n read => unread _ (Nat.add_lt_add_left read _)
    exact ⟨v', .cons answer' others', by simpa only [Nat.add_assoc] using left⟩

end MetricQuery

namespace Rule

open MetricQuery

variable {source : MetricSource Routine} {r : Rule} {start now : Instant} {w w' : Surroundings}
  {asked : List Action}

/-- The queries of a rule over a window, in the order of its conditions. -/
def queries (r : Rule) (start now : Instant) : List MetricQuery :=
  r.conditions.map (r.query start now)

/-- What a rule comes to under the values of its metrics. -/
def evaluation (r : Rule) (start now : Instant) (values : List Float) : Evaluation :=
  r.conclude start now (r.conditions.zipWith Observation.ofCondition values)

/-- What is observed of conditions is what their queries are answered. -/
theorem observe_run_of_answered {conditions : List Condition} {values : List Float}
    (answered : Answered source (conditions.map (r.query start now)) w asked values w') :
    (r.observe source start now conditions).run w =
      ⟨.ok (.ok (conditions.zipWith Observation.ofCondition values)), asked, w'⟩ := by
  induction conditions generalizing w asked values with
  | nil =>
    cases answered
    rfl
  | cons c rest ih =>
    rcases answered with _ | ⟨answer, others⟩
    rw [observe, Routine.run_bind_of_ok answer]
    dsimp only
    rw [Routine.run_bind_of_ok (ih others)]
    simp [Routine.run_done, pure]

/-- Nothing is observed after the first query that is not answered. -/
theorem observe_run_of_stopsAt {conditions : List Condition}
    {ending : Except Instant.Overflow MetricError}
    (stops : StopsAt source (conditions.map (r.query start now)) w asked ending w') :
    (r.observe source start now conditions).run w = ⟨ending.map .error, asked, w'⟩ := by
  induction conditions generalizing w asked with
  | nil => cases stops
  | cons c rest ih =>
    rw [observe]
    rcases stops with stops | ⟨answer, stops⟩
    · cases ending with
      | error o => exact Routine.run_bind_of_error stops
      | ok e =>
        rw [Routine.run_bind_of_ok stops]
        simp [Routine.run_done, pure, Except.map]
    · rw [Routine.run_bind_of_ok answer]
      have later := ih stops
      cases ending with
      | error o =>
        dsimp only
        rw [Routine.run_bind_of_error later]
        rfl
      | ok e =>
        dsimp only
        rw [Routine.run_bind_of_ok later]
        simp [Routine.run_done, pure, Except.map]

/-- A rule that is due is evaluated over the window that ends now. -/
theorem evaluateIfDue_eq_observe (due : r.isDue now = .ok true)
    (window : now.earlier r.windowSeconds = .ok start) :
    r.evaluateIfDue source now = r.observe source start now r.conditions >>= fun
      | .error e => (pure (.error (.metric e)) : Routine _)
      | .ok observations => pure (.ok (some (r.conclude start now observations))) := by
  rw [evaluateIfDue, due]
  dsimp only
  rw [evaluate, window]
  dsimp only
  rw [LawfulMonad.bind_assoc]
  refine congrArg _ (funext fun observed => ?_)
  cases observed <;> rfl

end Rule

end AlertRelay
