import AlertRelay.Proofs.Scheduler.Lookup

/-!
# Evaluating a rule against any source

A source may keep a state of its own, so that what it answers depends on how often it was asked
before, and for what. Whatever it does, a rule puts one query for every condition, in the order of
its conditions, and goes on also when the values so far decide the result. The first query that
fails is the last one put, and its error is the result. Without a failure there is one observation
for every condition, under the value that its own query was answered, and the logic of the rule
combines them all.

## Main definitions

* `MetricSource.answers`, `MetricSource.leftBy` — what queries that are put in turn are answered,
  and what they leave of the source
* `MetricSource.recorded` — a source that keeps the queries it is asked
* `Evaluation.Reports` — an evaluation tells what was found for every condition
* `Rule.EvaluatesInOrder` — how an evaluation goes

## Main results

* `MetricSource.getElem?_answers` — an answer is given in the state that the queries before it left
* `Rule.evaluate_of_answered`, `Rule.evaluate_of_failed` — what a rule evaluates to
* `Rule.evaluate_inOrder` — every evaluation goes so
-/

namespace AlertRelay

namespace MetricSource

variable {σ : Type} {source : MetricSource (StateM σ)} {queries : List MetricQuery} {s : σ}

/-- The state of a source after queries that are put in turn. -/
def leftBy (source : MetricSource (StateM σ)) : List MetricQuery → σ → σ
  | [], s => s
  | q :: rest, s => leftBy source rest (source q s).2

/-- The answers to queries that are put in turn, each in the state that the ones before it left. -/
def answers (source : MetricSource (StateM σ)) :
    List MetricQuery → σ → List (Except MetricError Float)
  | [], _ => []
  | q :: rest, s => (source q s).1 :: answers source rest (source q s).2

/-- The source with the queries that it is asked. -/
def recorded (source : MetricSource (StateM σ)) : MetricSource (StateM (σ × List MetricQuery)) :=
  fun q s => ((source q s.1).1, (source q s.1).2, s.2 ++ [q])

theorem length_answers (source : MetricSource (StateM σ)) (queries : List MetricQuery) (s : σ) :
    (answers source queries s).length = queries.length := by
  induction queries generalizing s with
  | nil => rfl
  | cons q rest ih => rw [answers, List.length_cons, List.length_cons, ih]

/-- A query is answered in the state that the queries before it left. -/
theorem getElem?_answers (source : MetricSource (StateM σ)) (queries : List MetricQuery) (s : σ)
    (k : Nat) :
    (answers source queries s)[k]? =
      queries[k]?.map fun q => (source q (leftBy source (queries.take k) s)).1 := by
  induction queries generalizing s k with
  | nil => rfl
  | cons q rest ih =>
    cases k with
    | zero => rfl
    | succ k =>
      rw [answers, List.getElem?_cons_succ, List.getElem?_cons_succ, List.take_succ_cons, leftBy]
      exact ih (source q s).2 k

/-- A source answers alike when its queries are kept. -/
theorem answers_recorded (queries asked : List MetricQuery) (s : σ) :
    answers (recorded source) queries (s, asked) = answers source queries s := by
  induction queries generalizing s asked with
  | nil => rfl
  | cons q rest ih => exact congrArg ((source q s).1 :: ·) (ih _ _)

/-- What is kept is what was asked, in order. -/
theorem leftBy_recorded (queries asked : List MetricQuery) (s : σ) :
    leftBy (recorded source) queries (s, asked) = (leftBy source queries s, asked ++ queries) := by
  induction queries generalizing s asked with
  | nil => rw [leftBy, leftBy, List.append_nil]
  | cons q rest ih =>
    rw [leftBy, leftBy, List.append_cons]
    exact ih (asked ++ [q]) (source q s).2

/-- Either all answers are values, or there is a first error after some values. -/
theorem values_or_error (given : List (Except MetricError Float)) :
    (∃ values : List Float, given = values.map .ok) ∨
      ∃ (values : List Float) (e : MetricError) (later : List (Except MetricError Float)),
        given = values.map .ok ++ .error e :: later := by
  induction given with
  | nil => exact .inl ⟨[], rfl⟩
  | cons first rest ih =>
    cases first with
    | error e => exact .inr ⟨[], e, rest, rfl⟩
    | ok value =>
      rcases ih with ⟨values, rfl⟩ | ⟨values, e, later, rfl⟩
      · exact .inl ⟨value :: values, rfl⟩
      · exact .inr ⟨value :: values, e, later, rfl⟩

end MetricSource

/-- The evaluation tells, for every condition of the rule in order, which value was found for it and
whether it is met, and combines these by the logic of the rule. -/
structure Evaluation.Reports (e : Evaluation) (r : Rule) (start now : Instant)
    (values : List Float) : Prop where
  windowStart : e.windowStart = start
  windowEnd : e.windowEnd = now
  windowSeconds : e.windowSeconds = r.windowSeconds
  logic : e.logic = r.logic
  length_values : values.length = r.conditions.length
  length_observations : e.observations.length = r.conditions.length
  /-- An observation is of the condition at its own place, under the value at that place. -/
  observed : ∀ (i : Nat) (c : Condition) (value : Float), r.conditions[i]? = some c →
    values[i]? = some value →
    e.observations[i]? = some (
      { metricName := c.metricName
        aggregation := c.aggregation
        operator := c.operator.name
        threshold := c.threshold
        value
        met := c.operator.compare value c.threshold
        unknownOperator := !c.operator.isKnown } : Observation)
  /-- A rule without conditions never triggers. -/
  triggered_iff : e.triggered = true ↔ r.conditions ≠ [] ∧
    match r.logic with
    | .all => ∀ o ∈ e.observations, o.met = true
    | .any => ∃ o ∈ e.observations, o.met = true

namespace Rule

open MetricSource

variable {σ : Type} {source : MetricSource (StateM σ)} {r : Rule} {start now : Instant} {s s' : σ}
  {values : List Float} {error : MetricError} {later : List (Except MetricError Float)}
  {conditions : List Condition}

/-! ## Observing -/

/-- A condition is observed first, and the others in the state that its query left. -/
theorem observe_cons (source : MetricSource (StateM σ)) (r : Rule) (start now : Instant)
    (c : Condition) (rest : List Condition) (s : σ) :
    r.observe source start now (c :: rest) s =
      match source (r.query start now c) s with
      | (.error e, s') => (.error e, s')
      | (.ok value, s') =>
        match r.observe source start now rest s' with
        | (.error e, s'') => (.error e, s'')
        | (.ok observations, s'') => (.ok (.ofCondition c value :: observations), s'') := by
  rw [observe]
  simp only [bind, StateT.bind]
  rcases source (r.query start now c) s with ⟨answer, left⟩
  cases answer with
  | error e => rfl
  | ok value =>
    simp only [StateT.bind]
    rcases observe source r start now rest left with ⟨observed, left'⟩
    cases observed <;> rfl

theorem observe_of_answered
    (answered : answers source (conditions.map (r.query start now)) s = values.map .ok) :
    r.observe source start now conditions s =
      (.ok (conditions.zipWith Observation.ofCondition values),
        leftBy source (conditions.map (r.query start now)) s) := by
  induction conditions generalizing s values with
  | nil => rfl
  | cons c rest ih =>
    rcases asked : source (r.query start now c) s with ⟨answer, left⟩
    rw [List.map_cons, answers, asked] at answered
    cases values with
    | nil => cases answered
    | cons value values =>
      obtain ⟨rfl, others⟩ := List.cons.inj answered
      rw [observe_cons, asked, List.map_cons, leftBy, asked]
      dsimp only
      rw [ih others]
      rfl

/-- The query that fails is the last one that is put. -/
theorem observe_of_failed
    (failed : answers source (conditions.map (r.query start now)) s =
      values.map .ok ++ .error error :: later) :
    r.observe source start now conditions s =
      (.error error,
        leftBy source ((conditions.map (r.query start now)).take (values.length + 1)) s) := by
  induction conditions generalizing s values with
  | nil => cases values <;> cases failed
  | cons c rest ih =>
    rcases asked : source (r.query start now c) s with ⟨answer, left⟩
    rw [List.map_cons, answers, asked] at failed
    rw [observe_cons, asked, List.map_cons, List.take_succ_cons, leftBy, asked]
    cases values with
    | nil =>
      obtain ⟨rfl, -⟩ := List.cons.inj failed
      rfl
    | cons value values =>
      -- this query is answered, so the failure lies among the others
      obtain ⟨rfl, others⟩ := List.cons.inj failed
      dsimp only
      rw [ih others]
      rfl

/-! ## Evaluating -/

theorem evaluate_of_answered (window : now.earlier r.windowSeconds = .ok start)
    (answered : answers source (r.queries start now) s = values.map .ok) :
    r.evaluate source now s =
      (.ok (r.evaluation start now values), leftBy source (r.queries start now) s) := by
  have observed : r.observe source start now r.conditions s = _ := observe_of_answered answered
  simp only [evaluate, window, bind, StateT.bind, observed]
  rfl

theorem evaluate_of_failed (window : now.earlier r.windowSeconds = .ok start)
    (failed : answers source (r.queries start now) s = values.map .ok ++ .error error :: later) :
    r.evaluate source now s =
      (.error (.metric error),
        leftBy source ((r.queries start now).take (values.length + 1)) s) := by
  have observed : r.observe source start now r.conditions s = _ := observe_of_failed failed
  simp only [evaluate, window, bind, StateT.bind, observed]
  rfl

/-- Without a failure all queries are put. -/
theorem evaluate_recorded_of_answered (window : now.earlier r.windowSeconds = .ok start)
    (answered : answers source (r.queries start now) s = values.map .ok) :
    r.evaluate (recorded source) now (s, []) =
      (.ok (r.evaluation start now values), leftBy source (r.queries start now) s,
        r.queries start now) := by
  have alike : answers (recorded source) _ (s, []) = _ :=
    answers_recorded (r.queries start now) [] s
  rw [evaluate_of_answered window (alike.trans answered), leftBy_recorded, List.nil_append]

/-- After a failure no query is put. -/
theorem evaluate_recorded_of_failed (window : now.earlier r.windowSeconds = .ok start)
    (failed : answers source (r.queries start now) s = values.map .ok ++ .error error :: later) :
    r.evaluate (recorded source) now (s, []) =
      (.error (.metric error), leftBy source ((r.queries start now).take (values.length + 1)) s,
        (r.queries start now).take (values.length + 1)) := by
  have alike : answers (recorded source) _ (s, []) = _ :=
    answers_recorded (r.queries start now) [] s
  rw [evaluate_of_failed window (alike.trans failed), leftBy_recorded, List.nil_append]

/-- A rule that evaluates does so under the values that all its queries are answered. -/
theorem exists_values_of_evaluate {e : Evaluation}
    (evaluated : r.evaluate source now s = (.ok e, s')) :
    ∃ values, answers source (r.queries (now.moved (-r.windowSeconds)) now) s = values.map .ok ∧
      e = r.evaluation (now.moved (-r.windowSeconds)) now values := by
  cases window : now.earlier r.windowSeconds with
  | error o =>
    rw [evaluate, window] at evaluated
    cases evaluated
  | ok start =>
    obtain ⟨-, rfl⟩ := Instant.earlier_eq_ok_iff.mp window
    rcases values_or_error (answers source (r.queries _ now) s) with
      ⟨values, answered⟩ | ⟨values, error, later, failed⟩
    · rw [evaluate_of_answered window answered] at evaluated
      cases evaluated
      exact ⟨values, answered, rfl⟩
    · rw [evaluate_of_failed window failed] at evaluated
      cases evaluated

theorem length_queries (r : Rule) (start now : Instant) :
    (r.queries start now).length = r.conditions.length :=
  List.length_map _

/-- There is one value for every condition. -/
theorem length_of_answered (answered : answers source (r.queries start now) s = values.map .ok) :
    values.length = r.conditions.length := by
  have lengths := congrArg List.length answered
  rw [length_answers, length_queries, List.length_map] at lengths
  exact lengths.symm

/-- What a rule evaluates to tells what was found for every condition. -/
theorem evaluation_reports (length : values.length = r.conditions.length) :
    (r.evaluation start now values).Reports r start now values where
  windowStart := rfl
  windowEnd := rfl
  windowSeconds := rfl
  logic := rfl
  length_values := length
  length_observations := by
    change (r.conditions.zipWith Observation.ofCondition values).length = _
    rw [List.length_zipWith, length, Nat.min_self]
  observed i c value condition found := by
    change (r.conditions.zipWith Observation.ofCondition values)[i]? = _
    rw [List.getElem?_zipWith, condition, found]
    rfl
  triggered_iff := by
    change r.logic.combine ((r.conditions.zipWith Observation.ofCondition values).map (·.met)) =
      true ↔ _
    -- there are observations exactly when there are conditions
    have some_observed : (r.conditions.zipWith Observation.ofCondition values).map (·.met) ≠ [] ↔
        r.conditions ≠ [] := by
      rw [← List.length_pos_iff, ← List.length_pos_iff, List.length_map, List.length_zipWith,
        length, Nat.min_self]
    cases logic : r.logic with
    | all =>
      rw [Logic.combine_all_iff, some_observed, List.forall_mem_map]
      rfl
    | any =>
      rw [Logic.combine_any_iff]
      constructor
      · rintro ⟨_, member, rfl⟩
        obtain ⟨o, observed, met⟩ := List.mem_map.mp member
        exact ⟨some_observed.mp (List.ne_nil_of_mem member), o, observed, met⟩
      · rintro ⟨-, o, observed, met⟩
        exact ⟨true, List.mem_map.mpr ⟨o, observed, met⟩, rfl⟩

/-- How the evaluation of a rule over a window goes, on what its source answers. -/
structure EvaluatesInOrder (r : Rule) (source : MetricSource (StateM σ)) (s : σ)
    (start now : Instant) (result : Except EvaluationError Evaluation)
    (asked : List MetricQuery) : Prop where
  /-- There is one query for every condition, for its metric under its aggregation. -/
  queries : r.queries start now = r.conditions.map fun c =>
    { tenantId := r.tenantId
      metricName := c.metricName
      aggregation := c.aggregation
      windowStart := start
      windowEnd := now }
  /-- A query is answered in the state that the queries before it left of the source. -/
  answer : ∀ k : Nat, (answers source (r.queries start now) s)[k]? =
    (r.queries start now)[k]?.map fun q =>
      (source q (leftBy source ((r.queries start now).take k) s)).1
  /-- Either all queries are answered with values, or there is a first that fails. -/
  values_or_error : (∃ values : List Float,
      answers source (r.queries start now) s = values.map .ok) ∨
    ∃ (values : List Float) (e : MetricError) (later : List (Except MetricError Float)),
      answers source (r.queries start now) s = values.map .ok ++ .error e :: later
  /-- The first query that fails is the last one put, and its error is the result. -/
  failed : ∀ {values : List Float} {e : MetricError} {later : List (Except MetricError Float)},
    answers source (r.queries start now) s = values.map .ok ++ .error e :: later →
    asked = (r.queries start now).take (values.length + 1) ∧ asked.length = values.length + 1 ∧
      result = .error (.metric e)
  /-- Without a failure all queries are put, and the result tells what they were answered. -/
  answered : ∀ {values : List Float}, answers source (r.queries start now) s = values.map .ok →
    asked = r.queries start now ∧ ∃ e, result = .ok e ∧ e.Reports r start now values

/-- The evaluation of every rule goes so, against every source, over a window that does not leave
the range of instants. -/
theorem evaluate_inOrder (r : Rule) (source : MetricSource (StateM σ)) (s : σ) {now : Instant}
    (inRange : Instant.inRange (now.moved (-r.windowSeconds)).seconds = true) :
    ∃ result asked,
      r.evaluate (recorded source) now (s, []) = (result, leftBy source asked s, asked) ∧
      r.evaluate source now s = (result, leftBy source asked s) ∧
      r.EvaluatesInOrder source s (now.moved (-r.windowSeconds)) now result asked := by
  have window := Instant.earlier_eq_ok_iff.mpr ⟨inRange, rfl⟩
  have ran : r.evaluate (recorded source) now (s, []) =
        ((r.evaluate source now s).1, (r.evaluate source now s).2,
          (r.evaluate (recorded source) now (s, [])).2.2) ∧
      (r.evaluate source now s).2 =
        leftBy source (r.evaluate (recorded source) now (s, [])).2.2 s := by
    rcases values_or_error (answers source (r.queries (now.moved (-r.windowSeconds)) now) s) with
      ⟨values, answered⟩ | ⟨values, error, later, failed⟩
    · rw [evaluate_recorded_of_answered window answered, evaluate_of_answered window answered]
      exact ⟨rfl, rfl⟩
    · rw [evaluate_recorded_of_failed window failed, evaluate_of_failed window failed]
      exact ⟨rfl, rfl⟩
  obtain ⟨ran, left⟩ := ran
  refine ⟨(r.evaluate source now s).1, (r.evaluate (recorded source) now (s, [])).2.2, ?_, ?_, rfl,
    getElem?_answers source _ s, values_or_error _, ?_, ?_⟩
  · rw [← left]
    exact ran
  · rw [← left]
    rfl
  · intro values error later failed
    rw [evaluate_recorded_of_failed window failed, evaluate_of_failed window failed]
    refine ⟨rfl, ?_, rfl⟩
    -- the query that failed is one of those that the conditions ask for
    have lengths := congrArg List.length failed
    rw [length_answers, List.length_append, List.length_map, List.length_cons] at lengths
    rw [List.length_take]
    omega
  · intro values answered
    rw [evaluate_recorded_of_answered window answered, evaluate_of_answered window answered]
    exact ⟨rfl, _, rfl, evaluation_reports (length_of_answered answered)⟩

/-- A source that answers 90 and fails the third time it is asked. -/
def failingThird : MetricSource (StateM Nat) :=
  fun q n => (if n = 2 then .error ⟨q.metricName, "down"⟩ else .ok 90, n + 1)

/-- A rule on four metrics, of which any may trigger. -/
def anyOfFour : Rule :=
  { tenantId := 1
    conditions := ["load", "memory", "swap", "disk"].map fun metric => ⟨metric, .avg, .gt, 80⟩
    logic := .any
    windowSeconds := 300
    cooldownSeconds := 60
    lastTriggeredAt := none }

/-- The first value decides the result, yet the next two queries are put; the fourth is not. -/
theorem evaluate_inOrder_failingThird :
    Instant.inRange ((⟨1000, 0⟩ : Instant).moved (-anyOfFour.windowSeconds)).seconds = true ∧
      anyOfFour.evaluate (recorded failingThird) ⟨1000, 0⟩ (0, []) =
        (.error (.metric ⟨"swap", "down"⟩), 3, (anyOfFour.queries ⟨700, 0⟩ ⟨1000, 0⟩).take 3) ∧
      ∃ result asked,
        anyOfFour.EvaluatesInOrder failingThird 0 ⟨700, 0⟩ ⟨1000, 0⟩ result asked ∧
        asked.length = 3 := by
  have inRange :
      Instant.inRange ((⟨1000, 0⟩ : Instant).moved (-anyOfFour.windowSeconds)).seconds = true := by
    decide
  obtain ⟨result, asked, ran, -, inOrder⟩ := evaluate_inOrder anyOfFour failingThird 0 inRange
  have failed : answers failingThird
      (anyOfFour.queries ((⟨1000, 0⟩ : Instant).moved (-anyOfFour.windowSeconds)) ⟨1000, 0⟩) 0 =
        [90, 90].map .ok ++ .error ⟨"swap", "down"⟩ :: [.ok 90] := rfl
  obtain ⟨put, three, ended⟩ := inOrder.failed failed
  refine ⟨inRange, ?_, result, asked, inOrder, three⟩
  rw [ran, put, ended]
  rfl

end Rule

end AlertRelay
