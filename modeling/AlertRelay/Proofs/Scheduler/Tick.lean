import AlertRelay.Proofs.Scheduler.Process
import AlertRelay.Proofs.Store.ReadBack

/-!
# Alerts apart

A tick visits the alerts in the order in which they are listed. Each visit reads the clock once and
then processes its alert in what the visits before it left: on the replies that they did not take,
and whatever became of them. So an alert that fails does not stop the ones after it, and an alert
that has no effect might as well not be listed.

The clock is the one thing that such an alert takes something from. Two lists are therefore compared
under clocks that agree on what the alerts of both read.

## Main definitions

* `Scheduler.Visit`, `Scheduler.visits` — the visits of a tick, each in what the ones before it left
* `Scheduler.Summary.after` — counts after some more visits
* `Scheduler.IsIdle` — an alert that is malformed or cools down when it is visited
* `Scheduler.Isolates` — a tick states what its visits state, and accounts for every alert
* `Scheduler.SparesOthers` — idle alerts in the list change nothing for the others

## Main results

* `Scheduler.tick_run` — a tick is its visits, one after another
* `Scheduler.visits_insert` — idle alerts do not change the other visits
* `Scheduler.tick_isolates` — both of a tick, at every position of the list
-/

namespace AlertRelay

/-- The alert decodes to a rule whose cooldown is running. -/
def AlertRecord.CoolingAt (a : AlertRecord) (now : Instant) : Prop :=
  ∃ rule, a.rule = .ok rule ∧ rule.isDue now = .ok false

instance (a : AlertRecord) : Decidable a.IsMalformed :=
  match decoded : a.rule with
  | .ok _ => isFalse fun malformed => by
    obtain ⟨e, refused⟩ := AlertRecord.isMalformed_iff.mp malformed
    rw [decoded] at refused
    cases refused
  | .error e => isTrue (AlertRecord.isMalformed_iff.mpr ⟨e, decoded⟩)

namespace Scheduler

/-! ## Visits -/

/-- What a tick does about one alert: when, what becomes of it, and the effects on the way. -/
structure Visit where
  alert : AlertRecord
  now : Instant
  outcome : Except Instant.Overflow (Except AlertRunError AlertOutcome)
  trace : List Action

namespace Visit

/-- The statements of a visit, with their replies. -/
def statements (v : Visit) : Script := Action.statements v.trace

/-- How often the clock is read for an alert: once for the instant of its visit, and on the way. -/
def readings (v : Visit) : Nat := Action.readings v.trace + 1

/-- The alert was evaluated. -/
def evaluated (v : Visit) : Bool :=
  match v.outcome with
  | .ok (.ok .notTriggered) | .ok (.ok .triggered) => true
  | _ => false

/-- The alert triggered, and was announced on all its channels. -/
def triggered (v : Visit) : Bool :=
  match v.outcome with
  | .ok (.ok .triggered) => true
  | _ => false

/-- The alert failed. -/
def failed (v : Visit) : Bool :=
  match v.outcome with
  | .ok (.error _) => true
  | _ => false

/-- The cooldown of the alert was running. -/
def cooled (v : Visit) : Bool :=
  match v.outcome with
  | .ok (.ok .coolingDown) => true
  | _ => false

end Visit

/-- The alert processed at the next reading of the clock. -/
def visit (source : MetricSource Routine) (w : Surroundings) (a : AlertRecord) :
    Run (Except AlertRunError AlertOutcome) :=
  (a.process source (w.handle .now).1).run (w.handle .now).2

/-- The surroundings after some alerts were visited. -/
def afterVisits (source : MetricSource Routine) (w : Surroundings) (alerts : List AlertRecord) :
    Surroundings :=
  alerts.foldl (fun w a => (visit source w a).rest) w

/-- The visits of some alerts, each in what the ones before it left. -/
def visits (source : MetricSource Routine) (w : Surroundings) : List AlertRecord → List Visit
  | [] => []
  | a :: rest =>
    ⟨a, (w.handle .now).1, (visit source w a).result, (visit source w a).trace⟩ ::
      visits source (visit source w a).rest rest

variable {source : MetricSource Routine} {w : Surroundings} {alerts : List AlertRecord}

theorem visits_append (source : MetricSource Routine) (w : Surroundings)
    (alerts later : List AlertRecord) :
    visits source w (alerts ++ later) =
      visits source w alerts ++ visits source (afterVisits source w alerts) later := by
  induction alerts generalizing w with
  | nil => rfl
  | cons a rest ih => simp only [List.cons_append, visits, ih, afterVisits, List.foldl_cons]

/-- Every alert is visited once, in order. -/
theorem map_alert_visits (source : MetricSource Routine) (w : Surroundings)
    (alerts : List AlertRecord) : (visits source w alerts).map Visit.alert = alerts := by
  induction alerts generalizing w with
  | nil => rfl
  | cons a rest ih => simp only [visits, List.map_cons, ih]

theorem length_visits (source : MetricSource Routine) (w : Surroundings)
    (alerts : List AlertRecord) :
    (visits source w alerts).length = alerts.length := by
  rw [← List.length_map (f := Visit.alert), map_alert_visits]

/-! ## Counts -/

namespace Summary

/-- The counts after some more visits. -/
def after (s : Summary) (visits : List Visit) : Summary :=
  { evaluated := s.evaluated + visits.countP Visit.evaluated
    triggered := s.triggered + visits.countP Visit.triggered
    errors := s.errors + visits.countP Visit.failed }

/-- A visit is counted by what becomes of its alert. -/
theorem after_cons (s : Summary) {v : Visit} {outcome : Except AlertRunError AlertOutcome}
    (ended : v.outcome = .ok outcome) (later : List Visit) :
    s.after (v :: later) = (s.count outcome).after later := by
  rcases outcome with e | _ | _ | _ <;>
    simp [after, count, Visit.evaluated, Visit.triggered, Visit.failed, ended,
      Nat.add_assoc, Nat.add_comm 1]

end Summary

/-- A visit that comes to an end is counted, or its alert cools down. -/
theorem length_eq_of_ended {visits : List Visit} (ended : ∀ v ∈ visits, v.outcome.isOk = true) :
    visits.length = visits.countP Visit.evaluated + visits.countP Visit.failed +
      visits.countP Visit.cooled := by
  induction visits with
  | nil => rfl
  | cons v rest ih =>
    rw [List.forall_mem_cons] at ended
    have later := ih ended.2
    obtain ⟨alert, now, outcome, trace⟩ := v
    rcases outcome with o | e | _ | _ | _
    · cases ended.1
    all_goals
      simp only [List.length_cons, List.countP_cons, Visit.evaluated, Visit.failed, Visit.cooled]
      simp
      omega

theorem triggered_le_evaluated (visits : List Visit) :
    visits.countP Visit.triggered ≤ visits.countP Visit.evaluated := by
  refine List.countP_mono_left fun v _ triggers => ?_
  rw [Visit.triggered] at triggers
  split at triggers
  case h_1 ended => rw [Visit.evaluated, ended]
  case h_2 => cases triggers

/-! ## A tick -/

theorem logFailure_reports (a : AlertRecord) (outcome : Except AlertRunError AlertOutcome) :
    (logFailure a outcome).Reports := by
  cases outcome with
  | ok _ => exact .inl rfl
  | error e => exact .inr ⟨_, _, _, rfl⟩

/-- What a visit states, and then the visits of the others in what it leaves. -/
theorem processAll_cons_run (s : Summary) {a : AlertRecord}
    {outcome : Except AlertRunError AlertOutcome} (ended : (visit source w a).result = .ok outcome)
    (rest : List AlertRecord) :
    ∃ trace, Action.statements trace = Action.statements (visit source w a).trace ∧
      (processAll source s (a :: rest)).run w =
        { (processAll source (s.count outcome) rest).run (visit source w a).rest with
          trace := trace ++
            ((processAll source (s.count outcome) rest).run (visit source w a).rest).trace } := by
  have read : Routine.now.run w = ⟨.ok (w.handle .now).1, [⟨.now, w.clock 0⟩], (w.handle .now).2⟩ :=
    rfl
  have visited : (a.process source (w.handle .now).1).run (w.handle .now).2 =
      ⟨.ok outcome, (visit source w a).trace, (visit source w a).rest⟩ := by
    rw [← ended]
    rfl
  obtain ⟨report, reported, silent, -⟩ :=
    (logFailure_reports a outcome).run_eq (visit source w a).rest
  refine ⟨⟨.now, w.clock 0⟩ :: ((visit source w a).trace ++ report), ?_, ?_⟩
  · change Action.statements ((visit source w a).trace ++ report) = _
    rw [Action.statements_append, silent, List.append_nil]
  · rw [processAll, Routine.run_bind_of_ok read, Routine.run_bind_of_ok visited,
      Routine.run_bind_of_ok reported]
    simp

/-- The alerts are visited one after another, whatever becomes of each. -/
theorem processAll_run (s : Summary)
    (ended : ∀ v ∈ visits source w alerts, v.outcome.isOk = true) :
    ∃ trace, (processAll source s alerts).run w =
        ⟨.ok (s.after (visits source w alerts)), trace, afterVisits source w alerts⟩ ∧
      Action.statements trace = (visits source w alerts).flatMap Visit.statements := by
  induction alerts generalizing s w with
  | nil => exact ⟨[], rfl, rfl⟩
  | cons a rest ih =>
    rw [visits, List.forall_mem_cons] at ended
    obtain ⟨outcome, first⟩ : ∃ outcome, (visit source w a).result = .ok outcome := by
      cases result : (visit source w a).result with
      | ok outcome => exact ⟨outcome, rfl⟩
      | error o => simp [result, Except.isOk, Except.toBool] at ended
    obtain ⟨effects, visited, step⟩ := processAll_cons_run s first rest
    obtain ⟨trace, ran, stated⟩ := ih (s.count outcome) ended.2
    refine ⟨effects ++ trace, ?_, ?_⟩
    · rw [step, ran, visits, Summary.after_cons s first]
      rfl
    · rw [Action.statements_append, visited, stated, visits, List.flatMap_cons]
      rfl

/-- A tick that lists some alerts processes them and reports. -/
theorem tick_run_eq {listed : StoreReply} (read : listed.all AlertRecord.ofRow = .ok alerts) :
    let later := (processAll source .empty alerts >>= fun summary => do
      Routine.log .debug "Alert tick complete"
        [LogEntry.number "alerts" alerts.length, LogEntry.number "evaluated" summary.evaluated,
         LogEntry.number "triggered" summary.triggered, LogEntry.number "errors" summary.errors]
      return (.ok summary : Except DbError Summary)).run w
    (tick source).run (w.replying listed) =
      { later with trace := ⟨.execute .enabledAlerts, listed⟩ :: later.trace } := by
  rw [tick, AlertStore.enabled, Routine.run_read]
  simp only [Surroundings.reply_replying, read]
  rfl

/-- A tick lists the alerts and visits them. -/
theorem tick_run {listed : StoreReply} (read : listed.all AlertRecord.ofRow = .ok alerts)
    (ended : ∀ v ∈ visits source w alerts, v.outcome.isOk = true) :
    ((tick source).run (w.replying listed)).result =
        .ok (.ok (Summary.empty.after (visits source w alerts))) ∧
      Action.statements ((tick source).run (w.replying listed)).trace =
        (.enabledAlerts, listed) :: (visits source w alerts).flatMap Visit.statements := by
  obtain ⟨trace, ran, stated⟩ := processAll_run .empty ended
  rw [tick_run_eq read, Routine.run_bind_of_ok ran]
  refine ⟨rfl, ?_⟩
  rw [Action.statements_execute, Action.statements_append, stated]
  exact congrArg _ (List.append_nil _)

/-- Every alert of a tick is counted or cools down. -/
theorem length_eq_accounted (ended : ∀ v ∈ visits source w alerts, v.outcome.isOk = true) :
    alerts.length = (Summary.empty.after (visits source w alerts)).evaluated +
      (Summary.empty.after (visits source w alerts)).errors +
        (visits source w alerts).countP Visit.cooled := by
  simp only [Summary.after, Summary.empty, Nat.zero_add]
  rw [← length_visits source w alerts]
  exact length_eq_of_ended ended

/-! ## Alerts that have no effect -/

/-- The alert is malformed, or its cooldown is running. -/
def IsIdle (a : AlertRecord) (now : Instant) : Prop := a.IsMalformed ∨ a.CoolingAt now

/-- What becomes of an alert that is idle. -/
def idleOutcome (a : AlertRecord) : Except AlertRunError AlertOutcome :=
  match a.rule with
  | .error e => .error (.definition e)
  | .ok _ => .ok .coolingDown

/-- The visit of an alert that is idle. -/
def idleVisit (x : AlertRecord × Instant) : Visit := ⟨x.1, x.2, .ok (idleOutcome x.1), []⟩

/-- An idle alert is processed without any effect. -/
theorem process_of_idle {a : AlertRecord} {now : Instant} (idle : IsIdle a now) :
    a.process source now = pure (idleOutcome a) := by
  rw [AlertRecord.process, idleOutcome]
  rcases idle with malformed | ⟨rule, decoded, cools⟩
  · obtain ⟨e, refused⟩ := AlertRecord.isMalformed_iff.mp malformed
    rw [refused]
  · rw [decoded]
    simp only [Rule.evaluateIfDue, cools]
    rfl

/-- Idle alerts take a reading of the clock each, and nothing else. -/
theorem visits_of_idle (source : MetricSource Routine) {inserted : List (AlertRecord × Instant)}
    (idle : ∀ x ∈ inserted, IsIdle x.1 x.2) (w : Surroundings) :
    visits source (w.delayed 0 (inserted.map Prod.snd)) (inserted.map Prod.fst) =
        inserted.map idleVisit ∧
      afterVisits source (w.delayed 0 (inserted.map Prod.snd)) (inserted.map Prod.fst) = w := by
  induction inserted with
  | nil => exact ⟨rfl, rfl⟩
  | cons x rest ih =>
    rw [List.forall_mem_cons] at idle
    obtain ⟨visited, left⟩ := ih idle.2
    -- the reading that was put in for this alert is the one that it takes
    have first : visit source (w.delayed 0 ((x :: rest).map Prod.snd)) x.1 =
        ⟨.ok (idleOutcome x.1), [], w.delayed 0 (rest.map Prod.snd)⟩ := by
      rw [visit, List.map_cons, Surroundings.handle_now_delayed_cons, process_of_idle idle.1]
      rfl
    refine ⟨?_, ?_⟩
    · rw [List.map_cons (f := Prod.fst), visits, first, visited]
      rfl
    · rw [afterVisits, List.map_cons (f := Prod.fst), List.foldl_cons, first]
      exact left

/-- How often the clock is read on some visits. -/
def readings : List Visit → Nat
  | [] => 0
  | v :: rest => v.readings + readings rest

/-- Readings of the clock that come after those for some alerts do not change their visits. -/
theorem visits_delayed (source : MetricSource Routine) (w : Surroundings)
    (alerts : List AlertRecord) (n : Nat) (times : List Instant) :
    visits source (w.delayed (readings (visits source w alerts) + n) times) alerts =
        visits source w alerts ∧
      afterVisits source (w.delayed (readings (visits source w alerts) + n) times) alerts =
        (afterVisits source w alerts).delayed n times := by
  induction alerts generalizing w with
  | nil => simp [visits, afterVisits, readings]
  | cons a rest ih =>
    obtain ⟨visited, left⟩ := ih (visit source w a).rest
    -- the instant of the visit, the readings on the way, and then those of the other alerts
    have count : readings (visits source w (a :: rest)) + n =
        Action.readings (visit source w a).trace +
          (readings (visits source (visit source w a).rest rest) + n) + 1 := by
      simp only [readings, visits, Visit.readings]
      omega
    have first (k : Nat) :
        visit source (w.delayed (Action.readings (visit source w a).trace + k + 1) times) a =
          { visit source w a with rest := (visit source w a).rest.delayed k times } := by
      rw [visit, Surroundings.handle_now_delayed_succ]
      exact Routine.run_delayed _ _ _ _
    rw [count]
    refine ⟨?_, ?_⟩
    · rw [visits, first, visited, Surroundings.handle_now_delayed_succ]
      rfl
    · rw [afterVisits, List.foldl_cons, first]
      exact left

/-- Idle alerts do not change the visits before and after them. -/
theorem visits_insert (w : Surroundings) (before after : List AlertRecord)
    {inserted : List (AlertRecord × Instant)} (idle : ∀ x ∈ inserted, IsIdle x.1 x.2) :
    visits source (w.delayed (readings (visits source w before)) (inserted.map Prod.snd))
        (before ++ (inserted.map Prod.fst ++ after)) =
      visits source w before ++ (inserted.map idleVisit ++
        visits source (afterVisits source w before) after) := by
  obtain ⟨earlier, reached⟩ := visits_delayed source w before 0 (inserted.map Prod.snd)
  obtain ⟨between, left⟩ := visits_of_idle source idle (afterVisits source w before)
  rw [Nat.add_zero] at earlier reached
  rw [visits_append, earlier, reached, visits_append, between, left]

theorem evaluated_idleVisit (x : AlertRecord × Instant) : (idleVisit x).evaluated = false := by
  simp only [Visit.evaluated, idleVisit, idleOutcome]
  cases x.1.rule <;> rfl

theorem triggered_idleVisit (x : AlertRecord × Instant) : (idleVisit x).triggered = false := by
  simp only [Visit.triggered, idleVisit, idleOutcome]
  cases x.1.rule <;> rfl

theorem failed_idleVisit (x : AlertRecord × Instant) :
    (idleVisit x).failed = decide x.1.IsMalformed := by
  rw [Bool.eq_iff_iff, decide_eq_true_iff, AlertRecord.isMalformed_iff]
  simp only [Visit.failed, idleVisit, idleOutcome]
  cases x.1.rule <;> simp

/-- Idle alerts raise no count but that of the errors, by the number of those that are malformed. -/
theorem Summary.after_insert (s : Summary) (before after : List Visit)
    (inserted : List (AlertRecord × Instant)) :
    s.after (before ++ (inserted.map idleVisit ++ after)) =
      { s.after (before ++ after) with
        errors := (s.after (before ++ after)).errors + inserted.countP (·.1.IsMalformed) } := by
  have evaluated : (inserted.map idleVisit).countP Visit.evaluated = 0 := by
    simp [List.countP_map, List.countP_eq_zero, evaluated_idleVisit]
  have triggered : (inserted.map idleVisit).countP Visit.triggered = 0 := by
    simp [List.countP_map, List.countP_eq_zero, triggered_idleVisit]
  have failed : (inserted.map idleVisit).countP Visit.failed =
      inserted.countP (·.1.IsMalformed) := by
    rw [List.countP_map]
    exact congrArg (List.countP · inserted) (funext failed_idleVisit)
  simp only [Summary.after, List.countP_append, evaluated, triggered, failed, Nat.zero_add]
  congr 1
  omega

/-- An alert whose cooldown is running is not malformed. -/
theorem not_isMalformed_of_coolingAt {a : AlertRecord} {now : Instant} (cools : a.CoolingAt now) :
    ¬ a.IsMalformed := by
  obtain ⟨rule, decoded, -⟩ := cools
  rw [AlertRecord.isMalformed_iff, decoded]
  simp

/-! ## Isolation -/

/-- A tick lists the alerts, visits every one of them in order, and accounts for it. -/
structure Isolates (source : MetricSource Routine) (w : Surroundings) (listed : StoreReply)
    (alerts : List AlertRecord) (run : Run (Except DbError Summary)) : Prop where
  visited : (visits source w alerts).map Visit.alert = alerts
  statements : Action.statements run.trace =
    (.enabledAlerts, listed) :: (visits source w alerts).flatMap Visit.statements
  summary : ∃ s : Summary, run.result = .ok (.ok s) ∧
    s.evaluated = (visits source w alerts).countP Visit.evaluated ∧
    s.triggered = (visits source w alerts).countP Visit.triggered ∧
    s.errors = (visits source w alerts).countP Visit.failed ∧
    alerts.length = s.evaluated + s.errors + (visits source w alerts).countP Visit.cooled ∧
    s.triggered ≤ s.evaluated

/-- Some idle alerts are inserted into the list. The visits of the others are the same, and so are
all statements but the reply to the listing and all counts but that of the errors, which is raised
by the number of the malformed alerts. -/
structure SparesOthers (source : MetricSource Routine) (w v : Surroundings)
    (before after : List AlertRecord) (inserted : List (AlertRecord × Instant))
    (run other : Run (Except DbError Summary)) : Prop where
  visits : visits source v (before ++ (inserted.map Prod.fst ++ after)) =
    (visits source w (before ++ after)).take before.length ++ inserted.map idleVisit ++
      (visits source w (before ++ after)).drop before.length
  statements : (Action.statements other.trace).tail = (Action.statements run.trace).tail
  summary : ∃ s : Summary, run.result = .ok (.ok s) ∧
    other.result =
      .ok (.ok { s with errors := s.errors + inserted.countP (·.1.IsMalformed) })
  malformed : (∀ x ∈ inserted, x.1.IsMalformed) →
    inserted.countP (·.1.IsMalformed) = inserted.length
  cooling : (∀ x ∈ inserted, x.1.CoolingAt x.2) → inserted.countP (·.1.IsMalformed) = 0

theorem tick_sparesOthers {listed listed' : StoreReply} {before after : List AlertRecord}
    {inserted : List (AlertRecord × Instant)}
    (read : listed.all AlertRecord.ofRow = .ok (before ++ after))
    (read' : listed'.all AlertRecord.ofRow =
      .ok (before ++ (inserted.map Prod.fst ++ after)))
    (ended : ∀ v ∈ visits source w (before ++ after), v.outcome.isOk = true)
    (idle : ∀ x ∈ inserted, IsIdle x.1 x.2) :
    let v := w.delayed (readings (visits source w before)) (inserted.map Prod.snd)
    SparesOthers source w v before after inserted ((tick source).run (w.replying listed))
      ((tick source).run (v.replying listed')) := by
  intro v
  have split := visits_append source w before after
  have inserts : visits source v (before ++ (inserted.map Prod.fst ++ after)) = _ :=
    visits_insert w before after idle
  rw [split] at ended
  -- the visits of the longer list end as well, since those of idle alerts do
  have ended' : ∀ x ∈ visits source v (before ++ (inserted.map Prod.fst ++ after)),
      x.outcome.isOk = true := by
    rw [inserts]
    intro x member
    rcases List.mem_append.mp member with member | member
    · exact ended x (List.mem_append_left _ member)
    rcases List.mem_append.mp member with member | member
    · obtain ⟨y, -, rfl⟩ := List.mem_map.mp member
      rfl
    · exact ended x (List.mem_append_right _ member)
  obtain ⟨result, stated⟩ := tick_run read (by rw [split]; exact ended)
  obtain ⟨result', stated'⟩ := tick_run read' ended'
  have silent : (inserted.map idleVisit).flatMap Visit.statements = [] := by
    simp [List.flatMap_map, idleVisit, Visit.statements]
  refine ⟨?_, ?_, ⟨_, result, ?_⟩, ?_, ?_⟩
  · rw [inserts, split, ← length_visits source w before, List.take_left,
      List.drop_left, List.append_assoc]
  · rw [stated, stated', inserts, split]
    simp [silent]
  · rw [result', inserts, split, Summary.after_insert]
  · intro malformed
    rw [List.countP_eq_length]
    simpa using malformed
  · intro cools
    rw [List.countP_eq_zero]
    simpa using fun x time member => not_isMalformed_of_coolingAt (cools (x, time) member)

/-- The alerts of a tick are kept apart. Every alert is visited and accounted for, whatever becomes
of the others, and idle alerts at any position of the list leave the others as they are. -/
theorem tick_isolates (source : MetricSource Routine) (w : Surroundings) {listed : StoreReply}
    {alerts : List AlertRecord} (read : listed.all AlertRecord.ofRow = .ok alerts)
    (ended : ∀ v ∈ visits source w alerts, v.outcome.isOk = true) :
    Isolates source w listed alerts ((tick source).run (w.replying listed)) ∧
      ∀ before after inserted listed', alerts = before ++ after →
        listed'.all AlertRecord.ofRow = .ok (before ++ (inserted.map Prod.fst ++ after)) →
        (∀ x ∈ inserted, IsIdle x.1 x.2) →
        let v := w.delayed (readings (visits source w before)) (inserted.map Prod.snd)
        SparesOthers source w v before after inserted ((tick source).run (w.replying listed))
          ((tick source).run (v.replying listed')) := by
  obtain ⟨result, stated⟩ := tick_run read ended
  refine ⟨⟨map_alert_visits source w alerts, stated, _, result, ?_⟩, ?_⟩
  · refine ⟨Nat.zero_add _, Nat.zero_add _, Nat.zero_add _, length_eq_accounted ended, ?_⟩
    simp only [Summary.after, Summary.empty, Nat.zero_add]
    exact triggered_le_evaluated _
  · rintro before after inserted listed' rfl read' idle
    exact tick_sparesOthers read read' ended idle

/-- Two alerts that trigger and cannot be announced; between them come an alert without conditions
and one that has just fired. -/
theorem tick_isolates_overloaded :
    let w := (AlertRecord.overloaded ⟨1000, 0⟩
      [.failed (.refused "disk full"), .affected 1, .rows []]).surroundings
    let first := AlertRecord.loadAlert
    let broken := { AlertRecord.loadAlert with id := 8, conditions := .null }
    let resting := { AlertRecord.loadAlert with id := 9, lastTriggeredAt := some ⟨990, 0⟩ }
    let last := { AlertRecord.loadAlert with id := 10 }
    let inserted : List (AlertRecord × Instant) := [(broken, ⟨1000, 0⟩), (resting, ⟨1000, 0⟩)]
    let listed := StoreReply.rows ([first, last].map AlertRecord.row)
    let listed' := StoreReply.rows ([first, broken, resting, last].map AlertRecord.row)
    Isolates Routine.measure w listed [first, last]
        ((tick Routine.measure).run (w.replying listed)) ∧
      SparesOthers Routine.measure w w [first] [last] inserted
        ((tick Routine.measure).run (w.replying listed))
        ((tick Routine.measure).run (w.replying listed')) ∧
      ((tick Routine.measure).run (w.replying listed)).result = .ok (.ok ⟨0, 0, 2⟩) ∧
      ((tick Routine.measure).run (w.replying listed')).result = .ok (.ok ⟨0, 0, 3⟩) := by
  intro w first broken resting last inserted listed listed'
  have still :
      w.delayed (readings (visits Routine.measure w [first])) (inserted.map Prod.snd) = w :=
    Surroundings.delayed_of_still (t := ⟨1000, 0⟩) (fun _ => rfl) _ (by decide)
  have idle : ∀ x ∈ inserted, IsIdle x.1 x.2 := by
    rw [List.forall_mem_cons, List.forall_mem_singleton]
    exact ⟨.inl (.inl ⟨_, rfl⟩), .inr ⟨_, rfl, rfl⟩⟩
  obtain ⟨isolates, spares⟩ := tick_isolates Routine.measure w
    (AlertRecord.all_rows [first, last]) (by decide)
  refine ⟨isolates, ?_, rfl, rfl⟩
  have inserts := spares [first] [last] inserted listed' rfl
    (AlertRecord.all_rows [first, broken, resting, last]) idle
  rwa [still] at inserts

end Scheduler

end AlertRelay
