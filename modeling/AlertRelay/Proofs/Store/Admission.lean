import AlertRelay.Proofs.Checks.First
import AlertRelay.Proofs.Routine.Change
import AlertRelay.Store.Alerts

/-!
# Which alerts are stored

A new alert is checked before anything is stated. The first invariant that it violates is the reason
for which it is refused. An alert that violates none is stored by one statement, and what the reply
holds is the result. The operators of its conditions and the kinds of its channels play no part: an
unknown operator and an unsupported channel are stored like any others.

## Main definitions

* `NewAlert.refusals` — the invariants in order, each with the wording of its violation
* `NewAlert.relabelled` — the alert with other operators and other channels in place of its own
* `AlertStore.Admits` — what becomes of a new alert

## Main results

* `NewAlert.message_check_iff` — the first violated invariant is the reason
* `AlertStore.create_admits` — every alert is refused or stored so
-/

namespace AlertRelay

namespace NewAlert

variable {alert : NewAlert} {text : String}

/-- The invariants of an alert in the order of the checks, each with the wording of its
violation. -/
def refusals (alert : NewAlert) : List (String → Prop) :=
  [fun text => Text.Blank alert.name ∧ text = "alert name must not be empty",
   fun text => alert.conditions = [] ∧ text = "alert must have at least one condition",
   fun text => ∃ before c after, alert.conditions = before ++ c :: after ∧
     Text.Blank c.metricName ∧ (∀ earlier ∈ before, ¬ Text.Blank earlier.metricName) ∧
     text = "condition metric_name must not be empty (operator '" ++ c.operator.name ++ "')",
   fun text => (∃ c ∈ alert.conditions, c.threshold.isFinite = false) ∧
     text = "condition thresholds must be finite numbers",
   fun text => alert.windowSeconds ≤ 0 ∧
     text = "window_seconds must be positive, got " ++ toString alert.windowSeconds,
   fun text => alert.cooldownSeconds ≤ 0 ∧
     text = "cooldown_seconds must be positive, got " ++ toString alert.cooldownSeconds,
   fun text => (alert.severity ≠ "info" ∧ alert.severity ≠ "warning" ∧ alert.severity ≠ "critical") ∧
     text = "severity must be one of [\"info\", \"warning\", \"critical\"], got '" ++
       alert.severity ++ "'",
   fun text => (alert.enabled.getD true = true ∧ alert.channels = []) ∧
     text = "an enabled alert must have at least one channel"]

/-- The alert violates an invariant. -/
def IsInvalid (alert : NewAlert) : Prop :=
  Text.Blank alert.name ∨ alert.conditions = [] ∨
    (∃ c ∈ alert.conditions, Text.Blank c.metricName) ∨
    (∃ c ∈ alert.conditions, c.threshold.isFinite = false) ∨
    alert.windowSeconds ≤ 0 ∨ alert.cooldownSeconds ≤ 0 ∨
    (alert.severity ≠ "info" ∧ alert.severity ≠ "warning" ∧ alert.severity ≠ "critical") ∨
    (alert.enabled.getD true = true ∧ alert.channels = [])

/-- The alert with other operators and other channels in place of its own. -/
def relabelled (operators : Condition → Operator) (channels : Channel → Channel)
    (alert : NewAlert) : NewAlert :=
  { alert with
    conditions := alert.conditions.map fun c => { c with operator := operators c }
    channels := alert.channels.map channels }

theorem verdict_iff {violated : Prop} [Decidable violated] {meaning : Prop}
    (same : violated ↔ meaning) (reason : Invalid) (text : String) :
    (if violated then some reason else none).map Invalid.message = some text ↔
      meaning ∧ text = reason.message := by
  rw [← same]
  split
  next holds => simp [holds, eq_comm]
  next fails => simp [fails]

theorem blankMetric?_eq_some_iff {d : Definition} {c : Condition} :
    d.blankMetric? = some c ↔ ∃ before after, d.conditions = before ++ c :: after ∧
      Text.Blank c.metricName ∧ ∀ earlier ∈ before, ¬ Text.Blank earlier.metricName := by
  rw [Definition.blankMetric?, List.find?_eq_some_iff_append]
  simp only [Bool.not_eq_true', ← Bool.not_eq_true, Text.allBlank_iff]
  constructor
  · rintro ⟨blank, before, after, split, named⟩
    exact ⟨before, after, split, blank, named⟩
  · rintro ⟨before, after, split, blank, named⟩
    exact ⟨blank, before, after, split, named⟩

theorem message_unknownSeverity (severity : String) : (Invalid.unknownSeverity severity).message =
    "severity must be one of [\"info\", \"warning\", \"critical\"], got '" ++ severity ++ "'" := by
  have opening : "severity must be one of " ++ severitiesShown ++ ", got '" =
      "severity must be one of [\"info\", \"warning\", \"critical\"], got '" := by
    decide +kernel
  exact congrArg (· ++ severity ++ "'") opening

/-- Each verdict is that of its invariant. -/
theorem forall₂_violations (alert : NewAlert) :
    List.Forall₂ (fun v check => ∀ text, v.map Invalid.message = some text ↔ check text)
      alert.definition.violations alert.refusals := by
  refine .cons (verdict_iff Text.allBlank_iff _) (.cons (verdict_iff List.isEmpty_iff _)
    (.cons ?metric (.cons (verdict_iff ?threshold _) (.cons (verdict_iff Iff.rfl _)
    (.cons (verdict_iff Iff.rfl _) (.cons ?severity (.cons (verdict_iff ?channels _) .nil)))))))
  case metric =>
    intro text
    simp only [Option.map_map, Option.map_eq_some_iff, blankMetric?_eq_some_iff]
    constructor
    · rintro ⟨c, ⟨before, after, split, blank, named⟩, rfl⟩
      exact ⟨before, c, after, split, blank, named, rfl⟩
    · rintro ⟨before, c, after, split, blank, named, rfl⟩
      exact ⟨c, ⟨before, after, split, blank, named⟩, rfl⟩
  case threshold => simp [definition]
  case severity =>
    intro text
    rw [← ite_not, ← message_unknownSeverity]
    refine verdict_iff ?_ _ text
    simp [severities, definition]
  case channels => simp [definition, isEnabled]

/-- The first violated invariant is the reason. -/
theorem message_check_iff :
    alert.definition.check.map Invalid.message = some text ↔
      Checks.First alert.refusals text := by
  have verdicts : alert.definition.check.map Invalid.message =
      (alert.definition.violations.map (Option.map Invalid.message)).findSome? id := by
    rw [Definition.check, List.map_findSome?, List.findSome?_map]
    rfl
  rw [verdicts]
  exact Checks.findSome?_eq_some_iff
    (List.forall₂_map_left_iff.mpr (forall₂_violations alert))

theorem exists_blankMetric_iff : (∃ c ∈ alert.conditions, Text.Blank c.metricName) ↔
    ∃ before c after, alert.conditions = before ++ c :: after ∧ Text.Blank c.metricName ∧
      ∀ earlier ∈ before, ¬ Text.Blank earlier.metricName := by
  have found : (∃ c ∈ alert.conditions, Text.Blank c.metricName) ↔
      ∃ c, alert.definition.blankMetric? = some c := by
    rw [← Option.isSome_iff_exists, Definition.blankMetric?, List.find?_isSome]
    simp only [Text.allBlank_iff, definition]
  rw [found, exists_comm]
  exact exists_congr fun c => blankMetric?_eq_some_iff

/-- An alert violates an invariant exactly when there is a reason to refuse it. -/
theorem isInvalid_iff : alert.IsInvalid ↔ ∃ text, Checks.First alert.refusals text := by
  rw [Checks.exists_first_iff, IsInvalid, exists_blankMetric_iff]
  simp only [refusals, List.exists_mem_cons_iff, List.not_mem_nil, false_and, exists_const, or_false,
    exists_and_left, exists_eq, and_true]
  -- all but the wording for a blank metric name is the same by now
  refine or_congr_right (or_congr_right (or_congr_left ?_))
  constructor
  · rintro ⟨before, c, after, split, blank, named⟩
    exact ⟨_, before, c, after, split, blank, named, rfl⟩
  · rintro ⟨_, before, c, after, split, blank, named, -⟩
    exact ⟨before, c, after, split, blank, named⟩

theorem isInvalid_relabelled (operators : Condition → Operator) (channels : Channel → Channel)
    (alert : NewAlert) : (alert.relabelled operators channels).IsInvalid ↔ alert.IsInvalid := by
  simp [IsInvalid, relabelled]

end NewAlert

namespace AlertStore

variable {tenant : Int} {alert : NewAlert}

/-- What becomes of a new alert, on the reply to its statement. -/
structure Admits (tenant : Int) (alert : NewAlert) (reply : StoreReply)
    (ran : Run (Except StoreError AlertRecord)) : Prop where
  /-- An alert is refused, and nothing executed, exactly when it violates an invariant. -/
  refused_iff : (ran.statements = [] ∧ ∃ error, ran.result = .ok (.error (.invalid error))) ↔
    alert.IsInvalid
  /-- The reason is the first violated invariant. -/
  reason : ∀ text, Checks.First alert.refusals text → ran.trace = [] ∧
    ∃ error, ran.result = .ok (.error error) ∧ error.message = "Validation failed: " ++ text
  /-- Every other alert is stored by one statement. -/
  stated : ¬ alert.IsInvalid → ran.statements = [.insertAlert tenant alert]
  /-- It is an insertion of the alert's own fields for the tenant, enabled unless it says
  otherwise. -/
  verb : (Statement.insertAlert tenant alert).verb = "INSERT"
  params : (Statement.insertAlert tenant alert).params =
    [.int tenant, .text alert.name, .json (Condition.listJson alert.conditions),
      .text alert.logic.name, .int alert.windowSeconds, .int alert.cooldownSeconds,
      .text alert.severity, .json (Channel.listJson alert.channels),
      .bool (alert.enabled.getD true)]
  /-- The result is the returned row. -/
  stored : ¬ alert.IsInvalid → ∀ record, reply.one AlertRecord.ofRow = .ok record →
    ran.result = .ok (.ok record)
  /-- Or it is the database's error. -/
  failed : ¬ alert.IsInvalid → ∀ error, reply.one AlertRecord.ofRow = .error error →
    ran.result = .ok (.error (.database error))
  /-- Operators and kinds of channels play no part. -/
  tolerant : ∀ operators channels,
    (alert.relabelled operators channels).IsInvalid ↔ alert.IsInvalid

theorem create_run_of_check {reason : Invalid} (fails : alert.definition.check = some reason)
    (w : Surroundings) :
    (create tenant alert).run w = ⟨.ok (.error (.invalid (.invalid reason))), [], w⟩ := by
  rw [create, fails]
  rfl

theorem create_run_of_passes (passes : alert.definition.check = none) (w : Surroundings) :
    (create tenant alert).run w =
      ⟨.ok (((w.reply 0).one AlertRecord.ofRow).mapError .database),
        [⟨.execute (.insertAlert tenant alert), w.reply 0⟩], w.afterStatements 1⟩ := by
  rw [create, passes]
  exact (Routine.run_ask _ _ w).trans (by rw [Surroundings.handle_execute]; rfl)

/-- Every alert is refused or stored so, whatever the replies are. -/
theorem create_admits (tenant : Int) (alert : NewAlert) (w : Surroundings) :
    Admits tenant alert (w.reply 0) ((create tenant alert).run w) := by
  have passes_iff : ¬ alert.IsInvalid ↔ alert.definition.check = none := by
    rw [NewAlert.isInvalid_iff, ← Option.not_isSome_iff_eq_none, not_iff_not]
    simp only [← NewAlert.message_check_iff, ← Option.isSome_iff_exists, Option.isSome_map]
  constructor
  case refused_iff =>
    cases check : alert.definition.check with
    | none =>
      rw [create_run_of_passes check]
      exact iff_of_false (fun refused => nomatch refused.1) (passes_iff.mpr check)
    | some reason =>
      have invalid : alert.IsInvalid := by
        by_contra valid
        cases check.symm.trans (passes_iff.mp valid)
      rw [create_run_of_check check]
      exact iff_of_true ⟨rfl, _, rfl⟩ invalid
  case reason =>
    intro text first
    obtain ⟨reason, check, rfl⟩ := Option.map_eq_some_iff.mp (NewAlert.message_check_iff.mpr first)
    rw [create_run_of_check check]
    exact ⟨rfl, _, rfl, rfl⟩
  case stated =>
    intro valid
    rw [create_run_of_passes (passes_iff.mp valid)]
    rfl
  case verb => rfl
  case params => rfl
  case stored =>
    intro valid record read
    rw [create_run_of_passes (passes_iff.mp valid), read]
    rfl
  case failed =>
    intro valid error read
    rw [create_run_of_passes (passes_iff.mp valid), read]
    rfl
  case tolerant => exact fun operators channels =>
    NewAlert.isInvalid_relabelled operators channels alert

end AlertStore

end AlertRelay
