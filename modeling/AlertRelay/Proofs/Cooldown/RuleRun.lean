import AlertRelay.Alert.Run
import AlertRelay.Proofs.Cooldown.Pacing

/-!
# The cooldown along a run of a rule

A run may mix triggers, quiet evaluations, failed lookups and suppressed steps, and its clock may
go backwards. Whatever it does, its triggers are paced by the cooldown, its last trigger is the
instant of the most recent triggering step, and a step is suppressed exactly while the cooldown of
that instant is running. A suppressed step asks its source for nothing.

## Main definitions

* `Rule.lastTrigger` — the last trigger after some steps, read off the steps
* `Rule.KeepsCooldown` — what the cooldown guarantees along a run

## Main results

* `Rule.run_paced` — the triggers of a run are paced
* `Rule.run_isOk` — a run whose instants stay in range does not overflow
* `Rule.run_keepsCooldown` — every run keeps the cooldown
-/

namespace AlertRelay.Rule

variable {r : Rule} {source : Source} {now : Instant}

/-! ## One step -/

theorem stepResult_of_cooling (h : r.isDue now = .ok false) (source : Source) :
    r.stepResult source now = .ok (.coolingDown, []) := by
  simp [stepResult, evaluateIfDue, h]
  rfl

/-- A rule that is due is evaluated. -/
theorem evaluateIfDue_of_due (h : r.isDue now = .ok true) (source : Source) :
    r.evaluateIfDue source now [] =
      ((r.evaluate source now []).1.map some, (r.evaluate source now []).2) := by
  simp only [evaluateIfDue, h, bind, StateT.bind]
  rcases r.evaluate source now [] with ⟨_ | _, asked⟩ <;> rfl

/-- A step with a result has consulted the cooldown. -/
theorem isDue_of_stepResult {found : StepResult × List MetricQuery}
    (h : r.stepResult source now = .ok found) : ∃ due, r.isDue now = .ok due := by
  cases due : r.isDue now with
  | error o =>
    rw [stepResult, evaluateIfDue, due] at h
    exact nomatch h
  | ok isDue => exact ⟨isDue, rfl⟩

/-- A step is suppressed exactly while the cooldown is running. -/
theorem coolingDown_iff {result : StepResult} {asked : List MetricQuery}
    (h : r.stepResult source now = .ok (result, asked)) :
    result = .coolingDown ↔ r.CoolsAt now := by
  obtain ⟨due, isDue⟩ := isDue_of_stepResult h
  have free := isDue_eq_true_iff isDue
  cases due with
  | false =>
    obtain ⟨rfl, -⟩ := Prod.mk.inj (Except.ok.inj ((stepResult_of_cooling isDue source).symm.trans h))
    simp_all
  | true =>
    refine ⟨fun suppressed => ?_, fun cools => absurd cools (free.mp rfl)⟩
    rw [stepResult, evaluateIfDue_of_due isDue, suppressed] at h
    generalize r.evaluate source now [] = outcome at h
    rcases outcome with ⟨(_ | _) | _, _⟩ <;> simp [Except.map] at h

/-- While the cooldown is running a step asks for nothing, whatever its source would answer. -/
theorem stepResult_of_coolsAt {found : StepResult × List MetricQuery}
    (h : r.stepResult source now = .ok found) (cools : r.CoolsAt now) (other : Source) :
    r.stepResult other now = .ok (.coolingDown, []) := by
  obtain ⟨due, isDue⟩ := isDue_of_stepResult h
  have free := isDue_eq_true_iff isDue
  cases due with
  | false => exact stepResult_of_cooling isDue other
  | true => exact absurd cools (free.mp rfl)

/-- Without an overflow a step has a result. -/
theorem stepResult_isOk (ready : ∀ t, r.lastTriggeredAt = some t →
      Instant.inRange (t.moved r.cooldownSeconds).seconds = true)
    (window : Instant.inRange (now.moved (-r.windowSeconds)).seconds = true) (source : Source) :
    ∃ result asked, r.stepResult source now = .ok (result, asked) := by
  obtain ⟨due, isDue⟩ : ∃ due, r.isDue now = .ok due := by
    unfold Rule.isDue
    split
    case h_1 => exact ⟨true, rfl⟩
    case h_2 last fired =>
      rw [Instant.later_eq_ok_iff.mpr ⟨ready last fired, rfl⟩]
      exact ⟨_, rfl⟩
  cases due with
  | false => exact ⟨_, _, stepResult_of_cooling isDue source⟩
  | true =>
    rw [stepResult, evaluateIfDue_of_due isDue, evaluate,
      Instant.earlier_eq_ok_iff.mpr ⟨window, rfl⟩]
    simp only [bind, StateT.bind]
    rcases r.observe source (now.moved (-r.windowSeconds)) now r.conditions [] with ⟨_ | _, asked⟩
    · exact ⟨_, _, rfl⟩
    · exact ⟨_, _, rfl⟩

theorem afterStep_eq (r : Rule) (now : Instant) (result : StepResult) :
    r.afterStep now result =
      { r with lastTriggeredAt := if result.triggers then some now else r.lastTriggeredAt } := by
  rw [afterStep]
  split <;> rfl

/-! ## The whole run -/

theorem run_cons_eq_ok {s : Step} {rest : List Step} {records : List StepRecord}
    (h : r.run (s :: rest) = .ok records) :
    ∃ result asked later, r.stepResult s.source s.now = .ok (result, asked) ∧
      (r.afterStep s.now result).run rest = .ok later ∧
      records = ⟨result, asked, (r.afterStep s.now result).lastTriggeredAt⟩ :: later := by
  rw [run] at h
  cases step : r.stepResult s.source s.now with
  | error o => simp [step, bind, Except.bind] at h
  | ok found =>
    obtain ⟨result, asked⟩ := found
    cases later : (r.afterStep s.now result).run rest with
    | error o => simp [step, later, bind, Except.bind] at h
    | ok records' =>
      simp only [step, later, bind, Except.bind, pure, Except.pure, Except.ok.injEq] at h
      exact ⟨result, asked, records', rfl, later, h.symm⟩

theorem length_run {steps : List Step} {records : List StepRecord} (h : r.run steps = .ok records) :
    records.length = steps.length := by
  induction steps generalizing r records with
  | nil => rw [← Except.ok.inj h]; rfl
  | cons s rest ih =>
    obtain ⟨result, asked, later, -, tail, rfl⟩ := run_cons_eq_ok h
    simp [ih tail]

/-- A run whose instants stay in range does not overflow. -/
theorem run_isOk {steps : List Step}
    (ready : ∀ t, r.lastTriggeredAt = some t →
      Instant.inRange (t.moved r.cooldownSeconds).seconds = true)
    (inRange : ∀ s ∈ steps, Instant.inRange (s.now.moved r.cooldownSeconds).seconds = true ∧
      Instant.inRange (s.now.moved (-r.windowSeconds)).seconds = true) :
    ∃ records, r.run steps = .ok records := by
  induction steps generalizing r with
  | nil => exact ⟨[], rfl⟩
  | cons s rest ih =>
    have here := inRange s List.mem_cons_self
    obtain ⟨result, asked, step⟩ := stepResult_isOk ready here.2 s.source
    have next : ∃ later, (r.afterStep s.now result).run rest = .ok later := by
      rw [afterStep_eq]
      refine ih (fun t stored => ?_) fun s' member => inRange s' (List.mem_cons_of_mem _ member)
      dsimp only at stored ⊢
      split at stored
      · obtain rfl := Option.some.inj stored
        exact here.1
      · exact ready t stored
    obtain ⟨later, tail⟩ := next
    exact ⟨_, by rw [run, step]; simp only [bind, Except.bind, tail]; rfl⟩

/-- A step of a run as a moment at which the cooldown was consulted. -/
def moment (x : Step × StepRecord) : Moment :=
  ⟨x.1.now, if x.2.result.triggers then some x.1.now else none⟩

theorem fires_moment (x : Step × StepRecord) :
    (moment x).Fires ↔ x.2.result.triggers = true := by
  rw [moment, Moment.Fires]
  split <;> simp_all

/-- The triggers of a run are paced by the cooldown. -/
theorem run_paced {steps : List Step} {records : List StepRecord} (h : r.run steps = .ok records) :
    Paced r.cooldownSeconds r.lastTriggeredAt ((steps.zip records).map moment) := by
  induction steps generalizing r records with
  | nil => exact .nil _
  | cons s rest ih =>
    obtain ⟨result, asked, later, step, tail, rfl⟩ := run_cons_eq_ok h
    have paced := ih tail
    rw [List.zip_cons_cons, List.map_cons, moment]
    rw [afterStep_eq] at paced
    cases triggers : result.triggers with
    | false =>
      rw [triggers] at paced
      simpa [triggers] using Paced.quiet paced
    | true =>
      have due : ¬ r.CoolsAt s.now := fun cools => by
        obtain rfl := (coolingDown_iff step).mpr cools
        simp [StepResult.triggers] at triggers
      rw [triggers] at paced
      refine Paced.fire (fun t stored => ?_) (Instant.le_refl _) (Instant.le_refl _) paced
      exact Decidable.byContradiction fun early => due ⟨t, stored, early⟩

/-- The last trigger after some steps: the instant of the most recent one that triggered, or else
the last trigger from before them. -/
def lastTrigger (initial : Option Instant) (done : List (Step × StepRecord)) : Option Instant :=
  ((done.filter fun x => x.2.result.triggers).getLast?.map fun x => x.1.now).or initial

/-- The rule after some steps. -/
def after (r : Rule) (done : List (Step × StepRecord)) : Rule :=
  { r with lastTriggeredAt := lastTrigger r.lastTriggeredAt done }

theorem lastTrigger_cons (initial : Option Instant) (x : Step × StepRecord)
    (done : List (Step × StepRecord)) :
    lastTrigger initial (x :: done) =
      lastTrigger (if x.2.result.triggers then some x.1.now else initial) done := by
  rw [lastTrigger, lastTrigger, List.filter_cons]
  split
  · rw [List.getLast?_cons]
    cases (done.filter fun x => x.2.result.triggers).getLast? <;> rfl
  · rfl

theorem lastTrigger_concat (initial : Option Instant) (done : List (Step × StepRecord))
    (x : Step × StepRecord) :
    lastTrigger initial (done ++ [x]) =
      if x.2.result.triggers then some x.1.now else lastTrigger initial done := by
  cases triggers : x.2.result.triggers with
  | false => simp [lastTrigger, triggers]
  | true => simp [lastTrigger, triggers]

theorem after_cons (r : Rule) (x : Step × StepRecord) (done : List (Step × StepRecord)) :
    r.after (x :: done) = (r.afterStep x.1.now x.2.result).after done := by
  simp only [after, lastTrigger_cons, afterStep_eq]

/-- Every step of a run is a step of the rule that the steps before it left. -/
theorem run_step {steps : List Step} {records : List StepRecord} (h : r.run steps = .ok records)
    {before later : List (Step × StepRecord)} {x : Step × StepRecord}
    (split : steps.zip records = before ++ x :: later) :
    (r.after before).stepResult x.1.source x.1.now = .ok (x.2.result, x.2.asked) ∧
      x.2.lastTriggeredAt = lastTrigger r.lastTriggeredAt (before ++ [x]) := by
  induction steps generalizing r records before with
  | nil => simp at split
  | cons s rest ih =>
    obtain ⟨result, asked, records', step, tail, rfl⟩ := run_cons_eq_ok h
    rw [List.zip_cons_cons] at split
    cases before with
    | nil =>
      obtain ⟨rfl, -⟩ := List.cons.inj split
      exact ⟨step, by rw [lastTrigger_concat, afterStep_eq]; rfl⟩
    | cons y before =>
      obtain ⟨rfl, rest_split⟩ := List.cons.inj split
      have found := ih tail rest_split
      rw [after_cons, List.cons_append, lastTrigger_cons]
      rw [afterStep_eq] at found ⊢
      exact found

/-- What the cooldown guarantees along a run, given as its steps with their records. -/
structure KeepsCooldown (r : Rule) (run : List (Step × StepRecord)) : Prop where
  /-- Of two triggers the later one comes strictly after the cooldown of the earlier one. -/
  apart : run.Pairwise fun x y => x.2.result.triggers = true → y.2.result.triggers = true →
    x.1.now.moved r.cooldownSeconds < y.1.now
  /-- Every trigger comes strictly after the cooldown of the last one before the run. -/
  after_initial : ∀ t, r.lastTriggeredAt = some t → ∀ x ∈ run, x.2.result.triggers = true →
    t.moved r.cooldownSeconds < x.1.now
  /-- The last trigger is the instant of the most recent step that triggered. -/
  last_trigger : ∀ before x later, run = before ++ x :: later →
    x.2.lastTriggeredAt = lastTrigger r.lastTriggeredAt (before ++ [x])
  /-- A step that does not trigger leaves the last trigger. -/
  unchanged : ∀ before x later, run = before ++ x :: later → x.2.result.triggers = false →
    x.2.lastTriggeredAt = lastTrigger r.lastTriggeredAt before
  /-- A step is suppressed exactly while the cooldown of the last trigger is running. -/
  cooling_iff : ∀ before x later, run = before ++ x :: later →
    (x.2.result = .coolingDown ↔ ∃ t, lastTrigger r.lastTriggeredAt before = some t ∧
      x.1.now ≤ t.moved r.cooldownSeconds)
  /-- A suppressed step asks for nothing and would have been suppressed with any other source. -/
  cooling_asks_nothing : ∀ before x later, run = before ++ x :: later →
    x.2.result = .coolingDown → x.2.asked = [] ∧
      ∀ other : Source, (r.after before).stepResult other x.1.now = .ok (.coolingDown, [])

/-- Every run keeps the cooldown, in whatever order its instants come. -/
theorem run_keepsCooldown {steps : List Step} {records : List StepRecord}
    (nonnegative : 0 ≤ r.cooldownSeconds) (h : r.run steps = .ok records) :
    records.length = steps.length ∧ r.KeepsCooldown (steps.zip records) := by
  have paced := run_paced h
  refine ⟨length_run h, ?_, ?_, ?_, ?_, ?_, ?_⟩
  · exact (List.pairwise_map.mp (paced.pairwise nonnegative)).imp fun apart hx hy =>
      apart ((fires_moment _).mpr hx) ((fires_moment _).mpr hy)
  · intro t stored x member triggers
    exact paced.after_stored nonnegative stored _ (List.mem_map_of_mem member)
      ((fires_moment x).mpr triggers)
  · exact fun before x later split => (run_step h split).2
  · intro before x later split quiet
    rw [(run_step h split).2, lastTrigger_concat, quiet]
    rfl
  · exact fun before x later split => coolingDown_iff (run_step h split).1
  · intro before x later split suppressed
    obtain ⟨step, -⟩ := run_step h split
    have silent := stepResult_of_coolsAt step ((coolingDown_iff step).mp suppressed)
    exact ⟨(Prod.mk.inj (Except.ok.inj (step.symm.trans (silent x.1.source)))).2, silent⟩

/-! ## A run whose clock goes backwards -/

/-- A rule with a cooldown of a minute that began at second 1000. -/
def minuteRule : Rule :=
  { tenantId := 1
    conditions := [⟨"load", .avg, .gt, 80⟩]
    logic := .all
    windowSeconds := 300
    cooldownSeconds := 60
    lastTriggeredAt := some ⟨1000, 0⟩ }

/-- A source that always gives the same answer. -/
def constantSource (answer : Except MetricError Float) : Source :=
  fun query asked => (answer, asked ++ [query])

/-- Steps around the ends of two cooldowns; in between the clock goes back and a lookup fails. -/
def minuteSteps : List Step :=
  [⟨⟨1060, 0⟩, constantSource (.ok 90)⟩, ⟨⟨1060, 1⟩, constantSource (.ok 90)⟩,
   ⟨⟨1000, 0⟩, constantSource (.ok 90)⟩, ⟨⟨1121, 0⟩, constantSource (.error ⟨"load", "down"⟩)⟩,
   ⟨⟨1120, 1⟩, constantSource (.ok 90)⟩, ⟨⟨1120, 2⟩, constantSource (.ok 90)⟩]

theorem run_keepsCooldown_minute :
    ∃ records, minuteRule.run minuteSteps = .ok records ∧
      records.map (fun x => x.result.triggers) = [false, true, false, false, false, true] ∧
      minuteRule.KeepsCooldown (minuteSteps.zip records) :=
  ⟨_, rfl, by decide, (run_keepsCooldown (by decide) rfl).2⟩

end AlertRelay.Rule
