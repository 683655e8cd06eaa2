import AlertRelay.Proofs.Scheduler.Tick

/-!
# Alerts that leave the range of instants

Two instants are computed for an alert before anything is looked up: the end of its cooldown, from
its last trigger, and the beginning of its window, from the present. The present is far from the
limits, so the window never leaves the range. The last trigger is whatever was stored. When it lies
within a cooldown of the last instant in range, the end of the cooldown does not exist, and the
whole tick is halted there: nothing is counted, and the alerts that follow are not visited.

## Main definitions

* `AlertRecord.IsStorable` — windows, cooldowns and last triggers as their columns hold them
* `AlertRecord.Overruns` — the end of the cooldown is out of range
* `Surroundings.ReadsPresent` — the clock reads instants from 1970 to the end of year 9999

## Main results

* `AlertRecord.process_run_of_overruns`, `AlertRecord.process_run_of_stays` — an alert that overruns
  halts its processing, and no other does
* `Scheduler.tick_accounts_iff` — a tick accounts for every alert exactly when none overruns, and is
  halted otherwise
-/

namespace AlertRelay

open MetricQuery

/-! ## The two computations -/

namespace Instant

theorem seconds_moved_of_pos (t : Instant) {n : Int} (forwards : 0 < n) :
    (t.moved n).seconds = t.seconds + n := by
  rw [moved]
  split <;> rfl

theorem le_seconds_moved_neg (t : Instant) (n : Int) :
    t.seconds - n ≤ (t.moved (-n)).seconds ∧ (t.moved (-n)).seconds ≤ t.seconds - n + 1 := by
  rw [moved]
  split
  · dsimp only
    omega
  · split
    · dsimp only
      omega
    · dsimp only
      omega

/-- The last second of year 9999. -/
def endOfYears : Int := 253402300799

end Instant

/-- The clock reads instants from 1970 to the end of year 9999. -/
def Surroundings.ReadsPresent (w : Surroundings) : Prop :=
  ∀ k, 0 ≤ (w.clock k).seconds ∧ (w.clock k).seconds ≤ Instant.endOfYears

theorem Surroundings.ReadsPresent.handle {w : Surroundings} (present : w.ReadsPresent)
    (e : Effect) : (w.handle e).2.ReadsPresent := by
  cases e with
  | now => exact fun k => present (k + 1)
  | post p =>
    rw [Surroundings.handle]
    split <;> exact present
  | _ => exact present

/-- Whatever runs leaves a clock that goes on so. -/
theorem Surroundings.ReadsPresent.run {α : Type} {w : Surroundings} (present : w.ReadsPresent)
    (r : Routine α) : (r.run w).rest.ReadsPresent := by
  induction r generalizing w with
  | done a => exact present
  | halt o => exact present
  | ask e next ih => exact ih _ (present.handle e)

namespace AlertRecord

variable {a : AlertRecord} {now : Instant} {source : MetricSource Routine} {w : Surroundings}

/-- Windows and cooldowns are positive numbers of 32 bits, and the last trigger, if there is one, is
an instant in range. -/
structure IsStorable (a : AlertRecord) : Prop where
  window : 0 < a.windowSeconds ∧ a.windowSeconds < 0x8000_0000
  cooldown : 0 < a.cooldownSeconds ∧ a.cooldownSeconds < 0x8000_0000
  stamp : ∀ last, a.lastTriggeredAt = some last →
    Instant.inRange last.seconds = true ∧ last.nanos < 2_000_000_000

/-- The alert decodes, and the end of its cooldown is out of range. -/
def Overruns (a : AlertRecord) : Prop :=
  ¬ a.IsMalformed ∧ ∃ last, a.lastTriggeredAt = some last ∧
    Instant.maxSeconds < last.seconds + a.cooldownSeconds

/-- The end of a cooldown is out of range in one direction only. -/
theorem later_of_storable (storable : a.IsStorable) {last : Instant}
    (stamped : a.lastTriggeredAt = some last) :
    last.later a.cooldownSeconds =
      if Instant.maxSeconds < last.seconds + a.cooldownSeconds then .error .forwards
      else .ok (last.moved a.cooldownSeconds) := by
  obtain ⟨within, -⟩ := storable.stamp last stamped
  have cooldown := storable.cooldown.1
  rw [Instant.inRange_iff] at within
  -- a positive cooldown only leads forwards, so the lower limit holds anyway
  simp only [Instant.later, Instant.seconds_moved_of_pos _ cooldown, Instant.inRange_iff]
  split
  · rw [if_neg (by omega)]
  · rw [if_pos (by omega)]

/-- A window that ends in the present begins in range. -/
theorem earlier_of_storable (storable : a.IsStorable)
    (present : 0 ≤ now.seconds ∧ now.seconds ≤ Instant.endOfYears) :
    now.earlier a.windowSeconds = .ok (now.moved (-a.windowSeconds)) := by
  have window := storable.window
  have reached := Instant.le_seconds_moved_neg now a.windowSeconds
  rw [Instant.earlier, if_pos]
  rw [Instant.inRange_iff]
  simp only [Instant.minSeconds, Instant.maxSeconds, Instant.endOfYears] at present ⊢
  omega

/-! ## One alert -/

/-- The gate of an alert that overruns is out of range, whenever it is consulted. -/
theorem isDue_of_overruns (storable : a.IsStorable) (overruns : a.Overruns) {rule : Rule}
    (decoded : a.rule = .ok rule) : rule.isDue now = .error .forwards := by
  obtain ⟨cooldown, stamp⟩ := cooldown_of_rule decoded
  obtain ⟨-, last, stamped, late⟩ := overruns
  rw [Rule.isDue, stamp, stamped]
  dsimp only
  rw [cooldown, later_of_storable storable stamped, if_pos late]
  rfl

/-- The gate of any other alert is in range. -/
theorem exists_isDue (now : Instant) (storable : a.IsStorable) (stays : ¬ a.Overruns) {rule : Rule}
    (decoded : a.rule = .ok rule) : ∃ due, rule.isDue now = .ok due := by
  obtain ⟨cooldown, stamp⟩ := cooldown_of_rule decoded
  rw [Rule.isDue, stamp]
  cases stamped : a.lastTriggeredAt with
  | none => exact ⟨true, rfl⟩
  | some last =>
    have formed : ¬ a.IsMalformed := by
      rw [isMalformed_iff, decoded]
      simp
    have early : ¬ Instant.maxSeconds < last.seconds + a.cooldownSeconds :=
      fun late => stays ⟨formed, last, stamped, late⟩
    dsimp only
    rw [cooldown, later_of_storable storable stamped, if_neg early]
    exact ⟨_, rfl⟩

/-- An alert that overruns halts its processing before anything is looked up. -/
theorem process_run_of_overruns (storable : a.IsStorable) (overruns : a.Overruns) :
    (a.process source now).run w = ⟨.error .forwards, [], w⟩ := by
  cases decoded : a.rule with
  | error e => exact absurd (isMalformed_iff.mpr ⟨e, decoded⟩) overruns.1
  | ok rule =>
    rw [process, decoded]
    simp only [Rule.evaluateIfDue, isDue_of_overruns storable overruns decoded]
    rfl

theorem windowSeconds_of_rule {rule : Rule} (decoded : a.rule = .ok rule) :
    rule.windowSeconds = a.windowSeconds := by
  rw [AlertRecord.rule] at decoded
  split at decoded
  · cases decoded
  · split at decoded
    · cases decoded
    · obtain rfl := Except.ok.inj decoded
      rfl

/-- Any other alert comes to an outcome, if its lookups come to an end. -/
theorem process_run_of_stays (completes : ∀ q, (source q).Completes) (storable : a.IsStorable)
    (stays : ¬ a.Overruns) (present : 0 ≤ now.seconds ∧ now.seconds ≤ Instant.endOfYears) :
    ∃ outcome, ((a.process source now).run w).result = .ok outcome := by
  have proceeds := process_run source a now w
  generalize (a.process source now).run w = run at proceeds
  cases proceeds with
  | malformed | cooling | quiet | fired => exact ⟨_, rfl⟩
  | overflowed decoded leaves =>
    obtain ⟨due, gated⟩ := exists_isDue now storable stays decoded
    rcases leaves with gate | ⟨-, window⟩
    · rw [gated] at gate
      cases gate
    · rw [windowSeconds_of_rule decoded, earlier_of_storable storable present] at window
      cases window
  | unmeasured starts stops =>
    obtain ⟨e, rfl⟩ := stops.exists_error completes
    exact ⟨_, rfl⟩

end AlertRecord

namespace Scheduler

variable {source : MetricSource Routine} {w : Surroundings} {alerts : List AlertRecord}

/-! ## The tick -/

/-- Alerts that do not overrun are all visited to an end. -/
theorem visits_isOk (completes : ∀ q, (source q).Completes) (present : w.ReadsPresent)
    (storable : ∀ a ∈ alerts, a.IsStorable) (stay : ∀ a ∈ alerts, ¬ a.Overruns) :
    ∀ v ∈ visits source w alerts, v.outcome.isOk = true := by
  induction alerts generalizing w with
  | nil => simp [visits]
  | cons a rest ih =>
    rw [List.forall_mem_cons] at storable stay
    -- whatever the visit does, the clock that it leaves goes on in the present
    obtain ⟨outcome, ended⟩ := AlertRecord.process_run_of_stays (w := (w.handle .now).2)
      completes storable.1 stay.1 (present 0)
    rw [visits, List.forall_mem_cons]
    refine ⟨?_, ih ((present.handle .now).run _) storable.2 stay.2⟩
    change ((a.process source (w.clock 0)).run (w.handle .now).2).result.isOk = true
    rw [ended]
    rfl

/-- Alerts are processed after one another, also in two parts. -/
theorem processAll_append (s : Summary) (before after : List AlertRecord) :
    processAll source s (before ++ after) =
      processAll source s before >>= fun s' => processAll source s' after := by
  induction before generalizing s with
  | nil => rfl
  | cons a rest ih =>
    simp only [List.cons_append, processAll, ih, LawfulMonad.bind_assoc]

theorem processAll_cons_run_of_overruns (source : MetricSource Routine) (w : Surroundings)
    (s : Summary) (after : List AlertRecord) {a : AlertRecord} (storable : a.IsStorable)
    (overruns : a.Overruns) :
    (processAll source s (a :: after)).run w =
      ⟨.error .forwards, [⟨.now, w.clock 0⟩], (w.handle .now).2⟩ := by
  have read : Routine.now.run w = ⟨.ok (w.handle .now).1, [⟨.now, w.clock 0⟩], (w.handle .now).2⟩ :=
    rfl
  have halted : (a.process source (w.handle .now).1).run (w.handle .now).2 =
      ⟨.error .forwards, [], (w.handle .now).2⟩ :=
    AlertRecord.process_run_of_overruns storable overruns
  rw [processAll, Routine.run_bind_of_ok read, Routine.run_bind_of_error halted]
  rfl

theorem processAll_run_of_overruns {before : List AlertRecord} {a : AlertRecord}
    (after : List AlertRecord) (s : Summary)
    (ended : ∀ v ∈ visits source w before, v.outcome.isOk = true) (storable : a.IsStorable)
    (overruns : a.Overruns) :
    ∃ trace, (processAll source s (before ++ a :: after)).run w =
        ⟨.error .forwards, trace, ((afterVisits source w before).handle .now).2⟩ ∧
      Action.statements trace = (visits source w before).flatMap Visit.statements := by
  obtain ⟨trace, ran, stated⟩ := processAll_run s ended
  refine ⟨trace ++ [⟨.now, (afterVisits source w before).clock 0⟩], ?_, ?_⟩
  · rw [processAll_append, Routine.run_bind_of_ok ran,
      processAll_cons_run_of_overruns source _ _ after storable overruns]
  · rw [Action.statements_append, stated]
    exact List.append_nil _

/-- Among alerts of which one overruns there is a first. -/
theorem exists_first_overrun (some_overruns : ∃ a ∈ alerts, a.Overruns) :
    ∃ before a after, alerts = before ++ a :: after ∧ (∀ b ∈ before, ¬ b.Overruns) ∧
      a.Overruns := by
  induction alerts with
  | nil => simp at some_overruns
  | cons a rest ih =>
    by_cases overruns : a.Overruns
    · exact ⟨[], a, rest, rfl, by simp, overruns⟩
    · obtain ⟨b, member, later⟩ := some_overruns
      rcases List.mem_cons.mp member with rfl | member
      · exact absurd later overruns
      · obtain ⟨before, c, after, rfl, stay, first⟩ := ih ⟨b, member, later⟩
        refine ⟨a :: before, c, after, rfl, ?_, first⟩
        rw [List.forall_mem_cons]
        exact ⟨overruns, stay⟩

/-- The first alert that overruns halts the tick: nothing is counted, and no later alert is visited.
-/
theorem tick_run_of_overruns (completes : ∀ q, (source q).Completes)
    (present : w.ReadsPresent) {listed : StoreReply} {before after : List AlertRecord}
    {a : AlertRecord} (read : listed.all AlertRecord.ofRow = .ok (before ++ a :: after))
    (storable : ∀ b ∈ before ++ a :: after, b.IsStorable) (stay : ∀ b ∈ before, ¬ b.Overruns)
    (overruns : a.Overruns) :
    ((tick source).run (w.replying listed)).result = .error .forwards ∧
      Action.statements ((tick source).run (w.replying listed)).trace =
        (.enabledAlerts, listed) :: (visits source w before).flatMap Visit.statements := by
  obtain ⟨trace, halted, stated⟩ := processAll_run_of_overruns after .empty (visits_isOk completes
    present (fun b member => storable b (List.mem_append_left _ member)) stay)
      (storable a (List.mem_append_right _ (.head _))) overruns
  rw [tick_run_eq read, Routine.run_bind_of_error halted]
  exact ⟨rfl, by rw [Action.statements_execute, stated]⟩

/-- A tick accounts for every alert exactly when none overruns. Otherwise the first that does halts
it, after what the alerts before it stated, and no other error of range ever does. -/
theorem tick_accounts_iff (source : MetricSource Routine) (completes : ∀ q, (source q).Completes)
    {w : Surroundings} (present : w.ReadsPresent) {listed : StoreReply} {alerts : List AlertRecord}
    (read : listed.all AlertRecord.ofRow = .ok alerts) (storable : ∀ a ∈ alerts, a.IsStorable) :
    ((∃ s : Summary, ((tick source).run (w.replying listed)).result = .ok (.ok s) ∧
        alerts.length = s.evaluated + s.errors + (visits source w alerts).countP Visit.cooled) ↔
      ∀ a ∈ alerts, ¬ a.Overruns) ∧
    ∀ before a after, alerts = before ++ a :: after → (∀ b ∈ before, ¬ b.Overruns) → a.Overruns →
      ((tick source).run (w.replying listed)).result = .error .forwards ∧
        Action.statements ((tick source).run (w.replying listed)).trace =
          (.enabledAlerts, listed) :: (visits source w before).flatMap Visit.statements := by
  refine ⟨⟨?_, fun stay => ?_⟩, ?_⟩
  · rintro ⟨s, ended, -⟩ a member overruns
    obtain ⟨before, b, after, rfl, stay, first⟩ := exists_first_overrun ⟨a, member, overruns⟩
    obtain ⟨halted, -⟩ := tick_run_of_overruns completes present read storable stay first
    rw [halted] at ended
    cases ended
  · have ended := visits_isOk completes present storable stay
    exact ⟨_, (tick_run read ended).1, length_eq_accounted ended⟩
  · rintro before a after rfl stay overruns
    exact tick_run_of_overruns completes present read storable stay overruns

/-- An alert with a cooldown of a minute and some last trigger. -/
def stampedAlert (last : Instant) : AlertRecord :=
  { AlertRecord.loadAlert with id := 8, lastTriggeredAt := some last }

theorem isStorable_loadAlert : AlertRecord.loadAlert.IsStorable :=
  ⟨by decide, by decide, fun _ stamped => by cases stamped⟩

theorem isStorable_stampedAlert {last : Instant} (within : Instant.inRange last.seconds = true)
    (ordinary : last.nanos < 2_000_000_000) : (stampedAlert last).IsStorable :=
  ⟨isStorable_loadAlert.window, isStorable_loadAlert.cooldown,
    fun _ stamped => Option.some.inj stamped ▸ ⟨within, ordinary⟩⟩

/-- A clock that stands in the present, and replies that have run out. -/
def idleStore : Surroundings := (AlertRecord.overloaded ⟨1000, 0⟩ []).surroundings

theorem readsPresent_idleStore : idleStore.ReadsPresent :=
  fun _ => show 0 ≤ (1000 : Int) ∧ (1000 : Int) ≤ Instant.endOfYears by decide

theorem tick_accounts_iff_stamped :
    let listed := StoreReply.rows ([stampedAlert ⟨8210266876739, 999999000⟩,
      AlertRecord.loadAlert].map AlertRecord.row)
    ∃ s : Summary, ((tick Routine.measure).run (idleStore.replying listed)).result = .ok (.ok s) ∧
      2 = s.evaluated + s.errors + (visits Routine.measure idleStore
        [stampedAlert ⟨8210266876739, 999999000⟩, AlertRecord.loadAlert]).countP Visit.cooled := by
  intro listed
  refine (tick_accounts_iff Routine.measure (fun _ => Routine.completes_effect _)
    readsPresent_idleStore (AlertRecord.all_rows _) ?_).1.mpr ?_
  · rw [List.forall_mem_cons, List.forall_mem_singleton]
    exact ⟨isStorable_stampedAlert (by decide) (by decide), isStorable_loadAlert⟩
  · rw [List.forall_mem_cons, List.forall_mem_singleton]
    constructor
    · rintro ⟨-, last, stamped, late⟩
      obtain rfl := Option.some.inj stamped
      exact absurd late (by decide)
    · rintro ⟨-, last, stamped, -⟩
      cases stamped

/-- One alert whose last trigger is the last microsecond in range halts the tick, and the alert
after it is not visited. -/
theorem tick_halted_by_stamp :
    let alerts := [stampedAlert ⟨8210266876799, 999999000⟩, AlertRecord.loadAlert]
    let listed := StoreReply.rows (alerts.map AlertRecord.row)
    let run := (tick Routine.measure).run (idleStore.replying listed)
    (∀ a ∈ alerts, a.IsStorable) ∧ idleStore.ReadsPresent ∧
      listed.all AlertRecord.ofRow = .ok alerts ∧ run.result = .error .forwards ∧
      Action.statements run.trace = [(.enabledAlerts, listed)] := by
  intro alerts listed run
  refine ⟨?_, readsPresent_idleStore, AlertRecord.all_rows alerts, rfl, rfl⟩
  rw [List.forall_mem_cons, List.forall_mem_singleton]
  exact ⟨isStorable_stampedAlert (by decide) (by decide), isStorable_loadAlert⟩

end Scheduler

end AlertRelay
