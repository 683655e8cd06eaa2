import AlertRelay.Proofs.Checks.First
import AlertRelay.Proofs.Delivery.Backoff
import AlertRelay.Proofs.Settings.Variable

/-!
# Loading the settings

Settings are loaded exactly from the variables that are safe: the address of the database is given,
every other variable that is present can be read, and the values fit together. Otherwise the first
check that the variables violate is reported.

The time that a whole batch may take is compared as it is held in 64 bits. The threshold that it is
compared with fits in 64 bits too, so a product that does not fit is never below it, and the
comparison decides as that of the exact product.

## Main definitions

* `Settings.Draft.HeldBy` — the values that the variables hold
* `Settings.Draft.IsSafe` — the values fit together
* `Settings.HasValues` — settings made of the values
* `Settings.readingChecks`, `Settings.valueChecks` — the checks on the variables, in order

## Main results

* `Settings.read_eq_ok_iff`, `Settings.read_eq_error_iff` — reading the variables
* `Settings.violation_eq_some_iff` — checking their values
* `Settings.load_accepts` — loading the settings
-/

namespace AlertRelay

namespace Settings

open IntegerVariable

variable {vars : Variables} {d : Draft} {e : SettingsError} {s : Settings} {url : String}

/-! ## The values -/

/-- The address of the database is given and not blank. -/
def HoldsUrl (vars : Variables) (url : String) : Prop :=
  vars "DATABASE_URL" = some url ∧ ¬ Text.Blank url

/-- The variables hold the values. -/
structure Draft.HeldBy (d : Draft) (vars : Variables) : Prop where
  databaseUrl : HoldsUrl vars d.databaseUrl
  maxConnections : databaseMaxConnections.Holds vars d.maxConnections
  alertTick : alertTickSecs.Holds vars d.alertTick
  deliveryTick : deliveryTickSecs.Holds vars d.deliveryTick
  batchSize : deliveryBatchSize.Holds vars d.batchSize
  timeout : deliveryTimeoutSecs.Holds vars d.timeout
  backoffBase : deliveryBackoffBaseSecs.Holds vars d.backoffBase
  backoffMax : deliveryBackoffMaxSecs.Holds vars d.backoffMax
  staleAfter : deliveryStaleAfterSecs.Holds vars d.staleAfter
  shutdownTimeout : shutdownTimeoutSecs.Holds vars d.shutdownTimeout
  logFormat : HoldsLogFormat vars d.logFormat

/-- The values fit together. -/
structure Draft.IsSafe (d : Draft) : Prop where
  maxConnections : 0 < d.maxConnections
  alertTick : 0 < d.alertTick
  deliveryTick : 0 < d.deliveryTick
  timeout : 0 < d.timeout
  batchSize : 0 < d.batchSize
  backoff : d.backoffBase ≤ d.backoffMax
  stale : d.timeout * d.batchSize < d.staleAfter

/-- The settings hold the values, each in its field. -/
structure HasValues (s : Settings) (d : Draft) : Prop where
  databaseUrl : s.databaseUrl = d.databaseUrl
  maxConnections : s.maxConnections = d.maxConnections
  alertTick : s.alertTick = Span.ofSeconds d.alertTick
  deliveryTick : s.delivery.tickInterval = Span.ofSeconds d.deliveryTick
  batchSize : s.delivery.batchSize = d.batchSize
  timeout : s.delivery.requestTimeout = Span.ofSeconds d.timeout
  backoffBase : s.delivery.retryPolicy.base = Span.ofSeconds d.backoffBase
  backoffMax : s.delivery.retryPolicy.max = Span.ofSeconds d.backoffMax
  staleAfter : s.delivery.staleAfter = Span.ofSeconds d.staleAfter
  shutdownTimeout : s.shutdownTimeout = Span.ofSeconds d.shutdownTimeout
  logFormat : s.logFormat = d.logFormat

/-! ## The checks -/

/-- The address of the database is not given, or blank. -/
def MissingUrl (vars : Variables) (e : SettingsError) : Prop :=
  (∀ url, ¬ HoldsUrl vars url) ∧ e = .missing "DATABASE_URL"

/-- The first delay is above the greatest. -/
def AboveCeiling (vars : Variables) (e : SettingsError) : Prop :=
  ∃ base ceiling, deliveryBackoffBaseSecs.Holds vars base ∧
    deliveryBackoffMaxSecs.Holds vars ceiling ∧ ceiling < base ∧
    e = .invalid "DELIVERY_BACKOFF_BASE_SECS" (toString base) .withinCeiling

/-- A claim goes stale no later than a batch may take. -/
def StaleTooSoon (vars : Variables) (e : SettingsError) : Prop :=
  ∃ t b stale, deliveryTimeoutSecs.Holds vars t ∧ deliveryBatchSize.Holds vars b ∧
    deliveryStaleAfterSecs.Holds vars stale ∧ stale ≤ t * b ∧
    e = .invalid "DELIVERY_STALE_AFTER_SECS" (toString stale) .beyondBatch

/-- What is checked while the variables are read. -/
def readingChecks (vars : Variables) : List (SettingsError → Prop) :=
  [MissingUrl vars,
   databaseMaxConnections.Misread vars,
   alertTickSecs.Misread vars,
   deliveryTickSecs.Misread vars,
   deliveryBatchSize.Misread vars,
   deliveryTimeoutSecs.Misread vars,
   deliveryBackoffBaseSecs.Misread vars,
   deliveryBackoffMaxSecs.Misread vars,
   deliveryStaleAfterSecs.Misread vars,
   shutdownTimeoutSecs.Misread vars,
   MisreadLogFormat vars]

/-- What is checked of their values. -/
def valueChecks (vars : Variables) : List (SettingsError → Prop) :=
  [databaseMaxConnections.NotPositive vars,
   alertTickSecs.NotPositive vars,
   deliveryTickSecs.NotPositive vars,
   deliveryTimeoutSecs.NotPositive vars,
   deliveryBatchSize.NotPositive vars,
   AboveCeiling vars,
   StaleTooSoon vars]

/-! ## Reading the variables -/

theorem databaseUrlOf_eq_ok_iff : databaseUrlOf vars = .ok url ↔ HoldsUrl vars url := by
  rw [databaseUrlOf, HoldsUrl, ← Text.allBlank_iff]
  cases vars "DATABASE_URL" with
  | none => simp
  | some given =>
    by_cases blank : Text.allBlank given = true
    · simp only [blank, if_true, reduceCtorEq, Option.some.injEq, false_iff]
      rintro ⟨rfl, present⟩
      exact present blank
    · simp only [blank, Bool.false_eq_true, if_false, Except.ok.injEq, Option.some.injEq]
      exact ⟨fun same => ⟨same, same ▸ blank⟩, And.left⟩

theorem databaseUrlOf_eq_error_iff : databaseUrlOf vars = .error e ↔ MissingUrl vars e := by
  simp only [MissingUrl, ← databaseUrlOf_eq_ok_iff]
  rw [databaseUrlOf]
  cases vars "DATABASE_URL" with
  | none => simp [eq_comm]
  | some given => by_cases blank : Text.allBlank given = true <;> simp [blank, eq_comm]

/-- The variables are read as the values that they hold. -/
theorem read_eq_ok_iff : read vars = .ok d ↔ d.HeldBy vars := by
  have connections (n : Int) : integer vars "DATABASE_MAX_CONNECTIONS" 0 0xFFFF_FFFF 20 = .ok n ↔
      databaseMaxConnections.Holds vars n := integer_eq_ok_iff (v := databaseMaxConnections)
  have batch (n : Int) :
      integer vars "DELIVERY_BATCH_SIZE" (-0x8000_0000_0000_0000) 0x7FFF_FFFF_FFFF_FFFF 10 = .ok n ↔
        deliveryBatchSize.Holds vars n := integer_eq_ok_iff (v := deliveryBatchSize)
  simp only [read, Checks.bind_eq_ok_iff, databaseUrlOf_eq_ok_iff, connections, batch,
    logFormatOf_eq_ok_iff]
  constructor
  · rintro ⟨url, given, n, connections, k₁, alert, k₂, delivery, b, batch, k₃, limit, k₄, base, k₅,
      ceiling, k₆, stale, k₇, shutdown, f, format, ⟨⟩⟩
    -- the connections are read as an integer and kept as a natural number
    have natural : 0 ≤ n := connections.within.1
    exact
      { databaseUrl := given
        maxConnections := (Int.toNat_of_nonneg natural).symm ▸ connections
        alertTick := secondsOf_eq_ok_iff.mp alert
        deliveryTick := secondsOf_eq_ok_iff.mp delivery
        batchSize := batch
        timeout := secondsOf_eq_ok_iff.mp limit
        backoffBase := secondsOf_eq_ok_iff.mp base
        backoffMax := secondsOf_eq_ok_iff.mp ceiling
        staleAfter := secondsOf_eq_ok_iff.mp stale
        shutdownTimeout := secondsOf_eq_ok_iff.mp shutdown
        logFormat := format }
  · intro held
    exact ⟨_, held.databaseUrl, _, held.maxConnections, _, secondsOf_eq_ok_iff.mpr held.alertTick,
      _, secondsOf_eq_ok_iff.mpr held.deliveryTick, _, held.batchSize,
      _, secondsOf_eq_ok_iff.mpr held.timeout, _, secondsOf_eq_ok_iff.mpr held.backoffBase,
      _, secondsOf_eq_ok_iff.mpr held.backoffMax, _, secondsOf_eq_ok_iff.mpr held.staleAfter,
      _, secondsOf_eq_ok_iff.mpr held.shutdownTimeout, _, held.logFormat, rfl⟩

/-- Reading fails with the first variable that cannot be read. -/
theorem read_eq_error_iff : read vars = .error e ↔ Checks.First (readingChecks vars) e := by
  -- one check for each variable, in the order in which they are read
  refine Checks.bind_eq_error_iff (fun _ => databaseUrlOf_eq_error_iff) fun _ _ => ?_
  refine Checks.bind_eq_error_iff
    (fun _ => integer_eq_error_iff (v := databaseMaxConnections)) fun _ _ => ?_
  refine Checks.bind_eq_error_iff (fun _ => secondsOf_eq_error_iff) fun _ _ => ?_
  refine Checks.bind_eq_error_iff (fun _ => secondsOf_eq_error_iff) fun _ _ => ?_
  refine Checks.bind_eq_error_iff
    (fun _ => integer_eq_error_iff (v := deliveryBatchSize)) fun _ _ => ?_
  refine Checks.bind_eq_error_iff (fun _ => secondsOf_eq_error_iff) fun _ _ => ?_
  refine Checks.bind_eq_error_iff (fun _ => secondsOf_eq_error_iff) fun _ _ => ?_
  refine Checks.bind_eq_error_iff (fun _ => secondsOf_eq_error_iff) fun _ _ => ?_
  refine Checks.bind_eq_error_iff (fun _ => secondsOf_eq_error_iff) fun _ _ => ?_
  refine Checks.bind_eq_error_iff (fun _ => secondsOf_eq_error_iff) fun _ _ => ?_
  refine Checks.bind_eq_error_iff (fun _ => logFormatOf_eq_error_iff) fun _ _ => ?_
  exact iff_of_false (fun failed => nomatch failed) Checks.not_first_nil

/-! ## Checking the values -/

theorem broken_eq_some_iff {holds : Bool} {key value : String} {rule : SettingsRule} :
    broken holds key value rule = some e ↔ holds = false ∧ e = .invalid key value rule := by
  cases holds <;> simp [broken, eq_comm]

/-- A number that must be positive. -/
theorem broken_positive_iff {v : IntegerVariable} {n : Int} (held : v.Holds vars n) :
    broken (0 < n) v.key (toString n) .positive = some e ↔ v.NotPositive vars e := by
  rw [broken_eq_some_iff, decide_eq_false_iff_not, Int.not_lt]
  constructor
  · rintro ⟨low, reported⟩
    exact ⟨n, held, low, reported⟩
  · rintro ⟨m, other, low, reported⟩
    obtain rfl := held.unique other
    exact ⟨low, reported⟩

/-- The same of a natural number. -/
theorem broken_positive_nat_iff {v : IntegerVariable} {k : Nat} (held : v.Holds vars k) :
    broken (0 < k) v.key (toString k) .positive = some e ↔ v.NotPositive vars e := by
  rw [← broken_positive_iff held, decide_eq_decide.mpr (Int.natCast_pos (n := k))]
  rfl

theorem broken_ceiling_iff (held : d.HeldBy vars) :
    broken (d.backoffBase ≤ d.backoffMax) "DELIVERY_BACKOFF_BASE_SECS" (toString d.backoffBase)
      .withinCeiling = some e ↔ AboveCeiling vars e := by
  rw [broken_eq_some_iff, decide_eq_false_iff_not, Nat.not_le]
  constructor
  · rintro ⟨above, reported⟩
    exact ⟨_, _, held.backoffBase, held.backoffMax, Int.ofNat_lt.mpr above, reported⟩
  · rintro ⟨base, ceiling, base_held, ceiling_held, above, reported⟩
    obtain rfl := held.backoffBase.unique base_held
    obtain rfl := held.backoffMax.unique ceiling_held
    exact ⟨Int.ofNat_lt.mp above, reported⟩

/-- The time of a batch as it is held compares with a threshold of 64 bits as the exact product. -/
theorem worstCase_lt_iff (positive : 0 < d.batchSize)
    (fits : d.staleAfter ≤ 0xFFFF_FFFF_FFFF_FFFF) :
    d.worstCase < d.staleAfter ↔ d.timeout * d.batchSize < d.staleAfter := by
  have size : (d.batchSize.natAbs : Int) = d.batchSize :=
    Int.natAbs_of_nonneg (Int.le_of_lt positive)
  have product : d.timeout * d.batchSize = ((d.timeout * d.batchSize.natAbs : Nat) : Int) := by
    rw [Int.natCast_mul, size]
  rw [product, Draft.worstCase]
  -- a product that is cut off is beyond the threshold, cut off or not
  omega

theorem broken_stale_iff (held : d.HeldBy vars) (positive : 0 < d.batchSize) :
    broken (d.worstCase < d.staleAfter) "DELIVERY_STALE_AFTER_SECS" (toString d.staleAfter)
      .beyondBatch = some e ↔ StaleTooSoon vars e := by
  have fits : d.staleAfter ≤ 0xFFFF_FFFF_FFFF_FFFF := Int.ofNat_le.mp held.staleAfter.within.2
  rw [broken_eq_some_iff, decide_eq_false_iff_not, worstCase_lt_iff positive fits, Int.not_lt]
  constructor
  · rintro ⟨soon, reported⟩
    exact ⟨_, _, _, held.timeout, held.batchSize, held.staleAfter, soon, reported⟩
  · rintro ⟨t, b, stale, timeout_held, batch_held, stale_held, soon, reported⟩
    obtain rfl := held.timeout.unique timeout_held
    obtain rfl := held.batchSize.unique batch_held
    obtain rfl := held.staleAfter.unique stale_held
    exact ⟨soon, reported⟩

/-- The values are checked in order, and the first violated check is reported. -/
theorem violation_eq_some_iff (held : d.HeldBy vars) :
    d.checks.findSome? id = some e ↔ Checks.First (valueChecks vars) e := by
  refine Checks.findSome?_cons_iff (fun _ => broken_positive_nat_iff held.maxConnections) fun _ => ?_
  refine Checks.findSome?_cons_iff (fun _ => broken_positive_nat_iff held.alertTick) fun _ => ?_
  refine Checks.findSome?_cons_iff (fun _ => broken_positive_nat_iff held.deliveryTick) fun _ => ?_
  refine Checks.findSome?_cons_iff (fun _ => broken_positive_nat_iff held.timeout) fun _ => ?_
  refine Checks.findSome?_cons_iff (fun _ => broken_positive_iff held.batchSize) fun passed => ?_
  -- only a positive batch size is the same with and without its sign
  have positive : 0 < d.batchSize := by
    by_contra low
    exact absurd passed (by simp [broken, low])
  refine Checks.findSome?_cons_iff (fun _ => broken_ceiling_iff held) fun _ => ?_
  refine Checks.findSome?_cons_iff (fun _ => broken_stale_iff held positive) fun _ => ?_
  exact iff_of_false (fun found => nomatch found) Checks.not_first_nil

theorem broken_eq_none_iff {holds : Bool} {key value : String} {rule : SettingsRule} :
    broken holds key value rule = none ↔ holds = true := by
  cases holds <;> simp [broken]

/-- Values pass every check exactly when they fit together. -/
theorem violation_eq_none_iff (held : d.HeldBy vars) :
    d.checks.findSome? id = none ↔ d.IsSafe := by
  have fits : d.staleAfter ≤ 0xFFFF_FFFF_FFFF_FFFF := Int.ofNat_le.mp held.staleAfter.within.2
  simp only [List.findSome?_eq_none_iff, Draft.checks, List.forall_mem_cons, id_eq,
    broken_eq_none_iff, decide_eq_true_eq, List.not_mem_nil, false_imp_iff, implies_true, and_true]
  constructor
  · rintro ⟨connections, alert, delivery, limit, batch, backoff, stale⟩
    exact ⟨connections, alert, delivery, limit, batch, backoff,
      (worstCase_lt_iff batch fits).mp stale⟩
  · rintro ⟨connections, alert, delivery, limit, batch, backoff, stale⟩
    exact ⟨connections, alert, delivery, limit, batch, backoff,
      (worstCase_lt_iff batch fits).mpr stale⟩

/-- Settings are determined by their values. -/
theorem HasValues.unique {s' : Settings} (values : s.HasValues d) (others : s'.HasValues d) :
    s = s' := by
  obtain ⟨url, connections, alert, ⟨delivery, batch, limit, ⟨base, ceiling, _⟩, stale⟩, shutdown,
    format⟩ := s
  obtain ⟨url', connections', alert', ⟨delivery', batch', limit', ⟨base', ceiling', _⟩, stale'⟩,
    shutdown', format'⟩ := s'
  obtain ⟨⟨⟩, ⟨⟩, ⟨⟩, ⟨⟩, ⟨⟩, ⟨⟩, ⟨⟩, ⟨⟩, ⟨⟩, ⟨⟩, ⟨⟩⟩ := values
  obtain ⟨⟨⟩, ⟨⟩, ⟨⟩, ⟨⟩, ⟨⟩, ⟨⟩, ⟨⟩, ⟨⟩, ⟨⟩, ⟨⟩, ⟨⟩⟩ := others
  rfl

theorem ofSeconds_le_ofSeconds {short long : Nat} (le : short ≤ long) :
    Span.ofSeconds short ≤ Span.ofSeconds long := by
  rw [Span.le_iff]
  exact Nat.add_le_add_right (Nat.mul_le_mul_right _ le) 0

/-- A ceiling that is no shorter than the base is kept. -/
theorem max_of_eq {base ceiling : Span} (le : base ≤ ceiling) :
    (RetryPolicy.of base ceiling).max = ceiling := by
  have same : (RetryPolicy.of base ceiling).max.nanos = ceiling.nanos := by
    rw [RetryPolicy.nanos_max_of]
    exact Nat.max_eq_right le
  exact congrArg Span.mk same

/-- Settings are made of values that fit together; no ceiling has to be raised. -/
theorem hasValues_settings (safe : d.IsSafe) : d.settings.HasValues d where
  databaseUrl := rfl
  maxConnections := rfl
  alertTick := rfl
  deliveryTick := rfl
  batchSize := rfl
  timeout := rfl
  backoffBase := rfl
  backoffMax := max_of_eq (ofSeconds_le_ofSeconds safe.backoff)
  staleAfter := rfl
  shutdownTimeout := rfl
  logFormat := rfl

/-! ## Loading -/

/-- Values that were read and pass the checks become the settings. -/
theorem load_eq_ok_iff : load vars = .ok s ↔
    ∃ d, read vars = .ok d ∧ d.checks.findSome? id = none ∧ d.settings = s := by
  rw [load, Checks.bind_eq_ok_iff]
  refine exists_congr fun d => and_congr_right fun _ => ?_
  cases d.checks.findSome? id <;> simp

/-- Settings are loaded from the safe variables alone, and hold their values. From all others, the
first violated check is reported. -/
theorem load_accepts (vars : Variables) :
    (∀ s, load vars = .ok s ↔ ∃ d : Draft, d.HeldBy vars ∧ d.IsSafe ∧ s.HasValues d) ∧
      ∀ e, load vars = .error e ↔ Checks.First (readingChecks vars ++ valueChecks vars) e := by
  refine ⟨fun s => ?_, fun e => ?_⟩
  · rw [load_eq_ok_iff]
    constructor
    · rintro ⟨d, read, passed, rfl⟩
      have held := read_eq_ok_iff.mp read
      have safe := (violation_eq_none_iff held).mp passed
      exact ⟨d, held, safe, hasValues_settings safe⟩
    · rintro ⟨d, held, safe, values⟩
      exact ⟨d, read_eq_ok_iff.mpr held, (violation_eq_none_iff held).mpr safe,
        (hasValues_settings safe).unique values⟩
  · -- the values are checked once all variables have been read
    refine Checks.bind_eq_error_iff_append (fun _ => read_eq_error_iff) fun d read => ?_
    rw [← violation_eq_some_iff (read_eq_ok_iff.mp read)]
    cases d.checks.findSome? id <;> simp

end Settings

end AlertRelay
