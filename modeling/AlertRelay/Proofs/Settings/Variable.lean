import AlertRelay.Proofs.Text.Numeral
import AlertRelay.Settings.Basic

/-!
# What a variable holds

A variable that is absent holds its default. One that is present holds what its trimmed text writes,
and if that is nothing of its type, the variable is misread.

## Main definitions

* `Settings.IntegerVariable` — a variable of some integer type, with its default
* `Settings.IntegerVariable.Holds`, `Settings.IntegerVariable.Misread` — what it holds, or why nothing
* `Settings.HoldsLogFormat`, `Settings.MisreadLogFormat` — the same of the log format

## Main results

* `Settings.IntegerVariable.Holds.within` — what is held is within the bounds of the type
* `Settings.IntegerVariable.integer_eq_ok_iff`, `Settings.IntegerVariable.integer_eq_error_iff` —
  reading a variable gives what it holds, or says why it holds nothing
-/

namespace AlertRelay.Settings

variable {vars : Variables} {e : SettingsError} {n m : Int} {k : Nat} {f : LogFormat}

/-- A variable of an integer type: its name, the bounds of the type, and what it holds when it is
absent. -/
structure IntegerVariable where
  key : String
  low : Int
  high : Int
  default : Int
  low_le_zero : low ≤ 0 := by decide
  zero_le_high : 0 ≤ high := by decide
  low_le_default : low ≤ default := by decide
  default_le_high : default ≤ high := by decide

namespace IntegerVariable

/-- The variable holds the number. -/
def Holds (v : IntegerVariable) (vars : Variables) (n : Int) : Prop :=
  (vars v.key = none ∧ n = v.default) ∨
    ∃ raw, vars v.key = some raw ∧ Text.Numeral v.low v.high (Text.trim raw) n

/-- The variable is present and holds no number; this is the error. -/
def Misread (v : IntegerVariable) (vars : Variables) (e : SettingsError) : Prop :=
  ∃ raw problem, vars v.key = some raw ∧ (∀ n, ¬ Text.Numeral v.low v.high (Text.trim raw) n) ∧
    Text.Misspelt v.low v.high (Text.trim raw) problem ∧ e = .invalid v.key raw (.integer problem)

/-- The variable holds a number that is not positive; this is the error. -/
def NotPositive (v : IntegerVariable) (vars : Variables) (e : SettingsError) : Prop :=
  ∃ n, v.Holds vars n ∧ n ≤ 0 ∧ e = .invalid v.key (toString n) .positive

variable {v : IntegerVariable}

theorem read_eq_ok_iff {s : String} :
    Text.readInteger v.low v.high s = .ok n ↔ Text.Numeral v.low v.high s n :=
  Text.readInteger_eq_ok_iff v.low_le_zero v.zero_le_high

/-- What is held is within the bounds of the type, and so is every default. -/
theorem Holds.within (holds : v.Holds vars n) : v.low ≤ n ∧ n ≤ v.high := by
  rcases holds with ⟨-, rfl⟩ | ⟨raw, -, low_le, le_high, -⟩
  · exact ⟨v.low_le_default, v.default_le_high⟩
  · exact ⟨low_le, le_high⟩

/-- A variable is read as what it holds. -/
theorem integer_eq_ok_iff :
    integer vars v.key v.low v.high v.default = .ok n ↔ v.Holds vars n := by
  rw [integer, Holds]
  cases vars v.key with
  | none => simp [eq_comm]
  | some raw =>
    simp only [reduceCtorEq, false_and, false_or, Option.some.injEq, exists_eq_left',
      ← read_eq_ok_iff]
    cases Text.readInteger v.low v.high (Text.trim raw) <;> simp

/-- A variable fails to read when it is misread. -/
theorem integer_eq_error_iff :
    integer vars v.key v.low v.high v.default = .error e ↔ v.Misread vars e := by
  rw [integer, Misread]
  cases vars v.key with
  | none => simp
  | some raw =>
    simp only [Option.some.injEq, ← read_eq_ok_iff, ← Text.readInteger_eq_error_iff]
    cases read : Text.readInteger v.low v.high (Text.trim raw) with
    | ok n => simp [read]
    | error problem => simp [read, eq_comm]

/-- A variable holds at most one number. -/
theorem Holds.unique (holds : v.Holds vars n) (other : v.Holds vars m) : n = m := by
  rw [← integer_eq_ok_iff] at holds other
  exact Except.ok.inj (holds.symm.trans other)

/-! ## The variables -/

/-- A variable that counts seconds. -/
def seconds (key : String) (default : Int) (not_negative : 0 ≤ default := by decide)
    (fits : default ≤ 0xFFFF_FFFF_FFFF_FFFF := by decide) : IntegerVariable :=
  { key, low := 0, high := 0xFFFF_FFFF_FFFF_FFFF, default,
    low_le_default := not_negative, default_le_high := fits }

def databaseMaxConnections : IntegerVariable :=
  { key := "DATABASE_MAX_CONNECTIONS", low := 0, high := 0xFFFF_FFFF, default := 20 }

def alertTickSecs : IntegerVariable := seconds "ALERT_TICK_SECS" 30

def deliveryTickSecs : IntegerVariable := seconds "DELIVERY_TICK_SECS" 5

def deliveryBatchSize : IntegerVariable :=
  { key := "DELIVERY_BATCH_SIZE", low := -0x8000_0000_0000_0000, high := 0x7FFF_FFFF_FFFF_FFFF,
    default := 10 }

def deliveryTimeoutSecs : IntegerVariable := seconds "DELIVERY_TIMEOUT_SECS" 10

def deliveryBackoffBaseSecs : IntegerVariable := seconds "DELIVERY_BACKOFF_BASE_SECS" 30

def deliveryBackoffMaxSecs : IntegerVariable := seconds "DELIVERY_BACKOFF_MAX_SECS" 3600

def deliveryStaleAfterSecs : IntegerVariable := seconds "DELIVERY_STALE_AFTER_SECS" 300

def shutdownTimeoutSecs : IntegerVariable := seconds "SHUTDOWN_TIMEOUT_SECS" 30

/-- Seconds are read as what their variable holds. -/
theorem secondsOf_eq_ok_iff {key : String} {default : Int} {not_negative : 0 ≤ default}
    {fits : default ≤ 0xFFFF_FFFF_FFFF_FFFF} :
    secondsOf vars key default = .ok k ↔ (seconds key default not_negative fits).Holds vars k := by
  have read (n : Int) : integer vars key 0 0xFFFF_FFFF_FFFF_FFFF default = .ok n ↔
      (seconds key default not_negative fits).Holds vars n :=
    integer_eq_ok_iff (v := seconds key default not_negative fits)
  rw [secondsOf, Text.map_eq_ok_iff]
  constructor
  · rintro ⟨n, held, rfl⟩
    have holds := (read n).mp held
    have natural : 0 ≤ n := holds.within.1
    rw [Int.toNat_of_nonneg natural]
    exact holds
  · exact fun holds => ⟨k, (read k).mpr holds, Int.toNat_natCast k⟩

theorem secondsOf_eq_error_iff {key : String} {default : Int} {not_negative : 0 ≤ default}
    {fits : default ≤ 0xFFFF_FFFF_FFFF_FFFF} :
    secondsOf vars key default = .error e ↔
      (seconds key default not_negative fits).Misread vars e := by
  rw [← integer_eq_error_iff, secondsOf]
  cases read : integer vars key 0 0xFFFF_FFFF_FFFF_FFFF default <;>
    simp [seconds, read, Except.map]

end IntegerVariable

/-! ## The log format -/

/-- The variable holds the log format, named in any case. -/
def HoldsLogFormat (vars : Variables) (f : LogFormat) : Prop :=
  (vars "LOG_FORMAT" = none ∧ f = .text) ∨
    ∃ raw, vars "LOG_FORMAT" = some raw ∧ LogFormat.lowered (Text.trim raw) = f.name

/-- The variable is present and names no log format; this is the error. -/
def MisreadLogFormat (vars : Variables) (e : SettingsError) : Prop :=
  ∃ raw, vars "LOG_FORMAT" = some raw ∧
    (∀ f : LogFormat, LogFormat.lowered (Text.trim raw) ≠ f.name) ∧
    e = .invalid "LOG_FORMAT" raw (.logFormat (LogFormat.lowered (Text.trim raw)))

/-- A text is read as the format that it names. -/
theorem parse_eq_ok_iff {s : String} : LogFormat.parse s = .ok f ↔ LogFormat.lowered s = f.name := by
  rw [LogFormat.parse]
  by_cases text : LogFormat.lowered s = "text"
  · cases f <;> simp [text, LogFormat.name]
  · by_cases json : LogFormat.lowered s = "json"
    · cases f <;> simp [json, LogFormat.name]
    · cases f <;> simp [text, json, LogFormat.name]

/-- A text that names no format is given back as it was compared. -/
theorem parse_eq_error_iff {s lowered : String} : LogFormat.parse s = .error lowered ↔
    (∀ f : LogFormat, LogFormat.lowered s ≠ f.name) ∧ LogFormat.lowered s = lowered := by
  have names : (∀ f : LogFormat, LogFormat.lowered s ≠ f.name) ↔
      LogFormat.lowered s ≠ "text" ∧ LogFormat.lowered s ≠ "json" :=
    ⟨fun other => ⟨other .text, other .json⟩, fun other f => f.rec other.1 other.2⟩
  rw [names, LogFormat.parse]
  by_cases text : LogFormat.lowered s = "text"
  · simp [text]
  · by_cases json : LogFormat.lowered s = "json" <;> simp [text, json]

theorem logFormatOf_eq_ok_iff : logFormatOf vars = .ok f ↔ HoldsLogFormat vars f := by
  rw [logFormatOf, HoldsLogFormat]
  cases vars "LOG_FORMAT" with
  | none => simp [eq_comm]
  | some raw =>
    simp only [reduceCtorEq, false_and, false_or, Option.some.injEq, exists_eq_left',
      ← parse_eq_ok_iff]
    cases LogFormat.parse (Text.trim raw) <;> simp

theorem logFormatOf_eq_error_iff : logFormatOf vars = .error e ↔ MisreadLogFormat vars e := by
  rw [logFormatOf, MisreadLogFormat]
  cases vars "LOG_FORMAT" with
  | none => simp
  | some raw =>
    simp only [Option.some.injEq, exists_eq_left']
    cases read : LogFormat.parse (Text.trim raw) with
    | ok f =>
      exact iff_of_false (fun failed => nomatch failed) fun ⟨unnamed, _⟩ =>
        unnamed f (parse_eq_ok_iff.mp read)
    | error lowered =>
      obtain ⟨unnamed, rfl⟩ := parse_eq_error_iff.mp read
      simp [unnamed, eq_comm (a := e)]

end AlertRelay.Settings
