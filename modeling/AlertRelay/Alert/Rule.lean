import AlertRelay.Alert.Condition
import AlertRelay.Alert.Logic
import AlertRelay.Alert.Problem
import AlertRelay.Time.Instant

/-!
# Alert rules

The part of an alert that evaluation needs, and the cooldown gate: an alert that has fired is due
again strictly after its cooldown has passed.

## Main definitions

* `Rule` — the rule of an alert
* `Rule.isDue` — the alert is out of its cooldown
* `Rule.CoolsAt` — its cooldown is running
* `Logic.parse` — the logic of a text, or why there is none

## Main results

* `isDue_eq_true_iff` — due means that no cooldown is running
-/

namespace AlertRelay

/-- What evaluation needs of an alert. -/
structure Rule where
  tenantId : Int
  conditions : List Condition
  logic : Logic
  windowSeconds : Int
  cooldownSeconds : Int
  lastTriggeredAt : Option Instant
  deriving DecidableEq

/-- The logic that a text denotes. -/
def Logic.parse (s : String) : Except DomainError Logic :=
  match Logic.ofName? s with
  | some l => .ok l
  | none => .error (.invalid (.unknownLogic s))

namespace Rule

/-- The alert has never fired, or `now` is later than its last trigger plus the cooldown. -/
def isDue (r : Rule) (now : Instant) : Except Instant.Overflow Bool :=
  match r.lastTriggeredAt with
  | none => .ok true
  | some last => (last.later r.cooldownSeconds).map fun ready => decide (ready < now)

/-- The cooldown of the rule has not passed at `now`. -/
def CoolsAt (r : Rule) (now : Instant) : Prop :=
  ∃ last, r.lastTriggeredAt = some last ∧ now ≤ last.moved r.cooldownSeconds

/-- A rule is due when no cooldown is running. -/
theorem isDue_eq_true_iff {r : Rule} {now : Instant} {due : Bool} (h : r.isDue now = .ok due) :
    due = true ↔ ¬ r.CoolsAt now := by
  unfold isDue at h
  split at h
  case h_1 never =>
    obtain rfl := Except.ok.inj h
    simp [CoolsAt, never]
  case h_2 last fired =>
    cases moved : last.later r.cooldownSeconds with
    | error o => simp [moved, Except.map] at h
    | ok ready =>
      obtain ⟨-, rfl⟩ := Instant.later_eq_ok_iff.1 moved
      simp only [moved, Except.map, Except.ok.injEq] at h
      subst h
      simp [CoolsAt, fired, ← Instant.not_lt]

end Rule

end AlertRelay
