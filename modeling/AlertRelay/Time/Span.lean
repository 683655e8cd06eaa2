/-!
# Spans of time

A span is a number of nanoseconds, at most `2^64` seconds less one nanosecond.

## Main definitions

* `Span` — the spans, ordered by length
* `Span.ofSeconds`, `Span.ofParts` — a span from seconds and nanoseconds
* `Span.times?` — a multiple, if it is still a span
-/

namespace AlertRelay

/-- A span of time in nanoseconds. -/
structure Span where
  nanos : Nat
  deriving DecidableEq, Repr

namespace Span

/-- Nanoseconds of the longest span. -/
def maxNanos : Nat := 0x1_0000_0000_0000_0000 * 1_000_000_000 - 1

/-- The span of whole seconds and nanoseconds. -/
def ofParts (seconds nanos : Nat) : Span := ⟨seconds * 1_000_000_000 + nanos⟩

/-- The span of whole seconds. -/
def ofSeconds (seconds : Nat) : Span := ofParts seconds 0

/-- The span of milliseconds. -/
def ofMillis (millis : Nat) : Span := ⟨millis * 1_000_000⟩

/-- The whole seconds. -/
def seconds (s : Span) : Nat := s.nanos / 1_000_000_000

/-- The nanoseconds beyond the whole seconds. -/
def subNanos (s : Span) : Nat := s.nanos % 1_000_000_000

/-- The seconds as a double: whole seconds plus the fraction, each rounded on its own. -/
def toSeconds (s : Span) : Float := Float.ofNat s.seconds + Float.ofNat s.subNanos / 1e9

instance : LE Span := ⟨fun a b => a.nanos ≤ b.nanos⟩

instance (a b : Span) : Decidable (a ≤ b) := inferInstanceAs (Decidable (a.nanos ≤ b.nanos))

instance : Min Span := ⟨fun a b => if a ≤ b then a else b⟩

instance : Max Span := ⟨fun a b => if a ≤ b then b else a⟩

/-- The span `factor` times as long, if it is not too long. -/
def times? (s : Span) (factor : Nat) : Option Span :=
  if s.nanos * factor ≤ maxNanos then some ⟨s.nanos * factor⟩ else none

theorem le_iff (a b : Span) : a ≤ b ↔ a.nanos ≤ b.nanos := Iff.rfl

theorem nanos_min (a b : Span) : (min a b).nanos = min a.nanos b.nanos := by
  show (if a ≤ b then a else b).nanos = _
  by_cases h : a ≤ b
  · rw [if_pos h]
    rw [le_iff] at h
    omega
  · rw [if_neg h]
    rw [le_iff] at h
    omega

theorem nanos_max (a b : Span) : (max a b).nanos = max a.nanos b.nanos := by
  show (if a ≤ b then b else a).nanos = _
  by_cases h : a ≤ b
  · rw [if_pos h]
    rw [le_iff] at h
    omega
  · rw [if_neg h]
    rw [le_iff] at h
    omega

end Span

end AlertRelay
