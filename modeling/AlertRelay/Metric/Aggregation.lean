import AlertRelay.Decode.Basic

/-!
# Aggregations

How the samples of a metric inside a time window are reduced to one number.

## Main definitions

* `Aggregation` — the reductions
* `Aggregation.name` — how one is written
* `Aggregation.decode` — reading it from a document
-/

namespace AlertRelay

/-- A reduction of samples to one number. -/
inductive Aggregation where
  | avg
  | sum
  | min
  | max
  | count
  deriving DecidableEq, Repr

namespace Aggregation

/-- How an aggregation is written. -/
def name : Aggregation → String
  | .avg => "avg"
  | .sum => "sum"
  | .min => "min"
  | .max => "max"
  | .count => "count"

/-- All aggregations. -/
def all : List Aggregation := [.avg, .sum, .min, .max, .count]

/-- The aggregations by name. -/
def variants : List (String × Aggregation) := all.map fun a => (a.name, a)

/-- The aggregation of a document. -/
def decode : Decoder Aggregation := Decode.variant variants

/-- The document of an aggregation. -/
def json (a : Aggregation) : Json := .str a.name

theorem decode_json (a : Aggregation) : decode a.json = .ok a := by
  cases a <;> rfl

end Aggregation

end AlertRelay
