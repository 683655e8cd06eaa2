import AlertRelay.Decode.Basic

/-!
# Condition logic

How the results of an alert's conditions are combined. No results never trigger.

## Main definitions

* `Logic` — all conditions, or any
* `Logic.combine` — the combined result
* `Logic.ofName?` — the logic that a text denotes
-/

namespace AlertRelay

/-- How condition results are combined. -/
inductive Logic where
  | all
  | any
  deriving DecidableEq, Repr

namespace Logic

/-- How a logic is written. -/
def name : Logic → String
  | .all => "AND"
  | .any => "OR"

/-- The logics by name. -/
def variants : List (String × Logic) := [("AND", .all), ("OR", .any)]

/-- The logic that a text denotes. -/
def ofName? (s : String) : Option Logic := variants.lookup s

/-- The combined result; without results it is false. -/
def combine (l : Logic) (results : List Bool) : Bool :=
  if results.isEmpty then false
  else
    match l with
    | .all => results.all id
    | .any => results.any id

/-- The logic of a document. -/
def decode : Decoder Logic := Decode.variant variants

/-- The document of a logic. -/
def json (l : Logic) : Json := .str l.name

theorem ofName?_name (l : Logic) : ofName? l.name = some l := by
  cases l <;> rfl

theorem combine_all_iff (results : List Bool) :
    Logic.all.combine results = true ↔ results ≠ [] ∧ ∀ r ∈ results, r = true := by
  cases results <;> simp [combine]

theorem combine_any_iff (results : List Bool) :
    Logic.any.combine results = true ↔ ∃ r ∈ results, r = true := by
  cases results <;> simp [combine]

end Logic

end AlertRelay
