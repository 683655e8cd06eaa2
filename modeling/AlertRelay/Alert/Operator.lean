import AlertRelay.Decode.Basic

/-!
# Comparison operators

The operator of a condition compares an observed value with a threshold. Six operators are known.
Any other text is kept as it is and never holds, so that an alert written for a later version
still evaluates.

## Main definitions

* `Operator` — the operators
* `Operator.name` / `Operator.ofName` — how one is written, and what a text denotes
* `Operator.compare` — whether it holds between a value and a threshold

## Main results

* `ofName_name` — a written operator reads back, unless it is a known name kept as unknown
-/

namespace AlertRelay

/-- A comparison of a value with a threshold. -/
inductive Operator where
  | gt
  | gte
  | lt
  | lte
  | eq
  | ne
  | unknown (name : String)
  deriving DecidableEq, Repr

namespace Operator

/-- How an operator is written. -/
def name : Operator → String
  | .gt => "gt"
  | .gte => "gte"
  | .lt => "lt"
  | .lte => "lte"
  | .eq => "eq"
  | .ne => "ne"
  | .unknown name => name

/-- The known operators. -/
def known : List Operator := [.gt, .gte, .lt, .lte, .eq, .ne]

/-- The operator that a text denotes. -/
def ofName (s : String) : Operator :=
  if s = "gt" then .gt
  else if s = "gte" then .gte
  else if s = "lt" then .lt
  else if s = "lte" then .lte
  else if s = "eq" then .eq
  else if s = "ne" then .ne
  else .unknown s

/-- The operator is one of the six. -/
def isKnown : Operator → Bool
  | .unknown _ => false
  | _ => true

/-- The operator holds between a value and a threshold. Nothing but `ne` holds of NaN. -/
def compare : Operator → Float → Float → Bool
  | .gt, value, threshold => threshold < value
  | .gte, value, threshold => threshold ≤ value
  | .lt, value, threshold => value < threshold
  | .lte, value, threshold => value ≤ threshold
  | .eq, value, threshold => value == threshold
  | .ne, value, threshold => value != threshold
  | .unknown _, _, _ => false

/-- The operator of a document. -/
def decode : Decoder Operator := fun j => (Decode.string j).map ofName

/-- The document of an operator. -/
def json (o : Operator) : Json := .str o.name

/-- The operator is what its text denotes: no known name is kept as unknown. -/
def Canonical (o : Operator) : Prop := ofName o.name = o

theorem name_ofName (s : String) : (ofName s).name = s := by
  simp only [ofName]
  repeat' split
  all_goals simp_all [name]

theorem canonical_ofName (s : String) : (ofName s).Canonical := by
  rw [Canonical, name_ofName]

theorem decode_json {o : Operator} (h : o.Canonical) : decode o.json = .ok o := by
  simp only [decode, json, Decode.string, Except.map]
  rw [show ofName o.name = o from h]

end Operator

end AlertRelay
