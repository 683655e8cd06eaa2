/-!
# Reading integers

An integer is read from a text of digits with an optional sign, within bounds. A minus sign is
read only where the bounds admit negative numbers. The first thing that does not fit decides the
problem: a character that is no digit, or a digit that leaves the bounds.

## Main definitions

* `Text.IntegerProblem` — why a text is no integer within the bounds
* `Text.readInteger` — the integer that a text writes
-/

namespace AlertRelay.Text

/-- Why a text is no integer within the bounds. -/
inductive IntegerProblem where
  | empty
  | invalidDigit
  | tooLarge
  | tooSmall
  deriving DecidableEq, Repr

/-- The wording of a problem. -/
def IntegerProblem.message : IntegerProblem → String
  | .empty => "cannot parse integer from empty string"
  | .invalidDigit => "invalid digit found in string"
  | .tooLarge => "number too large to fit in target type"
  | .tooSmall => "number too small to fit in target type"

/-- The digits read on from a magnitude, up to the greatest one allowed. -/
def readMagnitude (limit : Nat) (beyond : IntegerProblem) :
    Nat → List Char → Except IntegerProblem Nat
  | n, [] => .ok n
  | n, c :: r =>
    if c.isDigit then
      let next := n * 10 + (c.toNat - 48)
      if next ≤ limit then readMagnitude limit beyond next r else .error beyond
    else .error .invalidDigit

/-- At least one digit. -/
def readDigits (limit : Nat) (beyond : IntegerProblem) (cs : List Char) :
    Except IntegerProblem Nat :=
  if cs.isEmpty then .error .invalidDigit else readMagnitude limit beyond 0 cs

/-- The integer that a text writes, between `low` and `high`. -/
def readInteger (low high : Int) (s : String) : Except IntegerProblem Int :=
  match s.toList with
  | [] => .error .empty
  | '+' :: r => (readDigits high.toNat .tooLarge r).map fun n : Nat => (n : Int)
  | '-' :: r =>
    if low < 0 then (readDigits (-low).toNat .tooSmall r).map fun n : Nat => -(n : Int)
    else .error .invalidDigit
  | cs => (readDigits high.toNat .tooLarge cs).map fun n : Nat => (n : Int)

end AlertRelay.Text
