import AlertRelay.Json.Basic
import AlertRelay.Time.Instant

/-!
# Stored values and database errors

What a statement binds to its parameters and what a row holds in its columns, and how a statement
may fail. A column that holds no value of its type counts as null.

## Main definitions

* `Value` — a bound parameter or a column
* `Row` — columns by name
* `DbError` — how a statement fails
* `Row.int`, `Row.text`, … — the typed columns of a row
-/

namespace AlertRelay

/-- A bound parameter or a column. -/
inductive Value where
  | null
  | int (i : Int)
  | float (x : Float)
  | text (s : String)
  | bool (b : Bool)
  | time (t : Instant)
  | json (j : Json)

/-- The columns of a row by name. -/
abbrev Row := List (String × Value)

/-- How a statement fails. -/
inductive DbError where
  | unreachable
  | refused (text : String)
  | noRows
  | nullColumn (name : String)
  | nullScalar
  deriving DecidableEq, Repr

/-- The wording of a failure. -/
def DbError.message : DbError → String
  | .unreachable =>
    "error communicating with database: Network is unreachable (os error 101)"
  | .refused text => "error returned from database: " ++ text
  | .noRows => "no rows returned by a query that expected to return at least one row"
  | .nullColumn name =>
    "error occurred while decoding column \"" ++ name ++
      "\": unexpected null; try decoding as an `Option`"
  | .nullScalar =>
    "error occurred while decoding column 0: unexpected null; try decoding as an `Option`"

namespace Value

/-- The integer of a column. -/
def int? : Value → Option Int
  | .int i => some i
  | _ => none

/-- The number of a column. -/
def float? : Value → Option Float
  | .float x => some x
  | .int i => some (Float.ofInt i)
  | _ => none

/-- The text of a column. -/
def text? : Value → Option String
  | .text s => some s
  | _ => none

/-- The truth value of a column. -/
def bool? : Value → Option Bool
  | .bool b => some b
  | _ => none

/-- The instant of a column. -/
def time? : Value → Option Instant
  | .time t => some t
  | _ => none

end Value

namespace Row

/-- The value of a column; an absent column is null. -/
def get (r : Row) (name : String) : Value := (List.lookup name r).getD .null

/-- A column that must hold a value of its type. -/
def required {α : Type} (read : Value → Option α) (r : Row) (name : String) : Except DbError α :=
  match read (r.get name) with
  | some a => .ok a
  | none => .error (.nullColumn name)

/-- An integer column. -/
def int : Row → String → Except DbError Int := required Value.int?

/-- A number column. -/
def float : Row → String → Except DbError Float := required Value.float?

/-- A text column. -/
def text : Row → String → Except DbError String := required Value.text?

/-- A truth value column. -/
def bool : Row → String → Except DbError Bool := required Value.bool?

/-- An instant column. -/
def time : Row → String → Except DbError Instant := required Value.time?

/-- A document column; null is the document null. -/
def json (r : Row) (name : String) : Json :=
  match r.get name with
  | .json j => j
  | _ => .null

/-- The only column of a row of one. -/
def scalar {α : Type} (read : Value → Option α) (r : Row) : Except DbError α :=
  match r with
  | (_, v) :: _ =>
    match read v with
    | some a => .ok a
    | none => .error .nullScalar
  | [] => .error .nullScalar

end Row

end AlertRelay
