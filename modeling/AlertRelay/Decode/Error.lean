import AlertRelay.Json.Printer
import AlertRelay.Text.Quoted
import AlertRelay.Time.TimestampReader

/-!
# Why a document does not decode

A JSON document may fail to be the value that was expected of it. The error names what was found,
what was expected, or which part is missing.

## Main definitions

* `Decode.Found` — what a message says of an offending value
* `Decode.Error` — the causes
* `Decode.Error.message` — their wording
-/

namespace AlertRelay.Decode

/-- An offending value as far as a message names it. -/
inductive Found where
  | null
  | bool (b : Bool)
  | int (i : Int)
  | double (x : Float)
  | str (s : String)
  | seq
  | map
  deriving DecidableEq

/-- What a message says of a value. -/
def Found.ofJson : Json → Found
  | .null => .null
  | .bool b => .bool b
  | .int i => .int i
  | .double x => .double x
  | .str s => .str s
  | .arr _ => .seq
  | .obj _ => .map

/-- The wording of an offending value. -/
def Found.text : Found → String
  | .null => "null"
  | .bool true => "boolean `true`"
  | .bool false => "boolean `false`"
  | .int i => s!"integer `{i}`"
  | .double x => "floating point `" ++ Decimal.floatText Json.numberLayout x ++ "`"
  | .str s => "string " ++ Text.quoted s
  | .seq => "sequence"
  | .map => "map"

/-- Why a document does not decode. -/
inductive Error where
  | invalidType (found : Found) (expected : String)
  | invalidValue (found : Found) (expected : String)
  | invalidLength (length : Nat) (expected : String)
  | missingField (name : String)
  | unknownVariant (name : String) (known : List String)
  | timestamp (problem : Timestamp.Problem)
  deriving DecidableEq

/-- A name between backticks. -/
def ticked (s : String) : String := "`" ++ s ++ "`"

/-- The names that a variant may have. -/
def alternatives : List String → String
  | [] => "there are no variants"
  | [a] => "expected " ++ ticked a
  | [a, b] => "expected " ++ ticked a ++ " or " ++ ticked b
  | names => "expected one of " ++ ", ".intercalate (names.map ticked)

/-- The wording of an error. -/
def Error.message : Error → String
  | .invalidType found expected => s!"invalid type: {found.text}, expected {expected}"
  | .invalidValue found expected => s!"invalid value: {found.text}, expected {expected}"
  | .invalidLength length expected => s!"invalid length {length}, expected {expected}"
  | .missingField name => "missing field " ++ ticked name
  | .unknownVariant name known => s!"unknown variant {ticked name}, {alternatives known}"
  | .timestamp problem => problem.message

end AlertRelay.Decode
