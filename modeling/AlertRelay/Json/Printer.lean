import AlertRelay.Decimal.Layout
import AlertRelay.Json.Basic

/-!
# JSON text

The compact text of a JSON value: no blanks, fields in the order of the value, characters outside
ASCII as they are. In strings the quote, the backslash and the control characters below U+0020 are
escaped.

## Main definitions

* `Json.numberLayout` — when a double is written positionally
* `Json.escapeChar` — one character inside a string
* `Json.text` — the compact text
-/

namespace AlertRelay.Json

/-- Doubles from `0.00001` up to below `10^16` are written positionally. -/
def numberLayout : Decimal.Layout := ⟨-5, 15⟩

/-- The four hexadecimal digits of a control character's code point. -/
def hexFour (n : Nat) : List Char :=
  let ds := Nat.toDigits 16 n
  List.replicate (4 - ds.length) '0' ++ ds

/-- One character inside a string. -/
def escapeChar (c : Char) : List Char :=
  match c with
  | '"' => ['\\', '"']
  | '\\' => ['\\', '\\']
  | '\x08' => ['\\', 'b']
  | '\t' => ['\\', 't']
  | '\n' => ['\\', 'n']
  | '\x0c' => ['\\', 'f']
  | '\r' => ['\\', 'r']
  | c => if c.toNat < 0x20 then '\\' :: 'u' :: hexFour c.toNat else [c]

/-- A string between quotes. -/
def stringText (s : String) : String :=
  "\"" ++ String.ofList (s.toList.flatMap escapeChar) ++ "\""

mutual

/-- The compact text of a value. -/
def text : Json → String
  | .null => "null"
  | .bool true => "true"
  | .bool false => "false"
  | .int i => toString i
  | .double x => if x.isFinite then Decimal.floatText numberLayout x else "null"
  | .str s => stringText s
  | .arr items => "[" ++ ",".intercalate (itemTexts items) ++ "]"
  | .obj fields => "\x7b" ++ ",".intercalate (fieldTexts fields) ++ "\x7d"

/-- The texts of the items. -/
def itemTexts : List Json → List String
  | [] => []
  | v :: r => text v :: itemTexts r

/-- The texts of the fields, each with its key. -/
def fieldTexts : List (String × Json) → List String
  | [] => []
  | (k, v) :: r => (stringText k ++ ":" ++ text v) :: fieldTexts r

end

end AlertRelay.Json
