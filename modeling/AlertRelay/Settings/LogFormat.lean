/-!
# Log formats

## Main definitions

* `LogFormat` — plain text or JSON
* `LogFormat.parse` — the format that a text names, in any ASCII case
-/

namespace AlertRelay

/-- How log lines are written. -/
inductive LogFormat where
  | text
  | json
  deriving DecidableEq, Repr

namespace LogFormat

/-- The name of a format. -/
def name : LogFormat → String
  | .text => "text"
  | .json => "json"

/-- The text with its ASCII capitals made small. -/
def lowered (s : String) : String := String.ofList (s.toList.map Char.toLower)

/-- The format that a text names, or the text as it was compared. -/
def parse (s : String) : Except String LogFormat :=
  if lowered s = "text" then .ok .text
  else if lowered s = "json" then .ok .json
  else .error (lowered s)

/-- The wording of an unknown format. -/
def unknownMessage (lowered : String) : String := s!"expected 'text' or 'json', got '{lowered}'"

end LogFormat

end AlertRelay
