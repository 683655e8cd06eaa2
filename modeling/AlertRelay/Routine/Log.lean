/-!
# Log entries

## Main definitions

* `LogLevel` — the levels
* `LogEntry` — a message with named fields
-/

namespace AlertRelay

/-- How serious a log entry is. -/
inductive LogLevel where
  | debug
  | info
  | warn
  | error
  deriving DecidableEq, Repr

/-- How a level is written. -/
def LogLevel.name : LogLevel → String
  | .debug => "DEBUG"
  | .info => "INFO"
  | .warn => "WARN"
  | .error => "ERROR"

/-- A message with named fields. -/
structure LogEntry where
  level : LogLevel
  message : String
  fields : List (String × String)
  deriving DecidableEq, Repr

/-- A field that holds a whole number. -/
def LogEntry.number (name : String) (value : Int) : String × String := (name, toString value)

end AlertRelay
