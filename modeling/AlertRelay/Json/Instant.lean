import AlertRelay.Json.Basic
import AlertRelay.Time.Timestamp

/-!
# Instants in documents

## Main definitions

* `Instant.json` — an instant as the string of its timestamp
-/

namespace AlertRelay

/-- The document of an instant. -/
def Instant.json (t : Instant) : Json := .str (Timestamp.text t)

end AlertRelay
