import AlertRelay.Alert.Problem
import AlertRelay.Decode.Basic

/-!
# Delivery status

A queued delivery is pending until a worker claims it, processing while it is claimed, and then
delivered, failed, or pending again. Delivered and failed are final.

## Main definitions

* `DeliveryStatus` — the statuses
* `DeliveryStatus.parse` — the status of a text, or why there is none
-/

namespace AlertRelay

/-- The status of a queued delivery. -/
inductive DeliveryStatus where
  | pending
  | processing
  | delivered
  | failed
  deriving DecidableEq, Repr

namespace DeliveryStatus

/-- How a status is written. -/
def name : DeliveryStatus → String
  | .pending => "pending"
  | .processing => "processing"
  | .delivered => "delivered"
  | .failed => "failed"

/-- Nothing moves a delivery out of a terminal status. -/
def isTerminal : DeliveryStatus → Bool
  | .delivered | .failed => true
  | _ => false

/-- The statuses by name. -/
def variants : List (String × DeliveryStatus) :=
  [.pending, .processing, .delivered, .failed].map fun s => (s.name, s)

/-- The status that a text denotes. -/
def parse (s : String) : Except DomainError DeliveryStatus :=
  match variants.lookup s with
  | some status => .ok status
  | none => .error (.invalid (.unknownDeliveryStatus s))

/-- The status of a document. -/
def decode : Decoder DeliveryStatus := Decode.variant variants

/-- The document of a status. -/
def json (s : DeliveryStatus) : Json := .str s.name

theorem parse_name (s : DeliveryStatus) : parse s.name = .ok s := by
  cases s <;> rfl

end DeliveryStatus

end AlertRelay
