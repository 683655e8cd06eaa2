import AlertRelay.Routine.Basic

/-!
# Sending to webhooks

One attempt, one request. Whether and when to try again is decided elsewhere.

## Main definitions

* `Message.send` — sends a message, and gives the status of the answer
-/

namespace AlertRelay.Message

/-- Sends the message once; nothing is sent when its request cannot be formed. -/
def send (m : Message) : Routine (Except SendError Nat) :=
  match m.post with
  | .error e => pure (.error e)
  | .ok p => do return p.outcome (← Routine.send p)

end AlertRelay.Message
