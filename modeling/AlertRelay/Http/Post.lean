import AlertRelay.Http.Url
import AlertRelay.Signature.Basic

/-!
# Signed posts

A delivery is sent as one request that carries the exact body, its signature, the event type and
the number of the delivery. A request that cannot be formed is never sent: the address must read
and name a host, the event type must be a header value, the scheme must be one that requests are
sent to, and the address must fit into a request. The first of these that fails is reported. The
user of an address is not part of the address that is sent to and reported.

A request is given to an HTTP client, and an answer is the one that the client comes back with in
the end. The client may follow redirections on the way, and these further requests are its own; that
it never gives up on following them is assumed, for such a failure has a wording of its own.

## Main definitions

* `Message` — what is to be sent
* `Post` — the request as it is sent
* `Message.post` — the request of a message
* `SendError` — why sending failed
* `PostReply` — what the client comes back with
* `Post.outcome` — the status of an answer, or the failure
-/

namespace AlertRelay

/-- What is to be sent to a webhook. -/
structure Message where
  url : String
  secret : String
  eventType : String
  deliveryId : Int
  body : String

/-- A request as it is sent. -/
structure Post where
  url : Http.Url
  event : String
  delivery : String
  signature : String
  body : String
  deriving DecidableEq

/-- The content type of every body. -/
def Post.contentType : String := "application/json"

/-- The method of every request. -/
def Post.method : String := "POST"

/-- What the client comes back with: the status of the last answer, after all redirections that it
follows, or a broken connection, or nothing in time. -/
inductive PostReply where
  | status (code : Nat)
  | broken
  | silent
  deriving DecidableEq, Repr

/-- Why sending failed. -/
inductive SendError where
  | unformed
  | unsupported (url : Http.Url)
  | broken (url : Http.Url)
  | timedOut
  | status (code : Nat)
  deriving DecidableEq

/-- The wording of a failure. -/
def SendError.message : SendError → String
  | .unformed => "HTTP request failed: builder error"
  | .unsupported url => "HTTP request failed: builder error for url (" ++ url.text ++ ")"
  | .broken url => "HTTP request failed: error sending request for url (" ++ url.text ++ ")"
  | .timedOut => "Webhook timed out"
  | .status code => s!"Webhook returned HTTP {code}"

namespace Message

/-- A character that a header value may hold: no control but the tab. -/
def isHeaderChar (c : Char) : Bool := c == '\t' || (0x20 ≤ c.toNat && c.toNat != 0x7f)

/-- The request of a message, or why there is none. -/
def post (m : Message) : Except SendError Post :=
  match Http.Url.read m.url with
  | none => .error .unformed
  | some written =>
    let url := written.anonymous
    if !written.hasHost then .error (.unsupported written)
    else if !m.eventType.toList.all isHeaderChar then .error .unformed
    else if !url.isHttp || !url.isTarget then .error (.unsupported url)
    else
      .ok
        { url
          event := m.eventType
          delivery := toString m.deliveryId
          signature := Signature.header m.secret (Text.utf8 m.body)
          body := m.body }

end Message

namespace Post

/-- A status that counts as delivered. -/
def isSuccess (code : Nat) : Bool := 200 ≤ code && code < 300

/-- The status of the final answer, or the failure. -/
def outcome (p : Post) : PostReply → Except SendError Nat
  | .status code => if isSuccess code then .ok code else .error (.status code)
  | .broken => .error (.broken p.url)
  | .silent => .error .timedOut

theorem outcome_eq_ok_iff {p : Post} {r : PostReply} {code : Nat} :
    p.outcome r = .ok code ↔ r = .status code ∧ isSuccess code = true := by
  cases r with
  | status n =>
    by_cases h : isSuccess n = true
    · simp only [outcome, h, if_pos, Except.ok.injEq, PostReply.status.injEq]
      exact ⟨fun e => ⟨e, e ▸ h⟩, fun e => e.1⟩
    · simp only [outcome, h, PostReply.status.injEq]
      exact ⟨fun e => (nomatch e), fun e => absurd (e.1 ▸ e.2) h⟩
  | broken => simp [outcome]
  | silent => simp [outcome]

end Post

end AlertRelay
