import AlertRelay.Decode.Basic

/-!
# Notification channels

A channel says where an alert is announced. Webhooks are the only supported kind; a document of any
other kind denotes an unsupported channel, whatever else it holds.

## Main definitions

* `Channel` — the channels
* `Channel.decode` / `Channel.json` — reading one from a document and writing it
-/

namespace AlertRelay

/-- A notification target. -/
inductive Channel where
  | webhook (id : Int)
  | unsupported
  deriving DecidableEq, Repr

namespace Channel

/-- The kind of a channel. -/
def kind : Channel → String
  | .webhook _ => "webhook"
  | .unsupported => "unsupported"

/-- The kind that a document names. -/
def tag : Decoder String
  | .str s => .ok s
  | j => Decode.wrongType j "variant identifier"

/-- A channel of the named kind whose contents are the fields of an object. -/
def ofFields (kind : String) (fields : List (String × Json)) : Except Decode.Error Channel :=
  if kind = "webhook" then
    match Json.lookup "webhook_id" fields with
    | none => .error (.missingField "webhook_id")
    | some j => (Decode.integer 64 j).map .webhook
  else .ok .unsupported

/-- A channel of the named kind whose contents are the items of an array. -/
def ofItems (kind : String) (items : List Json) : Except Decode.Error Channel :=
  if kind = "webhook" then
    match items with
    | [] => .error (.invalidLength 0 "struct variant Channel::Webhook with 1 element")
    | j :: more =>
      match Decode.integer 64 j with
      | .error e => .error e
      | .ok id =>
        if more.isEmpty then .ok (.webhook id)
        else .error (.invalidLength items.length "1 element in sequence")
  else if items.isEmpty then .ok .unsupported
  else .error (.invalidLength items.length "0 elements in sequence")

/-- The channel of a document: an object with its kind under `type`, or an array that begins with
the kind. -/
def decode : Decoder Channel
  | .obj fields =>
    match Json.lookup "type" fields with
    | none => .error (.missingField "type")
    | some j => (tag j).bind (ofFields · fields)
  | .arr [] => .error (.missingField "type")
  | .arr (j :: items) => (tag j).bind (ofItems · items)
  | j => Decode.wrongType j "internally tagged enum Channel"

/-- The document of a channel. -/
def json : Channel → Json
  | .webhook id => .obj [("type", .str "webhook"), ("webhook_id", .int id)]
  | .unsupported => .obj [("type", .str "unsupported")]

/-- The document of a list of channels. -/
def listJson (cs : List Channel) : Json := .arr (cs.map json)

/-- An object of any other kind is an unsupported channel. -/
theorem decode_of_other_kind {fields : List (String × Json)} {kind : String}
    (htype : Json.lookup "type" fields = some (.str kind)) (hkind : kind ≠ "webhook") :
    decode (.obj fields) = .ok .unsupported := by
  simp [decode, htype, tag, Except.bind, ofFields, hkind]

end Channel

end AlertRelay
