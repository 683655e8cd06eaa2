import AlertRelay.Event.Announcement
import AlertRelay.Proofs.Json.Sorted
import AlertRelay.Proofs.Time.Timestamp

/-!
# Events read back from what is queued

An event is queued as a document of four fields, sorted like everything that is stored. Decoding the
document gives the event back: its type, its tenant and its time, however far from the present that
lies, and its data with the fields in the order of storage. Data that went through storage before is
in that order, so an event that carries it reads back as it was. This holds of every announcement,
whatever its alert and its trigger.

## Main definitions

* `TenantEvent.IsRepresentable` — the tenant is a 64-bit number and the time an ordinary instant
* `TenantEvent.ReadsBack` — decoding what is queued gives the event
* `Trigger.IsToldBy` — an event tells of the trigger of an alert

## Main results

* `TenantEvent.decode_payload` — what is queued for an event decodes to the event
* `TenantEvent.payload_readsBack` — every event and every announcement reads back
-/

namespace AlertRelay

/-- An instant reads back from its document. -/
theorem Decode.instant_json {t : Instant} (ordinary : t.IsOrdinary) :
    Decode.instant t.json = .ok t := by
  rw [Instant.json, Decode.instant, Timestamp.read_text ordinary]

/-- A number that fits reads back from its document. -/
theorem Decode.integer_int {bits : Nat} {i : Int} (fits : Decode.fitsBits bits i = true) :
    Decode.integer bits (.int i) = .ok i := by
  rw [Decode.integer, if_pos fits]

namespace TenantEvent

variable {e : TenantEvent}

/-- The tenant of the event is a number of 64 bits, and its time an ordinary instant. -/
structure IsRepresentable (e : TenantEvent) : Prop where
  tenantId : Decode.fitsBits 64 e.tenantId = true
  timestamp : e.timestamp.IsOrdinary

/-- Decoding what is queued for the event gives the event. -/
structure ReadsBack (e : TenantEvent) : Prop where
  /-- The fields of the data come back in the order of storage. -/
  decoded : decode e.payload = .ok { e with data := e.data.sorted }
  /-- Data that is in that order comes back as it was, and so does the whole event. -/
  decoded_iff : decode e.payload = .ok e ↔ e.data.sorted = e.data

/-- What is queued lists its four fields in the order of their keys. -/
theorem payload_eq (e : TenantEvent) :
    e.payload = .obj [("data", e.data.sorted), ("tenant_id", .int e.tenantId),
      ("timestamp", e.timestamp.json), ("type", .str e.eventType)] := by
  simp only [payload, json, Json.sorted, Json.sortedFields, Json.insertNew, Json.insertField,
    Json.lookup, Instant.json, String.reduceLT, String.reduceEq, reduceIte]

/-- What is queued for an event decodes to the event. -/
theorem decode_payload (representable : e.IsRepresentable) :
    decode e.payload = .ok { e with data := e.data.sorted } := by
  have tenant := Decode.integer_int representable.tenantId
  have time := Decode.instant_json representable.timestamp
  -- no field is refused, and then each is found under its name
  have accepted : Decode.firstFailure? rules
      [("data", e.data.sorted), ("tenant_id", .int e.tenantId), ("timestamp", e.timestamp.json),
        ("type", .str e.eventType)] = none := by
    simp [Decode.firstFailure?, rules, List.lookup_cons, Decode.failure?, Decode.string,
      Decode.value, tenant, time]
  rw [payload_eq, decode, Decode.record, accepted]
  simp [build, Decode.Fields.required, Decode.Fields.ofObject, Json.lookup, Decode.string,
    Decode.value, tenant, time, bind, Except.bind, pure, Except.pure]

theorem IsRepresentable.readsBack (representable : e.IsRepresentable) : e.ReadsBack where
  decoded := decode_payload representable
  decoded_iff := by
    rw [decode_payload representable]
    constructor
    · intro same
      exact congrArg data (Except.ok.inj same)
    · intro stored
      rw [stored]

end TenantEvent

/-! ## Announcements -/

/-- The event tells of the trigger of an alert: which alert it was, by which record, when, and why.
-/
structure Trigger.IsToldBy (t : Trigger) (a : AlertRecord) (e : TenantEvent) : Prop where
  eventType : e.eventType = "alert.triggered"
  tenantId : e.tenantId = a.tenantId
  timestamp : e.timestamp = t.triggeredAt
  /-- The data holds nothing but what is told of the alert and of its record. -/
  data : e.data = .obj
    [("alert", .obj [("id", .int a.id), ("name", .str a.name), ("severity", .str a.severity)]),
     ("history", .obj [("id", .ofOption .int t.historyId), ("metadata", t.metadata.sorted),
       ("triggered_at", t.triggeredAt.json)])]
  /-- The metadata is told as it was stored. -/
  metadata : t.metadata.sorted = t.metadata →
    (e.data.field? "history").bind (·.field? "metadata") = some t.metadata
  /-- The time reads back from the data too. -/
  triggeredAt : Decode.instant t.triggeredAt.json = .ok t.triggeredAt

/-- The data of an announcement is in the order of storage. -/
theorem Trigger.data_event (t : Trigger) (a : AlertRecord) :
    (t.event a).data = .obj
      [("alert", .obj [("id", .int a.id), ("name", .str a.name), ("severity", .str a.severity)]),
       ("history", .obj [("id", .ofOption .int t.historyId), ("metadata", t.metadata.sorted),
         ("triggered_at", t.triggeredAt.json)])] := by
  have id : (Json.ofOption .int t.historyId).sorted = .ofOption .int t.historyId := by
    cases t.historyId <;> rfl
  simp only [event, Json.sorted, Json.sortedFields, Json.insertNew, Json.insertField, Json.lookup,
    id, Instant.json, String.reduceLT, String.reduceEq, reduceIte]

theorem Trigger.sorted_data_event (t : Trigger) (a : AlertRecord) :
    (t.event a).data.sorted = (t.event a).data :=
  Json.sorted_sorted _

theorem Trigger.isToldBy_event {t : Trigger} (a : AlertRecord)
    (ordinary : t.triggeredAt.IsOrdinary) : t.IsToldBy a (t.event a) where
  eventType := rfl
  tenantId := rfl
  timestamp := rfl
  data := t.data_event a
  metadata stored := by
    rw [t.data_event a, stored]
    rfl
  triggeredAt := Decode.instant_json ordinary

namespace TenantEvent

/-- Every event reads back from what is queued for it, and every announcement reads back as an event
that tells of its alert and its trigger. -/
theorem payload_readsBack :
    (∀ e : TenantEvent, e.IsRepresentable → e.ReadsBack) ∧
      ∀ (t : Trigger) (a : AlertRecord), Decode.fitsBits 64 a.tenantId = true →
        t.triggeredAt.IsOrdinary →
        ∃ e, decode (t.event a).payload = .ok e ∧ t.IsToldBy a e := by
  constructor
  · exact fun e representable => representable.readsBack
  · intro t a tenant ordinary
    have representable : (t.event a).IsRepresentable := ⟨tenant, ordinary⟩
    have decoded : decode (t.event a).payload = .ok (t.event a) :=
      representable.readsBack.decoded_iff.mpr (t.sorted_data_event a)
    exact ⟨t.event a, decoded, Trigger.isToldBy_event a ordinary⟩

/-- An event of the first moment that is told in nanoseconds, with data out of order. -/
def firstMoment : TenantEvent :=
  { eventType := "report.ready"
    tenantId := -0x8000_0000_0000_0000
    data := .obj [("pages", .arr [.int 3, .null]), ("of", .obj [])]
    timestamp := ⟨Instant.minSeconds, 1⟩ }

/-- A trigger in the last moment, without a record. -/
def lastTrigger : Trigger := ⟨none, ⟨Instant.maxSeconds, 999_999_999⟩, .obj [("met", .bool true)]⟩

/-- The alert that it is a trigger of. -/
def lastAlert : AlertRecord :=
  { id := 8, tenantId := 0x7FFF_FFFF_FFFF_FFFF, name := "load", conditions := .arr [],
    conditionLogic := "AND", windowSeconds := 300, cooldownSeconds := 60, severity := "critical",
    channels := .arr [], enabled := true, lastTriggeredAt := none,
    createdAt := ⟨0, 0⟩, updatedAt := ⟨0, 0⟩ }

/-- The first moment and the last one read back. -/
theorem payload_readsBack_farthest :
    (firstMoment.IsRepresentable ∧ firstMoment.ReadsBack) ∧
      Decode.fitsBits 64 lastAlert.tenantId = true ∧ lastTrigger.triggeredAt.IsOrdinary ∧
      ∃ e, decode (lastTrigger.event lastAlert).payload = .ok e ∧
        lastTrigger.IsToldBy lastAlert e := by
  have representable : firstMoment.IsRepresentable := ⟨by decide, by decide, by decide⟩
  have tenant : Decode.fitsBits 64 lastAlert.tenantId = true := by decide
  have ordinary : lastTrigger.triggeredAt.IsOrdinary := ⟨by decide, by decide⟩
  exact ⟨⟨representable, payload_readsBack.1 firstMoment representable⟩, tenant, ordinary,
    payload_readsBack.2 lastTrigger lastAlert tenant ordinary⟩

end TenantEvent

end AlertRelay
