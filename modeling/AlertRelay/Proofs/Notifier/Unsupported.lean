import AlertRelay.Proofs.Notifier.FanOut
import AlertRelay.Proofs.Routine.ReportsMore

/-!
# Channels of other kinds

A channel of a later version is an object of a kind that is not known, whatever else it holds. Put
in among the webhooks of an alert, anywhere and in any number, such objects leave the webhooks as
they are: each decodes to an unsupported channel at its place, the same statements are run on the
same replies, and an announcement reports exactly these failures more. A list of documents of both
sorts is one way of putting them in, and the alert without them has the webhooks of that list only.

## Main definitions

* `ChannelDoc` — the document of a webhook, or an object of another kind
* `AlertRecord.onChannels` — an alert with such documents for its channels
* `AlertRecord.Reports` — the failures that an announcement reports, of how many channels
* `AlertRecord.TakesOthers` — what becomes of an alert into which other channels were put

## Main results

* `AlertRecord.decodedChannels_onChannels` — such documents decode
* `AlertRecord.dispatchAll_reportsMore` — unsupported channels are reported and nothing else
* `AlertRecord.notify_takesOthers` — no channel of another kind matters to the webhooks
-/

namespace AlertRelay

/-! ## Documents -/

/-- A document among the channels of an alert: an object of the kind `webhook` that names one, or an
object of any other kind. Whatever other fields it has is left open. -/
inductive ChannelDoc where
  | webhook (fields : List (String × Json)) (id : Int)
      (tagged : Json.lookup "type" fields = some (.str "webhook"))
      (named : (Json.lookup "webhook_id" fields).map (Decode.integer 64) = some (.ok id))
  | other (fields : List (String × Json)) (kind : String)
      (tagged : Json.lookup "type" fields = some (.str kind)) (unknown : kind ≠ "webhook")

namespace ChannelDoc

/-- The object. -/
def json : ChannelDoc → Json
  | .webhook fields _ _ _ => .obj fields
  | .other fields _ _ _ => .obj fields

/-- The channel that it denotes. -/
def channel : ChannelDoc → Channel
  | .webhook _ id _ _ => .webhook id
  | .other _ _ _ _ => .unsupported

/-- Whether it is of a kind that is not known. -/
def isOther : ChannelDoc → Bool
  | .webhook _ _ _ _ => false
  | .other _ _ _ _ => true

/-- The documents without those of other kinds. -/
def webhooks (docs : List ChannelDoc) : List ChannelDoc := docs.filter (!·.isOther)

/-- How many documents are of other kinds. -/
def others (docs : List ChannelDoc) : Nat := docs.countP (·.isOther)

theorem decode_json (doc : ChannelDoc) : Channel.decode doc.json = .ok doc.channel := by
  cases doc with
  | webhook fields id tagged named =>
    obtain ⟨j, found, read⟩ := Option.map_eq_some_iff.mp named
    simp [json, channel, Channel.decode, tagged, Channel.tag, Except.bind, Channel.ofFields, found,
      read, Except.map]
  | other fields kind tagged unknown => exact Channel.decode_of_other_kind tagged unknown

/-- Without the documents of other kinds there are the same channels but those not supported. -/
theorem map_channel_webhooks (docs : List ChannelDoc) :
    (webhooks docs).map (·.channel) = (docs.map (·.channel)).filter (· ≠ .unsupported) := by
  rw [webhooks, List.filter_map]
  refine congrArg _ (List.filter_congr fun doc _ => ?_)
  cases doc <;> rfl

theorem count_channel (docs : List ChannelDoc) :
    (docs.map (·.channel)).count .unsupported = others docs := by
  rw [others, List.count, List.countP_map]
  refine List.countP_congr fun doc _ => ?_
  cases doc <;> simp [channel, isOther]

theorem length_webhooks_add_others (docs : List ChannelDoc) :
    (webhooks docs).length + others docs = docs.length := by
  have both := List.length_eq_countP_add_countP (·.isOther) (l := docs)
  simp only [Bool.not_eq_true, Bool.decide_eq_false] at both
  rw [webhooks, ← List.countP_eq_length_filter, others, both, Nat.add_comm]

end ChannelDoc

namespace AlertRecord

variable {a : AlertRecord} {payload : Json} {channels : List Channel} {trigger : Trigger}

/-- The alert with these documents for its channels. -/
def onChannels (a : AlertRecord) (docs : List ChannelDoc) : AlertRecord :=
  { a with channels := .arr (docs.map (·.json)) }

/-- Webhooks and objects of other kinds decode, each at its place. -/
theorem decodedChannels_onChannels (a : AlertRecord) (docs : List ChannelDoc) :
    (a.onChannels docs).decodedChannels = .ok (docs.map (·.channel)) := by
  have decoded : Decode.list Channel.decode (.arr (docs.map (·.json))) =
      .ok (docs.map (·.channel)) := by
    rw [Decode.list, Decode.items_eq_ok_iff, List.map_map, List.map_map]
    exact List.map_congr_left fun doc _ => doc.decode_json
  rw [decodedChannels, onChannels, decoded]

/-- What is queued on a list of channels does not depend on which channels the alert has. -/
theorem dispatchAll_onChannels (a : AlertRecord) (docs : List ChannelDoc) (payload : Json)
    (channels : List Channel) :
    (a.onChannels docs).dispatchAll payload channels = a.dispatchAll payload channels := by
  induction channels with
  | nil => rfl
  | cons c rest ih =>
    rw [dispatchAll, dispatchAll, ih]
    rfl

/-! ## What is reported -/

/-- The same deliveries were queued, and the same channels failed but for some that are not
supported. -/
structure FailsMore (n : Nat) (d d' : Dispatched) : Prop where
  queued : d'.queued = d.queued
  failures : d'.failures.filter (·.1 ≠ .unsupported) = d.failures
  length : d'.failures.length = d.failures.length + n

/-- Unsupported channels are reported, and nothing else is done about them. -/
theorem dispatchAll_reportsMore (a : AlertRecord) (payload : Json) (channels : List Channel) :
    Routine.ReportsMore (FailsMore (channels.count .unsupported))
      (a.dispatchAll payload (channels.filter (· ≠ .unsupported)))
      (a.dispatchAll payload channels) := by
  induction channels with
  | nil => exact .done ⟨rfl, rfl, rfl⟩
  | cons c rest ih =>
    cases c with
    | unsupported =>
      rw [List.filter_cons_of_neg (by decide), List.count_cons_self]
      refine .report (ih.map fun more => ⟨more.queued, ?_, ?_⟩)
      · rw [List.filter_cons_of_neg (by simp)]
        exact more.failures
      · rw [List.length_cons, more.length]
        rfl
    | webhook id =>
      -- it is there both times, and the two lists stay in step whatever becomes of it
      rw [List.filter_cons_of_pos (by simp), List.count_cons_of_ne (by simp)]
      refine .bind_same fun outcome => ?_
      cases outcome with
      | ok id =>
        refine ih.bind fun more => .done ⟨?_, more.failures, more.length⟩
        exact congrArg (id :: ·) more.queued
      | error e =>
        refine .bind_same fun _ => ih.bind fun more => .done ⟨more.queued, ?_, ?_⟩
        · rw [List.filter_cons_of_pos (by simp), more.failures]
        · rw [List.length_cons, List.length_cons, more.length]
          omega

/-- What an announcement on so many channels comes to, after its channels were handled. -/
def conclusion (total : Nat) (d : Dispatched) : Except NotifyError (List Int) :=
  if d.failures.isEmpty then .ok d.queued
  else .error (.channelsFailed d.failures.length total d.failures)

theorem notify_of_decoded (decoded : a.decodedChannels = .ok channels) :
    a.notify trigger = do
      let d ← a.dispatchAll (trigger.event a).payload channels
      return conclusion channels.length d := by
  have concluded : (fun d : Dispatched => (
      if d.failures.isEmpty then pure (.ok d.queued)
      else pure (.error (.channelsFailed d.failures.length channels.length d.failures)) :
        Routine (Except NotifyError (List Int)))) = fun d => pure (conclusion channels.length d) := by
    funext d
    rw [conclusion]
    split <;> rfl
  rw [notify, decoded, ← concluded]

/-- How many failures an announcement on so many channels reports, which, and of how many channels:
none of all if it is complete. -/
inductive Reports (count : Nat) :
    Except NotifyError (List Int) → Nat → List (Channel × ChannelError) → Nat → Prop
  | complete (ids : List Int) : Reports count (.ok ids) 0 [] count
  | incomplete (failed total : Nat) (failures : List (Channel × ChannelError)) :
      Reports count (.error (.channelsFailed failed total failures)) failed failures total

theorem reports_conclusion (total : Nat) (d : Dispatched) :
    Reports total (conclusion total d) d.failures.length d.failures total := by
  rw [conclusion]
  split
  case isTrue none_failed =>
    rw [List.isEmpty_iff.mp none_failed]
    exact .complete d.queued
  case isFalse => exact .incomplete _ total d.failures

/-- One announcement reports what the other does, and besides that one failure of one channel for
each document of another kind. -/
def ReportsOthers (docs : List ChannelDoc) (plain mixed : Except NotifyError (List Int)) : Prop :=
  ∃ failed failures failures' total,
    Reports (ChannelDoc.webhooks docs).length plain failed failures total ∧
      Reports docs.length mixed (failed + ChannelDoc.others docs) failures'
        (total + ChannelDoc.others docs) ∧
      failures.length = failed ∧ failures'.length = failed + ChannelDoc.others docs ∧
      failures'.filter (·.1 ≠ .unsupported) = failures

theorem notify_reportsMore (a : AlertRecord) (docs : List ChannelDoc) (trigger : Trigger) :
    Routine.ReportsMore (ReportsOthers docs)
      ((a.onChannels (ChannelDoc.webhooks docs)).notify trigger)
      ((a.onChannels docs).notify trigger) := by
  have same (docs : List ChannelDoc) : trigger.event (a.onChannels docs) = trigger.event a := rfl
  rw [notify_of_decoded (decodedChannels_onChannels a docs),
    notify_of_decoded (decodedChannels_onChannels a (ChannelDoc.webhooks docs)), same, same,
    dispatchAll_onChannels, dispatchAll_onChannels, List.length_map, List.length_map,
    ChannelDoc.map_channel_webhooks]
  refine (dispatchAll_reportsMore a _ _).bind fun {d d'} more => .done ?_
  have length : d'.failures.length = d.failures.length + ChannelDoc.others docs := by
    rw [more.length, ChannelDoc.count_channel]
  refine ⟨_, d.failures, d'.failures, _, reports_conclusion _ d, ?_, rfl, length, more.failures⟩
  rw [ChannelDoc.length_webhooks_add_others, ← length]
  exact reports_conclusion _ d'

/-- What becomes of an alert on some channels when others are put in among them, announced in the
same surroundings. -/
structure TakesOthers (a : AlertRecord) (docs : List ChannelDoc) (trigger : Trigger)
    (w : Surroundings) : Prop where
  /-- The documents decode. -/
  decoded : (a.onChannels docs).decodedChannels = .ok (docs.map (·.channel))
  /-- One of another kind is an unsupported channel at its place. -/
  unsupported : ∀ (i : Nat) (doc : ChannelDoc), docs[i]? = some doc → doc.isOther = true →
    (docs.map (·.channel))[i]? = some .unsupported
  /-- The others are the channels that there are without them. -/
  webhooks : (a.onChannels (ChannelDoc.webhooks docs)).decodedChannels =
    .ok ((docs.map (·.channel)).filter (· ≠ .unsupported))
  /-- The same statements are run, with the same replies. -/
  statements : Action.statements (((a.onChannels docs).notify trigger).run w).trace =
    Action.statements
      (((a.onChannels (ChannelDoc.webhooks docs)).notify trigger).run w).trace
  /-- What is run next finds the same surroundings. -/
  rest : (((a.onChannels docs).notify trigger).run w).rest =
    (((a.onChannels (ChannelDoc.webhooks docs)).notify trigger).run w).rest
  /-- Both announcements come to an end, and differ in these failures only. -/
  reported : ∃ plain mixed,
    (((a.onChannels (ChannelDoc.webhooks docs)).notify trigger).run w).result = .ok plain ∧
      (((a.onChannels docs).notify trigger).run w).result = .ok mixed ∧
      ReportsOthers docs plain mixed

/-- Channels of other kinds, put in anywhere, do not matter to the webhooks. -/
theorem notify_takesOthers (a : AlertRecord) (docs : List ChannelDoc) (trigger : Trigger)
    (w : Surroundings) : a.TakesOthers docs trigger w := by
  obtain ⟨result, statements, rest⟩ := (notify_reportsMore a docs trigger).run w
  obtain ⟨ended, -, come, -⟩ := notify_course (decodedChannels_onChannels a docs)
    (Routine.course_run ((a.onChannels docs).notify trigger) w)
  constructor
  case decoded => exact decodedChannels_onChannels a docs
  case unsupported =>
    intro i doc found other
    rw [List.getElem?_map, found]
    cases doc with
    | webhook => cases other
    | other => rfl
  case webhooks => rw [decodedChannels_onChannels, ChannelDoc.map_channel_webhooks]
  case statements => exact statements
  case rest => exact rest
  case reported =>
    rw [come] at result ⊢
    -- neither is halted, for the second comes to a result
    generalize (((a.onChannels (ChannelDoc.webhooks docs)).notify trigger).run w).result = first
      at result ⊢
    cases result with
    | ok related => exact ⟨_, _, rfl, rfl, related⟩

end AlertRecord

end AlertRelay
