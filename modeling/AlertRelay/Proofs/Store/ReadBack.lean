import AlertRelay.Proofs.Routine.Course
import AlertRelay.Store.Alerts

/-!
# Stored alerts read back

An alert is stored as nine bound values, its conditions and its channels as documents. The row that
holds these values decodes to the alert: every known operator and every other text that stands for
one, every aggregation and every channel has a document of its own. A threshold has one when it is
finite, and the check on a new alert lets no other through.

The store keeps the fields of a document in an order of its own, so a document may come back as it
was bound or with its fields sorted.

## Main definitions

* `Json.KeptAs` — the document that comes back for a bound one
* `AlertStore.boundColumns`, `Row.Holds` — the columns that a new alert sets, and a row that holds
  what was bound to them
* `AlertRecord.row` — the row that stores an alert

## Main results

* `AlertStore.sql_insertAlert` — the columns are those that the statement names
* `Condition.decode_of_kept`, `Channel.decode_of_kept` — conditions and channels read back
* `AlertStore.create_readsBack` — so does every alert that was accepted
-/

namespace AlertRelay

/-! ## Documents -/

/-- What comes back for a bound document: the document itself, or with its fields sorted. -/
def Json.KeptAs (bound kept : Json) : Prop := kept = bound ∨ kept = bound.sorted

theorem Json.sortedItems_eq_map (items : List Json) : sortedItems items = items.map sorted := by
  induction items with
  | nil => rfl
  | cons j rest ih => rw [sortedItems, ih, List.map_cons]

/-- A list reads back when its items do. -/
theorem Decode.list_of_kept {α : Type} {json : α → Json} {decode : Decoder α} {as : List α}
    (item : ∀ a ∈ as, ∀ j, (json a).KeptAs j → decode j = .ok a) {j : Json}
    (kept : (Json.arr (as.map json)).KeptAs j) : Decode.list decode j = .ok as := by
  rcases kept with rfl | rfl
  · refine (Decode.items_eq_ok_iff _ _ _).mpr ?_
    rw [List.map_map]
    exact List.map_congr_left fun a member => item a member _ (.inl rfl)
  · rw [Json.sorted, Json.sortedItems_eq_map, Decode.list]
    refine (Decode.items_eq_ok_iff _ _ _).mpr ?_
    rw [List.map_map, List.map_map]
    exact List.map_congr_left fun a member => item a member _ (.inr rfl)

/-- An object whose fields all decode has no first failure. -/
theorem Decode.firstFailure?_eq_none {rules : List (String × (Json → Option Error))}
    {fields : List (String × Json)}
    (sound : ∀ f ∈ fields, (rules.lookup f.1).bind (· f.2) = none) :
    firstFailure? rules fields = none := by
  induction fields with
  | nil => rfl
  | cons f rest ih =>
    rw [List.forall_mem_cons] at sound
    rw [firstFailure?, sound.1]
    exact ih sound.2

namespace Condition

variable {c : Condition} {fields : List (String × Json)} {j : Json}

/-- The fields of a condition with a finite threshold, sorted by name. -/
def sortedFields (c : Condition) : List (String × Json) :=
  [("aggregation", c.aggregation.json), ("metric_name", .str c.metricName),
   ("operator", c.operator.json), ("threshold", .double c.threshold)]

theorem sorted_json (finite : c.threshold.isFinite = true) :
    c.json.sorted = .obj c.sortedFields := by
  simp only [json, sortedFields, Json.ofFloat, finite, Json.sorted, Json.sortedFields,
    Json.insertNew, Json.insertField, Json.lookup, Aggregation.json, Operator.json, String.reduceLT,
    String.reduceEq, if_true, if_false]

/-- The fields of a condition decode, in whatever order they come. -/
theorem firstFailure?_of_mem (canonical : c.operator.Canonical)
    (own : ∀ f ∈ fields, f ∈ c.sortedFields) : Decode.firstFailure? rules fields = none := by
  refine Decode.firstFailure?_eq_none fun f member => ?_
  have field := own f member
  simp only [sortedFields, List.mem_cons, List.not_mem_nil, or_false] at field
  rcases field with rfl | rfl | rfl | rfl <;>
    simp [rules, List.lookup_cons, Decode.failure?, Decode.string, Decode.float,
      Aggregation.decode_json, Operator.decode_json canonical]

/-- A condition reads back from its fields, in whatever order they come. -/
theorem decode_obj (canonical : c.operator.Canonical) (own : ∀ f ∈ fields, f ∈ c.sortedFields)
    (found : ∀ f ∈ c.sortedFields, Json.lookup f.1 fields = some f.2) :
    decode (.obj fields) = .ok c := by
  simp only [sortedFields, List.forall_mem_cons, List.not_mem_nil, false_imp_iff, implies_true,
    and_true] at found
  obtain ⟨aggregation, metric, operator, threshold⟩ := found
  rw [decode, Decode.record, firstFailure?_of_mem canonical own]
  simp [build, Decode.Fields.required, Decode.Fields.ofObject, metric, aggregation, operator,
    threshold, Aggregation.decode_json, Operator.decode_json canonical, Decode.string, Decode.float,
    bind, Except.bind, pure, Except.pure]

/-- A condition reads back, if its threshold is finite and no known operator is kept as unknown. -/
theorem decode_of_kept (canonical : c.operator.Canonical) (finite : c.threshold.isFinite = true)
    (kept : c.json.KeptAs j) : decode j = .ok c := by
  rcases kept with rfl | rfl
  · rw [json, Json.ofFloat, if_pos finite]
    exact decode_obj canonical (by simp [sortedFields]) (by simp [sortedFields, Json.lookup])
  · rw [sorted_json finite]
    exact decode_obj canonical (fun _ => id) (by simp [sortedFields, Json.lookup])

end Condition

namespace Channel

/-- A channel reads back, if the id of its webhook is of 64 bits. -/
theorem decode_of_kept {c : Channel} {j : Json}
    (fits : ∀ id, c = .webhook id → Decode.fitsBits 64 id = true) (kept : c.json.KeptAs j) :
    decode j = .ok c := by
  cases c with
  | unsupported => rcases kept with rfl | rfl <;> rfl
  | webhook id =>
    have number : Decode.integer 64 (.int id) = .ok id := by
      rw [Decode.integer, if_pos (fits id rfl)]
    have sorted : (webhook id).json.sorted = (webhook id).json := rfl
    -- its two fields are in order already
    have same : j = (webhook id).json := by
      rcases kept with kept | kept
      · exact kept
      · exact kept.trans sorted
    rw [same, json, decode]
    simp [Json.lookup, tag, Except.bind, ofFields, number, Except.map]

end Channel

/-! ## Rows of alerts -/

/-- The row that stores an alert. -/
def AlertRecord.row (a : AlertRecord) : Row :=
  [("id", .int a.id), ("tenant_id", .int a.tenantId), ("name", .text a.name),
   ("conditions", .json a.conditions), ("condition_logic", .text a.conditionLogic),
   ("window_seconds", .int a.windowSeconds), ("cooldown_seconds", .int a.cooldownSeconds),
   ("severity", .text a.severity), ("channels", .json a.channels), ("enabled", .bool a.enabled),
   ("last_triggered_at", (a.lastTriggeredAt.map .time).getD .null),
   ("created_at", .time a.createdAt), ("updated_at", .time a.updatedAt)]

/-- A returned row is read back as it is stored. -/
theorem AlertRecord.ofRow_row (a : AlertRecord) : AlertRecord.ofRow a.row = .ok a := by
  obtain ⟨_, _, _, _, _, _, _, _, _, _, last, _, _⟩ := a
  cases last <;> rfl

/-- Returned rows are read back in order. -/
theorem AlertRecord.all_rows (alerts : List AlertRecord) :
    (StoreReply.rows (alerts.map AlertRecord.row)).all AlertRecord.ofRow = .ok alerts := by
  change StoreReply.readAll AlertRecord.ofRow (alerts.map AlertRecord.row) = .ok alerts
  induction alerts with
  | nil => rfl
  | cons a rest ih => rw [List.map_cons, StoreReply.readAll, AlertRecord.ofRow_row, ih]

/-- What comes back for a bound value. -/
inductive Value.KeptAs : Value → Value → Prop
  | same (v : Value) : v.KeptAs v
  | sorted (j : Json) : (Value.json j).KeptAs (.json j.sorted)

namespace Row

variable {row : Row} {name : String}

theorem int_of_kept {i : Int} (kept : (Value.int i).KeptAs (row.get name)) :
    row.int name = .ok i := by
  generalize found : row.get name = v at kept
  cases kept
  simp [int, required, found, Value.int?]

theorem text_of_kept {s : String} (kept : (Value.text s).KeptAs (row.get name)) :
    row.text name = .ok s := by
  generalize found : row.get name = v at kept
  cases kept
  simp [text, required, found, Value.text?]

theorem bool_of_kept {b : Bool} (kept : (Value.bool b).KeptAs (row.get name)) :
    row.bool name = .ok b := by
  generalize found : row.get name = v at kept
  cases kept
  simp [bool, required, found, Value.bool?]

theorem json_of_kept {j : Json} (kept : (Value.json j).KeptAs (row.get name)) :
    j.KeptAs (row.json name) := by
  generalize found : row.get name = v at kept
  rw [json, found]
  cases kept with
  | same => exact .inl rfl
  | sorted => exact .inr rfl

end Row

namespace AlertStore

/-- The columns that a new alert sets, in the order in which their values are bound. -/
def boundColumns : List String :=
  ["tenant_id", "name", "conditions", "condition_logic", "window_seconds", "cooldown_seconds",
   "severity", "channels", "enabled"]

/-- They are the columns that the statement names, one for each of its parameters. -/
theorem sql_insertAlert (tenant : Int) (alert : NewAlert) :
    (Statement.insertAlert tenant alert).sql =
      "INSERT INTO alerts (" ++ Columns.listed boundColumns ++
        ") VALUES ($1, $2, $3, $4, $5, $6, $7, $8, $9) RETURNING " ++ Statement.alertColumns := by
  change _ ++ Statement.alertColumns = _
  exact congrArg (· ++ Statement.alertColumns) (by decide +kernel)

end AlertStore

/-- The row holds in every column what a statement bound to it. -/
def Row.Holds (row : Row) (s : Statement) : Prop :=
  ∀ x ∈ AlertStore.boundColumns.zip s.params, x.2.KeptAs (row.get x.1)

/-- The thresholds of an alert that passes the checks are finite. -/
theorem Definition.isFinite_of_check {d : Definition} (passes : d.check = none) :
    ∀ c ∈ d.conditions, c.threshold.isFinite = true := by
  have unviolated := (check_eq_none_iff d).mp passes
    (if d.conditions.any (fun c => !c.threshold.isFinite) then some .thresholdNotFinite else none)
    (by simp [violations])
  simpa using unviolated

namespace AlertStore

variable {tenant : Int} {alert : NewAlert} {trace : List Action}
  {result : Except Instant.Overflow (Except StoreError AlertRecord)}

/-- An alert is stored by one statement, and only after it passed the checks. -/
theorem of_mem_create {s : Statement} {reply : StoreReply}
    (course : (create tenant alert).Course trace result)
    (stored : (s, reply) ∈ Action.statements trace) :
    alert.definition.check = none ∧ s = .insertAlert tenant alert := by
  rw [create] at course
  split at course
  · obtain ⟨rfl, -⟩ := course.of_pure
    cases stored
  next passes =>
    obtain ⟨answer, rest, rfl, done⟩ := course.of_effect
    obtain ⟨rfl, -⟩ := done.of_pure
    rw [Action.statements_execute, Action.statements_nil, List.mem_singleton] at stored
    exact ⟨passes, congrArg Prod.fst stored⟩

/-- The row that holds a new alert, with a number and the instants that the database sets, is the
record of that alert. -/
theorem ofRow_of_holds {row : Row} {id : Int} {createdAt updatedAt : Instant}
    (holds : row.Holds (.insertAlert tenant alert)) (ids : row.get "id" = .int id)
    (created : row.get "created_at" = .time createdAt)
    (updated : row.get "updated_at" = .time updatedAt) :
    (Condition.listJson alert.conditions).KeptAs (row.json "conditions") ∧
      (Channel.listJson alert.channels).KeptAs (row.json "channels") ∧
      AlertRecord.ofRow row = .ok
        { id
          tenantId := tenant
          name := alert.name
          conditions := row.json "conditions"
          conditionLogic := alert.logic.name
          windowSeconds := alert.windowSeconds
          cooldownSeconds := alert.cooldownSeconds
          severity := alert.severity
          channels := row.json "channels"
          enabled := alert.isEnabled
          lastTriggeredAt := (row.get "last_triggered_at").time?
          createdAt
          updatedAt } := by
  simp only [Row.Holds, boundColumns, Statement.params, List.zip_cons_cons, List.zip_nil_right,
    List.forall_mem_cons] at holds
  obtain ⟨tenantId, name, conditions, logic, window, cooldown, severity, channels, enabled, -⟩ :=
    holds
  refine ⟨Row.json_of_kept conditions, Row.json_of_kept channels, ?_⟩
  have readId : row.int "id" = .ok id := Row.int_of_kept (by rw [ids]; exact .same _)
  have readCreated : row.time "created_at" = .ok createdAt := by
    simp [Row.time, Row.required, created, Value.time?]
  have readUpdated : row.time "updated_at" = .ok updatedAt := by
    simp [Row.time, Row.required, updated, Value.time?]
  rw [AlertRecord.ofRow, readId, readCreated, readUpdated, Row.int_of_kept tenantId,
    Row.text_of_kept name, Row.text_of_kept logic, Row.int_of_kept window,
    Row.int_of_kept cooldown, Row.text_of_kept severity, Row.bool_of_kept enabled]
  rfl

/-- An alert that was accepted reads back as it was created. -/
theorem create_readsBack {s : Statement} {reply : StoreReply} {row : Row} {id : Int}
    {createdAt updatedAt : Instant} (course : (create tenant alert).Course trace result)
    (stored : (s, reply) ∈ Action.statements trace)
    (canonical : ∀ c ∈ alert.conditions, c.operator.Canonical)
    (fits : ∀ webhookId, .webhook webhookId ∈ alert.channels →
      Decode.fitsBits 64 webhookId = true)
    (holds : row.Holds s) (ids : row.get "id" = .int id)
    (created : row.get "created_at" = .time createdAt)
    (updated : row.get "updated_at" = .time updatedAt) :
    ∃ record, AlertRecord.ofRow row = .ok record ∧
      record.rule = .ok
        { tenantId := tenant
          conditions := alert.conditions
          logic := alert.logic
          windowSeconds := alert.windowSeconds
          cooldownSeconds := alert.cooldownSeconds
          lastTriggeredAt := record.lastTriggeredAt } ∧
      record.decodedChannels = .ok alert.channels ∧
      record.enabled = alert.isEnabled := by
  obtain ⟨passes, rfl⟩ := of_mem_create course stored
  obtain ⟨keptConditions, keptChannels, read⟩ := ofRow_of_holds holds ids created updated
  have finite : ∀ c ∈ alert.conditions, c.threshold.isFinite = true :=
    Definition.isFinite_of_check passes
  have conditions : Decode.list Condition.decode (row.json "conditions") = .ok alert.conditions :=
    Decode.list_of_kept (fun c member j => Condition.decode_of_kept (canonical c member)
      (finite c member)) keptConditions
  have channels : Decode.list Channel.decode (row.json "channels") = .ok alert.channels :=
    Decode.list_of_kept (fun c member j => Channel.decode_of_kept fun webhookId same =>
      fits webhookId (same ▸ member)) keptChannels
  refine ⟨_, read, ?_, ?_, rfl⟩
  · simp [AlertRecord.rule, conditions, Logic.parse, Logic.ofName?_name]
  · simp [AlertRecord.decodedChannels, channels]

/-- An alert at the edges: a negative zero and the least subnormal as thresholds, an operator of a
later version, and a channel that is not supported. -/
def edgeAlert : NewAlert :=
  { name := "edges"
    conditions := [⟨"load", .avg, .gt, -0.0⟩, ⟨"drift", .min, .unknown "between", .ofBits 1⟩]
    logic := .any
    windowSeconds := 300
    cooldownSeconds := 60
    severity := "info"
    channels := [.unsupported, .webhook 3]
    enabled := none }

/-- The row of the alert at the edges, its conditions sorted by the store. -/
def edgeRow : Row :=
  [("id", .int 7), ("tenant_id", .int 1), ("name", .text "edges"),
   ("conditions", .json (Condition.listJson edgeAlert.conditions).sorted),
   ("condition_logic", .text "OR"), ("window_seconds", .int 300), ("cooldown_seconds", .int 60),
   ("severity", .text "info"), ("channels", .json (Channel.listJson edgeAlert.channels)),
   ("enabled", .bool true), ("created_at", .time ⟨1000, 0⟩), ("updated_at", .time ⟨1000, 0⟩)]

theorem create_readsBack_edges :
    ∃ record, AlertRecord.ofRow edgeRow = .ok record ∧
      record.rule = .ok
        { tenantId := 1
          conditions := [⟨"load", .avg, .gt, -0.0⟩, ⟨"drift", .min, .unknown "between", .ofBits 1⟩]
          logic := .any
          windowSeconds := 300
          cooldownSeconds := 60
          lastTriggeredAt := record.lastTriggeredAt } ∧
      record.decodedChannels = .ok [.unsupported, .webhook 3] ∧ record.enabled = true := by
  have course : (create 1 edgeAlert).Course [⟨.execute (.insertAlert 1 edgeAlert), .rows []⟩]
      (.ok (.error (.database .noRows))) := by
    have passes : edgeAlert.definition.check = none := by decide
    rw [create, passes]
    exact .ask (show (Effect.execute (.insertAlert 1 edgeAlert)).Answer from StoreReply.rows [])
      (.done _)
  have holds : edgeRow.Holds (.insertAlert 1 edgeAlert) := by
    simp only [Row.Holds, boundColumns, Statement.params, List.zip_cons_cons, List.zip_nil_right,
      List.forall_mem_cons]
    exact ⟨.same _, .same _, .sorted _, .same _, .same _, .same _, .same _, .same _, .same _,
      by simp⟩
  have canonical : ∀ c ∈ edgeAlert.conditions, c.operator.Canonical := by
    simp [edgeAlert, Operator.Canonical, Operator.name, Operator.ofName]
  have fits : ∀ id, .webhook id ∈ edgeAlert.channels → Decode.fitsBits 64 id = true := by
    simp [edgeAlert, Decode.fitsBits]
  exact create_readsBack course (.head _) canonical fits holds rfl rfl rfl

end AlertStore

end AlertRelay
