import AlertRelay.Store.Queue
import Mathlib.Data.List.Nodup

/-!
# The delivery queue as a table

What the statements of the queue do to its rows. Each statement is applied as a whole: an update
changes exactly the rows that its condition selects, in the columns it sets, both read off its bound
parameters, and the table's trigger notes when a row was last changed. The id of a row is its
primary key.

Everything that decides an evaluation besides the rows is an `Occasion`: the clock, the next key,
the rows that other transactions hold locked, the arithmetic of intervals, and the answers to
whatever a worker asks for outside the queue.

## Main definitions

* `QueueTable` — rows with distinct ids
* `RowChange` — the condition and the columns of one update
* `Occasion` — what an evaluation depends on besides the rows
* `QueueTable.apply` — one statement applied
* `QueueTable.perform` — a routine performed against the table

## Main results

* `QueueEntry.ofRow_row` — a returned row is read back as it is stored
* `QueueTable.perform_claim` and its like — what each operation of the queue does
-/

namespace AlertRelay

/-! ## Rows -/

/-- The row that stores a delivery. -/
def QueueEntry.row (e : QueueEntry) : Row :=
  [("id", .int e.id), ("tenant_id", .int e.tenantId), ("webhook_id", .int e.webhookId),
   ("event_type", .text e.eventType), ("payload", .json e.payload), ("attempts", .int e.attempts),
   ("max_attempts", .int e.maxAttempts), ("next_retry_at", .time e.nextRetryAt),
   ("status", .text e.status), ("last_error", (e.lastError.map .text).getD .null),
   ("created_at", .time e.createdAt), ("updated_at", .time e.updatedAt)]

/-- A returned row is read back as it is stored. -/
theorem QueueEntry.ofRow_row (e : QueueEntry) : QueueEntry.ofRow e.row = .ok e := by
  obtain ⟨_, _, _, _, _, _, _, _, _, error, _, _⟩ := e
  cases error <;> rfl

namespace StoreReply

/-- Returned rows are read back in order. -/
theorem all_rows (es : List QueueEntry) :
    (rows (es.map QueueEntry.row)).all QueueEntry.ofRow = .ok es := by
  change readAll QueueEntry.ofRow (es.map QueueEntry.row) = .ok es
  induction es with
  | nil => rfl
  | cons e rest ih => rw [List.map_cons, readAll, QueueEntry.ofRow_row, ih]

theorem first?_rows (es : List QueueEntry) :
    (rows (es.map QueueEntry.row)).first? QueueEntry.ofRow = .ok es.head? := by
  cases es with
  | nil => rfl
  | cons e rest =>
    change (QueueEntry.ofRow e.row).map some = .ok (some e)
    rw [QueueEntry.ofRow_row]
    rfl

end StoreReply

/-- Rows of the queue: no two have the same id. -/
@[ext]
structure QueueTable where
  rows : List QueueEntry
  distinct : (rows.map (·.id)).Nodup

/-- The condition of an update, and what it sets. -/
structure RowChange where
  selects : QueueEntry → Bool
  set : QueueEntry → QueueEntry
  id_set : ∀ e, (set e).id = e.id

/-- A row after an update that selects it. -/
def RowChange.write (u : RowChange) (now : Instant) (e : QueueEntry) : QueueEntry :=
  { u.set e with updatedAt := now }

/-- A row after an update. -/
def RowChange.change (u : RowChange) (now : Instant) (e : QueueEntry) : QueueEntry :=
  if u.selects e then u.write now e else e

theorem RowChange.id_change (u : RowChange) (now : Instant) (e : QueueEntry) :
    (u.change now e).id = e.id := by
  rw [change]
  split
  · exact u.id_set e
  · rfl

/-- What an evaluation depends on besides the rows. -/
structure Occasion where
  now : Instant
  freshId : Int
  isLocked : Int → Bool
  earlier : Float → Instant
  later : Float → Instant
  world : (e : Effect) → e.Answer

/-- The row that a new delivery becomes. -/
def NewDelivery.entry (d : NewDelivery) (o : Occasion) : QueueEntry :=
  { id := o.freshId
    tenantId := d.tenantId
    webhookId := d.webhookId
    eventType := d.eventType
    payload := d.payload
    attempts := 0
    maxAttempts := d.maxAttempts.getD defaultMaxAttempts
    nextRetryAt := o.now
    status := DeliveryStatus.pending.name
    lastError := none
    createdAt := o.now
    updatedAt := o.now }

namespace QueueTable

variable {t : QueueTable} {o : Occasion}

/-- No rows. -/
def empty : QueueTable := ⟨[], List.nodup_nil⟩

/-- The rows after an update. -/
def update (t : QueueTable) (u : RowChange) (now : Instant) : QueueTable where
  rows := t.rows.map (u.change now)
  distinct := by
    rw [List.map_map]
    exact (List.map_congr_left fun e _ => u.id_change now e) ▸ t.distinct

/-- The rows that an update selects, as it leaves them. -/
def changed (t : QueueTable) (u : RowChange) (now : Instant) : List QueueEntry :=
  (t.rows.filter u.selects).map (u.write now)

/-- The rows with another one, whose id is new. -/
def insert (t : QueueTable) (e : QueueEntry) (fresh : e.id ∉ t.rows.map (·.id)) : QueueTable where
  rows := t.rows ++ [e]
  distinct := by
    rw [List.map_append, List.nodup_append]
    refine ⟨t.distinct, by simp, ?_⟩
    rintro a member _ (_ | ⟨_, ⟨⟩⟩) rfl
    exact fresh member

/-- Rows in the order in which they fall due. -/
def dueFirst (a b : QueueEntry) : Bool :=
  decide (a.nextRetryAt < b.nextRetryAt ∨ a.nextRetryAt = b.nextRetryAt ∧ a.id ≤ b.id)

/-- The ids of the rows that are due and not locked, at most as many as given. -/
def dueIds (t : QueueTable) (o : Occasion) (status : String) (limit : Nat) : List Int :=
  let due := t.rows.filter fun e =>
    e.status == status && decide (e.nextRetryAt ≤ o.now) && !o.isLocked e.id
  ((due.mergeSort dueFirst).take limit).map (·.id)

/-- An update that returns the rows it changed. -/
def returning (t : QueueTable) (o : Occasion) (u : RowChange) : QueueTable × StoreReply :=
  (t.update u o.now, .rows ((t.changed u o.now).map QueueEntry.row))

/-- An update that says how many rows it changed. -/
def counting (t : QueueTable) (o : Occasion) (u : RowChange) : QueueTable × StoreReply :=
  (t.update u o.now, .affected (t.changed u o.now).length)

/-- One statement applied to the rows, as it binds its parameters; there is nothing to apply when it
does not write to the queue. -/
def apply (t : QueueTable) (o : Occasion) (s : Statement) : Option (QueueTable × StoreReply) :=
  match s, s.params with
  | .enqueue _, [.int tenantId, .int webhookId, .text eventType, .json payload, .int maxAttempts,
      .text status] =>
    let e : QueueEntry :=
      { id := o.freshId, tenantId, webhookId, eventType, payload, attempts := 0, maxAttempts
        nextRetryAt := o.now, status, lastError := none, createdAt := o.now, updatedAt := o.now }
    -- the primary key refuses an id that is taken
    if fresh : e.id ∉ t.rows.map (·.id) then some (t.insert e fresh, .rows [e.row])
    else some (t, .failed (.refused "duplicate key value violates unique constraint"))
  | .claimDue _, [.int limit, .text status, .text due] =>
    if limit < 0 then some (t, .failed (.refused "LIMIT must not be negative"))
    else
      -- the inner query picks the ids, the outer condition checks the status again
      let ids := t.dueIds o due limit.toNat
      some (t.returning o
        { selects := fun e => ids.contains e.id && e.status == due
          set := fun e => { e with status }
          id_set := fun _ => rfl })
  | .claim _, [.int id, .text status, .text due] =>
    some (t.returning o
      { selects := fun e => e.id == id && e.status == due
        set := fun e => { e with status }
        id_set := fun _ => rfl })
  | .releaseStale _, [.text status, .text held, .float seconds] =>
    some (t.counting o
      { selects := fun e => e.status == held && decide (e.updatedAt < o.earlier seconds)
        set := fun e => { e with status, nextRetryAt := o.now }
        id_set := fun _ => rfl })
  | .markDelivered _, [.int id, .text status, .text held] =>
    some (t.counting o
      { selects := fun e => e.id == id && e.status == held
        set := fun e => { e with status, lastError := none }
        id_set := fun _ => rfl })
  | .recordFailure _ (.retry _ _) _,
      [.int id, .text status, .int attempts, .text error, .float seconds, .text held] =>
    some (t.counting o
      { selects := fun e => e.id == id && e.status == held
        set := fun e =>
          { e with status, attempts, lastError := some error, nextRetryAt := o.later seconds }
        id_set := fun _ => rfl })
  | .recordFailure _ (.giveUp _) _,
      [.int id, .text status, .int attempts, .text error, .text held] =>
    some (t.counting o
      { selects := fun e => e.id == id && e.status == held
        set := fun e => { e with status, attempts, lastError := some error }
        id_set := fun _ => rfl })
  | _, _ => none

/-- The answer to an effect: statements that write to the queue are applied to the rows, everything
else is answered by the world outside. -/
def answer (t : QueueTable) (o : Occasion) : (e : Effect) → QueueTable × e.Answer
  | .execute s => (t.apply o s).getD (t, o.world (.execute s))
  | e => (t, o.world e)

/-- A routine performed against the rows; there is no value if it is halted. -/
def perform {α : Type} (t : QueueTable) (o : Occasion) : Routine α → QueueTable × Option α
  | .done a => (t, some a)
  | .halt _ => (t, none)
  | .ask e next => (t.answer o e).1.perform o (next (t.answer o e).2)

end QueueTable

/-! ## The changes of the queue -/

namespace RowChange

/-- Claiming pending rows. -/
def claim (among : QueueEntry → Bool) : RowChange where
  selects e := among e && e.status == DeliveryStatus.pending.name
  set e := { e with status := DeliveryStatus.processing.name }
  id_set _ := rfl

/-- Taking back claims that are older than a number of seconds. -/
def release (o : Occasion) (seconds : Float) : RowChange where
  selects e := e.status == DeliveryStatus.processing.name && decide (e.updatedAt < o.earlier seconds)
  set e := { e with status := DeliveryStatus.pending.name, nextRetryAt := o.now }
  id_set _ := rfl

end RowChange

/-- What is written about an attempt. -/
inductive OutcomeWrite where
  | delivered
  | failed (decision : RetryDecision) (error : String)

namespace OutcomeWrite

/-- The statement that writes it to a delivery. -/
def statement (id : Int) : OutcomeWrite → Statement
  | .delivered => .markDelivered id
  | .failed decision error => .recordFailure id decision error

/-- What it makes of a row. -/
def set (o : Occasion) (e : QueueEntry) : OutcomeWrite → QueueEntry
  | .delivered => { e with status := DeliveryStatus.delivered.name, lastError := none }
  | .failed (.retry attempts delay) error =>
    { e with
      status := DeliveryStatus.pending.name
      attempts
      lastError := some error
      nextRetryAt := o.later delay.toSeconds }
  | .failed (.giveUp attempts) error =>
    { e with status := DeliveryStatus.failed.name, attempts, lastError := some error }

/-- Writing it to a delivery that is still claimed, by whomever. -/
def change (o : Occasion) (id : Int) (w : OutcomeWrite) : RowChange where
  selects e := e.id == id && e.status == DeliveryStatus.processing.name
  set e := w.set o e
  id_set e := by
    rcases w with _ | ⟨_ | _, _⟩ <;> rfl

end OutcomeWrite

namespace QueueTable

variable {t : QueueTable} {o : Occasion}

theorem apply_claim (id : Int) :
    t.apply o (.claim id) = some (t.returning o (.claim fun e => e.id == id)) := rfl

theorem apply_claimDue {limit : Int} (h : 0 ≤ limit) :
    t.apply o (.claimDue limit) =
      some (t.returning o
        (.claim fun e => (t.dueIds o DeliveryStatus.pending.name limit.toNat).contains e.id)) := by
  simp only [apply, Statement.params, Statement.boundStatus, if_neg (Int.not_lt.mpr h)]
  rfl

theorem apply_releaseStale (span : Span) :
    t.apply o (.releaseStale span) = some (t.counting o (.release o span.toSeconds)) := rfl

theorem apply_outcome (id : Int) (w : OutcomeWrite) :
    t.apply o (w.statement id) = some (t.counting o (w.change o id)) := by
  rcases w with _ | ⟨_ | _, _⟩ <;> rfl

theorem answer_outcome (id : Int) (w : OutcomeWrite) :
    t.answer o (.execute (w.statement id)) = t.counting o (w.change o id) := by
  rw [answer, apply_outcome]
  rfl

/-- A statement on another table leaves the queue. -/
theorem apply_of_table_ne {s : Statement} (h : s.table ≠ "delivery_queue") :
    t.apply o s = none := by
  cases s <;> first | rfl | exact absurd rfl h

theorem apply_enqueue {d : NewDelivery} (fresh : (d.entry o).id ∉ t.rows.map (·.id)) :
    t.apply o (.enqueue d) = some (t.insert (d.entry o) fresh, .rows [(d.entry o).row]) :=
  dif_pos fresh

theorem apply_enqueue_of_taken {d : NewDelivery} (taken : (d.entry o).id ∈ t.rows.map (·.id)) :
    t.apply o (.enqueue d) =
      some (t, .failed (.refused "duplicate key value violates unique constraint")) :=
  dif_neg (not_not_intro taken)

/-! ## The operations of the queue -/

theorem perform_execute {α : Type} (s : Statement) (read : StoreReply → α) :
    t.perform o (do return read (← Routine.execute s)) =
      ((t.answer o (.execute s)).1, some (read (t.answer o (.execute s)).2)) := rfl

/-- A new delivery is added unless its id is taken. -/
theorem perform_enqueue (d : NewDelivery) :
    (t.perform o (Queue.enqueue d)).1 = t ∨
      ∃ fresh : (d.entry o).id ∉ t.rows.map (·.id),
        (t.perform o (Queue.enqueue d)).1 = t.insert (d.entry o) fresh := by
  rw [Queue.enqueue, perform_execute, answer]
  by_cases taken : (d.entry o).id ∈ t.rows.map (·.id)
  · rw [apply_enqueue_of_taken taken]
    exact .inl rfl
  · rw [apply_enqueue taken]
    exact .inr ⟨taken, rfl⟩

theorem perform_releaseStale (span : Span) :
    t.perform o (Queue.releaseStale span) =
      (t.update (.release o span.toSeconds) o.now,
        some (.ok (t.changed (.release o span.toSeconds) o.now).length)) := by
  rw [Queue.releaseStale, perform_execute, answer, apply_releaseStale]
  rfl

/-- Claiming one delivery. -/
theorem perform_claim (id : Int) :
    t.perform o (Queue.claim id) =
      (t.update (.claim fun e => e.id == id) o.now,
        some (.ok (t.changed (.claim fun e => e.id == id) o.now).head?)) := by
  rw [Queue.claim, perform_execute, answer, apply_claim]
  exact congrArg (fun found => (_, some found)) (StoreReply.first?_rows _)

/-- Claiming due deliveries. -/
theorem perform_claimDue {limit : Int} (h : 0 ≤ limit) :
    t.perform o (Queue.claimDue limit) =
      (let among e := (t.dueIds o DeliveryStatus.pending.name limit.toNat).contains e.id
       (t.update (.claim among) o.now, some (.ok (t.changed (.claim among) o.now)))) := by
  rw [Queue.claimDue, perform_execute, answer, apply_claimDue h]
  exact congrArg (fun found => (_, some found)) (StoreReply.all_rows _)

theorem perform_claimDue_of_neg {limit : Int} (h : limit < 0) :
    t.perform o (Queue.claimDue limit) =
      (t, some (.error (.refused "LIMIT must not be negative"))) := by
  have refused : t.apply o (.claimDue limit) =
      some (t, .failed (.refused "LIMIT must not be negative")) := if_pos h
  rw [Queue.claimDue, perform_execute, answer, refused]
  rfl

/-- Rows that an update does not select stay as they are. -/
theorem update_of_none {u : RowChange} (h : ∀ e ∈ t.rows, u.selects e = false) (now : Instant) :
    t.update u now = t := by
  have same : ∀ e ∈ t.rows, u.change now e = e := fun e member => by
    rw [RowChange.change, h e member]
    rfl
  exact QueueTable.ext ((List.map_congr_left same).trans (List.map_id t.rows))

theorem changed_of_none {u : RowChange} (h : ∀ e ∈ t.rows, u.selects e = false) (now : Instant) :
    t.changed u now = [] := by
  rw [changed, List.filter_eq_nil_iff.mpr fun e member => by simp [h e member]]
  rfl

theorem mem_update {u : RowChange} {now : Instant} {e' : QueueEntry} :
    e' ∈ (t.update u now).rows ↔ ∃ e ∈ t.rows, u.change now e = e' := List.mem_map

theorem mem_changed {u : RowChange} {now : Instant} {e' : QueueEntry} :
    e' ∈ t.changed u now ↔ ∃ e ∈ t.rows, u.selects e = true ∧ u.write now e = e' := by
  simp [changed, and_assoc]

theorem mem_update_of_selects {u : RowChange} {e : QueueEntry} (member : e ∈ t.rows)
    (selected : u.selects e = true) (now : Instant) : u.write now e ∈ (t.update u now).rows :=
  mem_update.mpr ⟨e, member, if_pos selected⟩

theorem mem_update_of_not_selects {u : RowChange} {e : QueueEntry} (member : e ∈ t.rows)
    (unselected : ¬ u.selects e = true) (now : Instant) : e ∈ (t.update u now).rows :=
  mem_update.mpr ⟨e, member, if_neg unselected⟩

theorem map_id_changed (u : RowChange) (now : Instant) :
    (t.changed u now).map (·.id) = (t.rows.filter u.selects).map (·.id) := by
  rw [changed, List.map_map]
  exact List.map_congr_left fun e _ => u.id_set e

theorem nodup_changed (u : RowChange) (now : Instant) : ((t.changed u now).map (·.id)).Nodup := by
  rw [map_id_changed]
  exact t.distinct.sublist (List.filter_sublist.map _)

/-- An update that selects by id changes at most one row. -/
theorem length_changed_le_one {u : RowChange} {id : Int}
    (byId : ∀ e, u.selects e = true → e.id = id) (now : Instant) :
    (t.changed u now).length ≤ 1 := by
  have distinct := t.nodup_changed u now
  have selected (e' : QueueEntry) (member : e' ∈ t.changed u now) : e'.id = id := by
    obtain ⟨e, -, selects, rfl⟩ := mem_changed.mp member
    exact (u.id_set e).trans (byId e selects)
  -- two rows would have the same id
  generalize t.changed u now = es at distinct selected ⊢
  match es with
  | [] => exact Nat.zero_le 1
  | [_] => exact Nat.le_refl 1
  | e :: e' :: rest =>
    have same := (selected e (by simp)).trans (selected e' (by simp)).symm
    simp [same] at distinct

/-- Rows with the same id are the same row. -/
theorem eq_of_id_eq {e e' : QueueEntry} (member : e ∈ t.rows) (member' : e' ∈ t.rows)
    (same : e.id = e'.id) : e = e' :=
  List.inj_on_of_nodup_map t.distinct member member' same

/-- What an update makes of a row is the only row with its id. -/
theorem eq_change_of_mem_update {u : RowChange} {now : Instant} {e e' : QueueEntry}
    (member : e ∈ t.rows) (member' : e' ∈ (t.update u now).rows) (same : e'.id = e.id) :
    e' = u.change now e :=
  (t.update u now).eq_of_id_eq member' (mem_update.mpr ⟨e, member, rfl⟩)
    (same.trans (u.id_change now e).symm)

end QueueTable

end AlertRelay
