import AlertRelay.Proofs.Queue.Row

/-!
# Workers on the delivery queue

Any number of workers share one queue. Deliveries are queued, workers claim them and process what
they claimed one effect at a time, and stale claims are taken back, all in any order. A worker that
is slow, or gone, is one whose claims are not advanced. A claim keeps the row as it was when it was
claimed: what its worker writes later is computed from that and not from the row as it is by then.

A claim is held from the moment it is made for as long as its row is being processed without a
break. It may be lost in two ways: a stale claim is taken back, or an outcome is written.

## Main definitions

* `Claim` — a claimed row with what its worker still has to do, and its standing
* `Move` — what may happen next
* `QueueSystem.step`, `QueueSystem.run` — one move, and moves one after another
* `QueueTable.Evolves` — rows change only while they are not final
* `QueueTable.NoneTaken` — no row begins to be processed

## Main results

* `QueueTable.update_evolves` — an update of rows that are not final
* `QueueTable.perform_request` — a request gives the rows that it claims, and all of them
-/

namespace AlertRelay

/-- How a worker claims: one given delivery, or due ones. -/
inductive ClaimRequest where
  | one (id : Int)
  | due (limit : Int)

/-- The operation of the queue that a request is for. -/
def ClaimRequest.routine : ClaimRequest → Routine (Except DbError (List QueueEntry))
  | .one id => do return (← Queue.claim id).map Option.toList
  | .due limit => Queue.claimDue limit

/-- The rows that were claimed. -/
def ClaimRequest.claimed : Option (Except DbError (List QueueEntry)) → List QueueEntry
  | some (.ok es) => es
  | _ => []

/-- What became of a claim: its row has been processing ever since, or else it was taken back, or an
outcome was written. -/
inductive Standing where
  | held
  | released
  | ended
  deriving DecidableEq

/-- A claimed row as it was when it was claimed, and what its worker still has to do. -/
structure Claim where
  entry : QueueEntry
  policy : RetryPolicy
  rest : Routine (Except DbError DeliveryOutcome)
  standing : Standing

/-- The row with an id is being processed. -/
def QueueTable.isProcessing (t : QueueTable) (id : Int) : Bool :=
  t.rows.any fun e => e.id == id && e.status == DeliveryStatus.processing.name

namespace Claim

/-- A new claim. -/
def start (policy : RetryPolicy) (e : QueueEntry) : Claim := ⟨e, policy, e.process policy, .held⟩

/-- The next effect of the worker, on a table. -/
def advance (c : Claim) (t : QueueTable) (o : Occasion) : QueueTable × Claim :=
  match c.rest with
  | .ask e next => ((t.answer o e).1, { c with rest := next (t.answer o e).2 })
  | .done _ | .halt _ => (t, c)

/-- A held claim is lost when its row is not processing any more. -/
def refresh (t : QueueTable) (lost : Standing) (c : Claim) : Claim :=
  if c.standing = .held ∧ t.isProcessing c.entry.id = false then { c with standing := lost } else c

end Claim

/-- What may happen next: a delivery is queued, a worker claims, stale claims are taken back, or the
worker of a claim has its next effect. -/
inductive Move where
  | enqueue (o : Occasion) (delivery : NewDelivery)
  | claim (o : Occasion) (policy : RetryPolicy) (request : ClaimRequest)
  | release (o : Occasion) (olderThan : Span)
  | advance (o : Occasion) (index : Nat)

/-- The rows that a move may add. -/
def Move.added : Move → List QueueEntry
  | .enqueue o delivery => [delivery.entry o]
  | .claim _ _ _ | .release _ _ | .advance _ _ => []

/-- The queue with all claims that were ever made on it. -/
structure QueueSystem where
  table : QueueTable
  claims : List Claim

namespace QueueSystem

/-- An empty queue. -/
def initial : QueueSystem := ⟨.empty, []⟩

/-- The system after the table has changed and claims may have been lost. -/
def settleOn (t : QueueTable) (lost : Standing) (claims : List Claim) : QueueSystem :=
  ⟨t, claims.map (Claim.refresh t lost)⟩

/-- The system after a move. -/
def step (s : QueueSystem) : Move → QueueSystem
  | .enqueue o delivery => { s with table := (s.table.perform o (Queue.enqueue delivery)).1 }
  | .claim o policy request =>
    let (table, found) := s.table.perform o request.routine
    ⟨table, s.claims ++ (ClaimRequest.claimed found).map (Claim.start policy)⟩
  | .release o olderThan =>
    settleOn (s.table.perform o (Queue.releaseStale olderThan)).1 .released s.claims
  | .advance o index =>
    match s.claims[index]? with
    | none => s
    | some c =>
      let (table, c') := c.advance s.table o
      settleOn table .ended (s.claims.set index c')

/-- The system after moves. -/
def runFrom (s : QueueSystem) (moves : List Move) : QueueSystem := moves.foldl step s

/-- The system after moves from an empty queue. -/
def run (moves : List Move) : QueueSystem := initial.runFrom moves

end QueueSystem

/-! ## Changes of the table -/

/-- Every row stays or is changed while it is not final, and rows are added from a list. -/
structure QueueTable.Evolves (t : QueueTable) (added : List QueueEntry) (t' : QueueTable) : Prop where
  kept : ∀ e ∈ t.rows, ∃ e' ∈ t'.rows, e' = e ∨ e.Becomes e'
  origin : ∀ e' ∈ t'.rows, (∃ e ∈ t.rows, e' = e ∨ e.Becomes e') ∨ e' ∈ added

namespace QueueTable

variable {t t' : QueueTable} {o : Occasion}

theorem Evolves.refl (t : QueueTable) (added : List QueueEntry) : t.Evolves added t :=
  ⟨fun e member => ⟨e, member, .inl rfl⟩, fun e member => .inl ⟨e, member, .inl rfl⟩⟩

/-- An update that changes only rows that are not final. -/
theorem update_evolves {u : RowChange} {now : Instant}
    (becomes : ∀ e ∈ t.rows, u.selects e = true → e.Becomes (u.write now e)) :
    t.Evolves [] (t.update u now) := by
  have changed (e : QueueEntry) (member : e ∈ t.rows) :
      u.change now e = e ∨ e.Becomes (u.change now e) := by
    rw [RowChange.change]
    split
    case isTrue selected => exact .inr (becomes e member selected)
    case isFalse => exact .inl rfl
  refine ⟨fun e member => ⟨_, mem_update.mpr ⟨e, member, rfl⟩, changed e member⟩, ?_⟩
  intro e' member'
  obtain ⟨e, member, rfl⟩ := mem_update.mp member'
  exact .inl ⟨e, member, changed e member⟩

theorem insert_evolves {e : QueueEntry} (fresh : e.id ∉ t.rows.map (·.id)) :
    t.Evolves [e] (t.insert e fresh) := by
  refine ⟨fun x member => ⟨x, List.mem_append_left _ member, .inl rfl⟩, fun x member => ?_⟩
  rcases List.mem_append.mp member with member | member
  · exact .inl ⟨x, member, .inl rfl⟩
  · exact .inr member

theorem perform_map {α β : Type} (r : Routine α) (f : α → β) :
    t.perform o (f <$> r) = ((t.perform o r).1, (t.perform o r).2.map f) := by
  induction r generalizing t with
  | done a => rfl
  | halt _ => rfl
  | ask e next ih => exact ih (t.answer o e).2

/-- A request claims pending rows and gives all of them as they are claimed. -/
theorem perform_request (request : ClaimRequest) :
    ∃ among, (t.perform o request.routine).1 = t.update (.claim among) o.now ∧
      ClaimRequest.claimed (t.perform o request.routine).2 = t.changed (.claim among) o.now := by
  cases request with
  | one id =>
    refine ⟨fun e => e.id == id, ?_⟩
    have single : (t.changed (.claim fun e => e.id == id) o.now).length ≤ 1 :=
      length_changed_le_one (fun e selected => by
        rw [RowChange.claim, Bool.and_eq_true, beq_iff_eq] at selected
        exact selected.1) o.now
    have performed : t.perform o (ClaimRequest.one id).routine = _ :=
      (perform_map (Queue.claim id) _).trans (by rw [perform_claim])
    rw [performed]
    refine ⟨rfl, ?_⟩
    -- the routine gives the first row only, so nothing may come after it
    generalize t.changed (.claim fun e => e.id == id) o.now = es at single
    rcases es with _ | ⟨_, _ | _⟩
    · rfl
    · rfl
    · simp at single
  | due limit =>
    by_cases negative : limit < 0
    · -- a refused batch claims nothing
      refine ⟨fun _ => false, ?_⟩
      have none_selected : ∀ e ∈ t.rows, (RowChange.claim fun _ => false).selects e = false :=
        fun _ _ => rfl
      rw [ClaimRequest.routine, perform_claimDue_of_neg negative,
        update_of_none none_selected, changed_of_none none_selected]
      exact ⟨rfl, rfl⟩
    · rw [ClaimRequest.routine, perform_claimDue (Int.not_lt.mp negative)]
      exact ⟨_, rfl, rfl⟩

theorem claim_evolves (among : QueueEntry → Bool) (now : Instant) :
    t.Evolves [] (t.update (.claim among) now) :=
  update_evolves fun _ _ selected => QueueEntry.becomes_claim selected now

/-- No row begins to be processed. -/
def NoneTaken (t t' : QueueTable) : Prop := ∀ e' ∈ t'.rows, e'.Has .processing → e' ∈ t.rows

theorem update_noneTaken {u : RowChange} {now : Instant}
    (leaves : ∀ e ∈ t.rows, u.selects e = true → ¬ (u.write now e).Has .processing) :
    t.NoneTaken (t.update u now) := by
  intro e' member' processing
  obtain ⟨e, member, rfl⟩ := mem_update.mp member'
  rw [RowChange.change] at processing ⊢
  split
  case isTrue selected =>
    rw [if_pos selected] at processing
    exact absurd processing (leaves e member selected)
  case isFalse => exact member

theorem insert_noneTaken {e : QueueEntry} (fresh : e.id ∉ t.rows.map (·.id))
    (pending : e.Has .pending) : t.NoneTaken (t.insert e fresh) := by
  intro e' member' processing
  rcases List.mem_append.mp member' with member | member
  · exact member
  · obtain rfl := List.mem_singleton.mp member
    exact absurd processing (pending.not (by decide))

theorem enqueue_keeps (d : NewDelivery) :
    ∀ e ∈ t.rows, e ∈ (t.perform o (Queue.enqueue d)).1.rows := by
  intro e member
  rcases perform_enqueue d with unchanged | ⟨fresh, added⟩
  · rw [unchanged]
    exact member
  · rw [added]
    exact List.mem_append_left _ member

end QueueTable

end AlertRelay
