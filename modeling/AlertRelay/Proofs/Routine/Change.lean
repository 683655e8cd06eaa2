import AlertRelay.Proofs.Routine.Course

/-!
# Runs in changed surroundings

A run reads the replies to its own statements, in order, and the readings of the clock that it asks
for. So replies that are changed elsewhere in the script do not matter to it, and readings that are
put in after the last one it takes are left to what runs next. A routine that words its statements
differently and reads the same replies runs alike.

## Main definitions

* `Surroundings.reply` — the reply to the statement at a position of the script
* `Surroundings.Alike` — surroundings that differ in some replies at most
* `Surroundings.delayed` — surroundings whose clock has some more readings in between
* `Routine.restated` — a routine with its statements worded differently

## Main results

* `Routine.run_alike` — replies that are not read do not matter
* `Routine.run_delayed` — readings that are not taken do not matter
* `Routine.run_restated` — the wording of statements does not matter to how a routine goes on
-/

namespace AlertRelay

/-! ## Replies -/

namespace Surroundings

/-- The reply to the statement at a position of the script. -/
def reply (w : Surroundings) (n : Nat) : StoreReply := w.replies.getD n exhausted

/-- The surroundings after some statements. -/
def afterStatements (w : Surroundings) (n : Nat) : Surroundings :=
  { w with replies := w.replies.drop n }

/-- The surroundings before a statement that gets the given reply. -/
def replying (w : Surroundings) (reply : StoreReply) : Surroundings :=
  { w with replies := reply :: w.replies }

@[simp]
theorem reply_replying (w : Surroundings) (reply : StoreReply) :
    (w.replying reply).reply 0 = reply := rfl

theorem reply_afterStatements (w : Surroundings) (m n : Nat) :
    (w.afterStatements m).reply n = w.reply (m + n) := by
  simp [reply, afterStatements, List.getD_eq_getElem?_getD]

/-- After a statement the replies go on with the second. -/
theorem reply_afterStatements_one (w : Surroundings) :
    (w.afterStatements 1).reply = fun n => w.reply (n + 1) :=
  funext fun n => by rw [reply_afterStatements, Nat.add_comm]

theorem afterStatements_afterStatements (w : Surroundings) (m n : Nat) :
    (w.afterStatements m).afterStatements n = w.afterStatements (m + n) := by
  simp [afterStatements]

/-- A statement gets the first reply of the script and leaves the others. -/
theorem handle_execute (w : Surroundings) (s : Statement) :
    w.handle (.execute s) = (w.reply 0, w.afterStatements 1) := by
  cases h : w.replies <;> simp [handle, reply, afterStatements, h]

/-- The surroundings differ at most in the replies at some positions of the script. -/
structure Alike (changed : Nat → Prop) (w w' : Surroundings) : Prop where
  receiver : w'.receiver = w.receiver
  answers : w'.answers = w.answers
  metrics : w'.metrics = w.metrics
  clock : w'.clock = w.clock
  reply : ∀ n, ¬ changed n → w'.reply n = w.reply n

variable {changed : Nat → Prop} {w w' : Surroundings}

theorem Alike.refl (changed : Nat → Prop) (w : Surroundings) : Alike changed w w :=
  ⟨rfl, rfl, rfl, rfl, fun _ _ => rfl⟩

theorem Alike.mono {changed' : Nat → Prop} (alike : Alike changed w w')
    (imp : ∀ n, changed n → changed' n) : Alike changed' w w' :=
  { alike with reply := fun n kept => alike.reply n fun h => kept (imp n h) }

theorem Alike.reaches (alike : Alike changed w w') (p : Post) : w'.reaches p = w.reaches p := by
  rw [Surroundings.reaches, Surroundings.reaches, alike.receiver]

theorem Alike.afterStatements (alike : Alike changed w w') (m : Nat) :
    Alike (fun n => changed (m + n)) (w.afterStatements m) (w'.afterStatements m) where
  receiver := alike.receiver
  answers := alike.answers
  metrics := alike.metrics
  clock := alike.clock
  reply n kept := by
    rw [reply_afterStatements, reply_afterStatements]
    exact alike.reply _ kept

/-- An effect that is no statement is answered alike and leaves surroundings that are alike. -/
theorem Alike.handle (alike : Alike changed w w') {e : Effect} (other : ∀ s, e ≠ .execute s) :
    (w'.handle e).1 = (w.handle e).1 ∧ Alike changed (w.handle e).2 (w'.handle e).2 := by
  cases e with
  | execute s => exact absurd rfl (other s)
  | post p =>
    simp only [Surroundings.handle, alike.reaches p, alike.answers]
    split
    · exact ⟨rfl, ⟨alike.receiver, rfl, alike.metrics, alike.clock, alike.reply⟩⟩
    · exact ⟨rfl, alike⟩
  | measure q =>
    simp only [Surroundings.handle, alike.metrics]
    exact ⟨trivial, ⟨alike.receiver, alike.answers, rfl, alike.clock, alike.reply⟩⟩
  | now =>
    simp only [Surroundings.handle, alike.clock]
    exact ⟨trivial, ⟨alike.receiver, alike.answers, alike.metrics, rfl, alike.reply⟩⟩
  | log entry => exact ⟨rfl, alike⟩

end Surroundings

namespace Routine

variable {α β : Type}

/-- A statement, and then what its reply is read as decides. -/
theorem run_read {s : Statement} {read : StoreReply → α} (f : α → Routine β) (w : Surroundings) :
    ((do return read (← execute s)) >>= f).run w =
      { (f (read (w.reply 0))).run (w.afterStatements 1) with
        trace := ⟨.execute s, w.reply 0⟩ ::
          ((f (read (w.reply 0))).run (w.afterStatements 1)).trace } := by
  change (ask (.execute s) fun reply => f (read reply)).run w = _
  rw [run_ask, Surroundings.handle_execute]

/-- A run takes the replies to its own statements off the script. -/
theorem reply_rest (r : Routine α) (w : Surroundings) (n : Nat) :
    (r.run w).rest.reply n = w.reply ((Action.statements (r.run w).trace).length + n) := by
  induction r generalizing w with
  | done a => simp [run]
  | halt o => simp [run]
  | ask e next ih =>
    rw [run_ask]
    cases e with
    | execute s =>
      -- this statement takes the first reply, so the others move up by one
      simp only [ih, Surroundings.handle_execute, Action.statements_execute, List.length_cons,
        Surroundings.reply_afterStatements]
      congr 1
      omega
    | post p =>
      simp only [ih, Action.statements_post]
      simp only [Surroundings.handle]
      split <;> rfl
    | _ => exact ih _ _

/-- The statements of a run get the replies of the script, one after another. -/
theorem replies_run (r : Routine α) (w : Surroundings) :
    (Action.statements (r.run w).trace).map Prod.snd =
      (List.range (Action.statements (r.run w).trace).length).map w.reply := by
  induction r generalizing w with
  | done a => rfl
  | halt o => rfl
  | ask e next ih =>
    rw [run_ask]
    cases e with
    | execute s =>
      -- the statements that follow begin at the second reply
      have later := ih (w.reply 0) (w.afterStatements 1)
      simp only [Surroundings.handle_execute, Action.statements_execute, List.map_cons,
        List.length_cons, List.range_succ_eq_map, List.map_map, later, List.cons.injEq, true_and]
      refine List.map_congr_left fun n _ => ?_
      rw [Surroundings.reply_afterStatements, Nat.add_comm]
      rfl
    | post p =>
      have later := ih (w.handle (.post p)).1 (w.handle (.post p)).2
      have same : (w.handle (.post p)).2.reply = w.reply := by
        simp only [Surroundings.handle]
        split <;> rfl
      rw [same] at later
      exact later
    | _ => exact ih _ _

/-- Replies that a run does not read change neither its result nor its trace, and are left to what
runs next. -/
theorem run_alike {r : Routine α} {changed : Nat → Prop} {w v : Surroundings}
    (alike : w.Alike changed v)
    (unread : ∀ n < (Action.statements (r.run w).trace).length, ¬ changed n) :
    ∃ v', r.run v = { r.run w with rest := v' } ∧
      (r.run w).rest.Alike
        (fun n => changed ((Action.statements (r.run w).trace).length + n)) v' := by
  induction r generalizing changed w v with
  | done a => exact ⟨v, rfl, by simpa [run] using alike⟩
  | halt o => exact ⟨v, rfl, by simpa [run] using alike⟩
  | ask e next ih =>
    rw [run_ask] at unread
    rw [run_ask, run_ask]
    by_cases statement : ∃ s, e = .execute s
    · obtain ⟨s, rfl⟩ := statement
      -- the first reply is read here, and the positions of the others count from the next one
      simp only [Surroundings.handle_execute, Action.statements_execute, List.length_cons]
        at unread ⊢
      rw [alike.reply 0 (unread 0 (by omega))]
      obtain ⟨v', ran, left⟩ := ih (w.reply 0) (alike.afterStatements 1)
        fun n read => unread (1 + n) (by omega)
      refine ⟨v', by rw [ran], ?_⟩
      simpa only [Nat.add_comm, Nat.add_left_comm] using left
    · -- any other effect is answered alike, and takes no reply
      obtain ⟨answer, rest⟩ := alike.handle fun s same => statement ⟨s, same⟩
      have silent : ∀ reply trace, Action.statements (⟨e, reply⟩ :: trace) =
          Action.statements trace := by
        intro reply trace
        cases e with
        | execute s => exact absurd ⟨s, rfl⟩ statement
        | _ => rfl
      simp only [silent] at unread ⊢
      rw [answer]
      obtain ⟨v', ran, left⟩ := ih (w.handle e).1 rest unread
      exact ⟨v', by rw [ran], left⟩

end Routine

/-! ## Readings of the clock -/

/-- The effect reads the clock. -/
def Effect.isReading : Effect → Bool
  | .now => true
  | _ => false

/-- How often the clock is read. -/
def Action.readings (trace : List Action) : Nat := trace.countP (·.effect.isReading)

namespace Surroundings

/-- A clock that has some more readings first. -/
def precededClock (clock : Nat → Instant) : List Instant → Nat → Instant
  | [] => clock
  | t :: readings => fun
    | 0 => t
    | k + 1 => precededClock clock readings k

/-- A clock that has some more readings after the first `n`. -/
def delayedClock (readings : List Instant) : Nat → (Nat → Instant) → Nat → Instant
  | 0, clock => precededClock clock readings
  | n + 1, clock => fun
    | 0 => clock 0
    | k + 1 => delayedClock readings n (fun j => clock (j + 1)) k

/-- The surroundings with some more readings of the clock after the first `n`. -/
def delayed (w : Surroundings) (n : Nat) (readings : List Instant) : Surroundings :=
  { w with clock := delayedClock readings n w.clock }

/-- More readings of a clock that stands still change nothing. -/
theorem delayed_of_still {w : Surroundings} {t : Instant} (still : ∀ k, w.clock k = t) (n : Nat)
    {readings : List Instant} (same : ∀ x ∈ readings, x = t) : w.delayed n readings = w := by
  have preceded (clock : Nat → Instant) (still : ∀ k, clock k = t) (k : Nat) :
      precededClock clock readings k = t := by
    induction readings generalizing k with
    | nil => exact still k
    | cons x rest ih =>
      rw [List.forall_mem_cons] at same
      cases k with
      | zero => exact same.1
      | succ k => exact ih same.2 k
  have delayed (clock : Nat → Instant) (still : ∀ k, clock k = t) (k : Nat) :
      delayedClock readings n clock k = t := by
    induction n generalizing clock k with
    | zero => exact preceded clock still k
    | succ n ih =>
      cases k with
      | zero => exact still 0
      | succ k => exact ih _ (fun j => still (j + 1)) k
  have clock : delayedClock readings n w.clock = w.clock :=
    funext fun k => (delayed w.clock still k).trans (still k).symm
  rw [Surroundings.delayed, clock]

/-- The first of the readings that come at once is taken, and the others come at once. -/
theorem handle_now_delayed_cons (w : Surroundings) (t : Instant) (readings : List Instant) :
    (w.delayed 0 (t :: readings)).handle .now = (t, w.delayed 0 readings) := rfl

/-- A reading that is taken before the others come is that of the clock as it was. -/
theorem handle_now_delayed_succ (w : Surroundings) (n : Nat) (readings : List Instant) :
    (w.delayed (n + 1) readings).handle .now =
      ((w.handle .now).1, (w.handle .now).2.delayed n readings) := rfl

/-- Every other effect leaves the readings where they are. -/
theorem handle_delayed (w : Surroundings) (n : Nat) (readings : List Instant) {e : Effect}
    (other : e.isReading = false) :
    (w.delayed n readings).handle e = ((w.handle e).1, (w.handle e).2.delayed n readings) := by
  cases e with
  | now => cases other
  | post p =>
    have same : (w.delayed n readings).reaches p = w.reaches p := rfl
    simp only [handle, same]
    split <;> rfl
  | _ => rfl

end Surroundings

namespace Routine

variable {α β : Type}

/-- Readings of the clock that come after those that a run takes do not change the run, and are left
to what runs next. -/
theorem run_delayed (r : Routine α) (w : Surroundings) (n : Nat) (readings : List Instant) :
    r.run (w.delayed (Action.readings (r.run w).trace + n) readings) =
      { r.run w with rest := (r.run w).rest.delayed n readings } := by
  induction r generalizing w with
  | done a => simp [run_done, Action.readings]
  | halt o => simp [run, Action.readings]
  | ask e next ih =>
    -- only an effect that reads the clock counts down to the readings that were put in
    cases reading : e.isReading with
    | false =>
      have same : Action.readings ((ask e next).run w).trace =
          Action.readings ((next (w.handle e).1).run (w.handle e).2).trace := by
        rw [run_ask, Action.readings, List.countP_cons_of_neg (by simp [reading])]
        rfl
      rw [same, run_ask, Surroundings.handle_delayed _ _ _ reading, ih, run_ask]
    | true =>
      obtain rfl : e = .now := by
        cases e <;> first | rfl | cases reading
      have one_more : Action.readings ((ask .now next).run w).trace =
          Action.readings ((next (w.handle .now).1).run (w.handle .now).2).trace + 1 := by
        rw [run_ask, Action.readings, List.countP_cons_of_pos (by rfl)]
        rfl
      rw [one_more, Nat.add_right_comm, run_ask, Surroundings.handle_now_delayed_succ, ih, run_ask]

/-! ## Statements -/

/-- The routine with its statements worded differently. -/
def restated (f : Statement → Statement) : Routine α → Routine α
  | .done a => .done a
  | .halt o => .halt o
  | .ask (.execute s) next => .ask (.execute (f s)) fun reply => (next reply).restated f
  | .ask (.post p) next => .ask (.post p) fun answer => (next answer).restated f
  | .ask (.measure q) next => .ask (.measure q) fun answer => (next answer).restated f
  | .ask .now next => .ask .now fun t => (next t).restated f
  | .ask (.log entry) next => .ask (.log entry) fun answer => (next answer).restated f

theorem restated_bind (f : Statement → Statement) (r : Routine α) (g : α → Routine β) :
    (r >>= g).restated f = r.restated f >>= fun a => (g a).restated f := by
  have sequence {γ δ : Type} (e : Effect) (next : e.Answer → Routine γ) (g : γ → Routine δ) :
      ask e next >>= g = ask e fun answer => next answer >>= g := rfl
  induction r with
  | done a => rfl
  | halt o => rfl
  | ask e next ih =>
    cases e <;> simp only [sequence, restated, ih]

/-- A statement, and then what its reply is read as decides. -/
theorem restated_read (f : Statement → Statement) {s : Statement} {read : StoreReply → α}
    (g : α → Routine β) :
    ((do return read (← execute s)) >>= g).restated f =
      (do return read (← execute (f s))) >>= fun a => (g a).restated f := rfl

/-- A routine whose statements are worded differently runs alike on the same replies. -/
theorem run_restated (f : Statement → Statement) (r : Routine α) (w : Surroundings) :
    ((r.restated f).run w).result = (r.run w).result ∧
      ((r.restated f).run w).rest = (r.run w).rest ∧
      Action.statements ((r.restated f).run w).trace =
        (Action.statements (r.run w).trace).map fun x => (f x.1, x.2) := by
  induction r generalizing w with
  | done a => exact ⟨rfl, rfl, rfl⟩
  | halt o => exact ⟨rfl, rfl, rfl⟩
  | ask e next ih =>
    obtain ⟨result, rest, statements⟩ := ih (w.handle e).1 (w.handle e).2
    cases e with
    | execute s => exact ⟨result, rest, congrArg ((f s, (w.handle (.execute s)).1) :: ·) statements⟩
    | _ => exact ⟨result, rest, statements⟩

end Routine

end AlertRelay
