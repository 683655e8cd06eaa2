import AlertRelay.Routine.Basic

/-!
# Running a routine

The surroundings of a routine answer its effects from scripts: one reply for every statement, one
for every request that reaches the receiver, one metric source for every lookup, and one reading
of the clock after another. Running a routine gives its value and the effects it had with their
answers. A request to anyone but the receiver finds nobody there.

## Main definitions

* `Surroundings` — what answers
* `Surroundings.handle` — the answer to one effect, and what is left of the scripts
* `Routine.run` — a routine run to its end

## Main results

* `Routine.run_bind` — running two routines in sequence
-/

namespace AlertRelay

/-- What answers the effects of a routine. -/
structure Surroundings where
  replies : List StoreReply
  receiver : String
  answers : List PostReply
  metrics : Nat → MetricQuery → Except MetricError Float
  clock : Nat → Instant

namespace Surroundings

/-- The reply to a statement after the last one of the script. -/
def exhausted : StoreReply := .failed (.refused "script exhausted")

/-- The answer to a request after the last one of the script. -/
def accepted : PostReply := .status 200

/-- A request gets to the receiver. -/
def reaches (w : Surroundings) (p : Post) : Bool :=
  p.url.scheme == "http" && p.url.authority.any (·.place == w.receiver)

/-- The answer to one effect, and what is left of the scripts. -/
def handle (w : Surroundings) : (e : Effect) → e.Answer × Surroundings
  | .execute _ => (w.replies.headD exhausted, { w with replies := w.replies.tail })
  | .post p =>
    if w.reaches p then (w.answers.headD accepted, { w with answers := w.answers.tail })
    else (.broken, w)
  | .measure q => (w.metrics 0 q, { w with metrics := fun n => w.metrics (n + 1) })
  | .now => (w.clock 0, { w with clock := fun n => w.clock (n + 1) })
  | .log _ => ((), w)

end Surroundings

/-- An effect with its answer. -/
structure Action where
  effect : Effect
  answer : effect.Answer

/-- What running a routine gives. -/
structure Run (α : Type) where
  result : Except Instant.Overflow α
  trace : List Action
  rest : Surroundings

namespace Routine

variable {α β : Type}

/-- The routine run to its end. -/
def run : Routine α → Surroundings → Run α
  | .done a, w => ⟨.ok a, [], w⟩
  | .halt o, w => ⟨.error o, [], w⟩
  | .ask e next, w =>
    -- the effects that follow see what this one leaves
    let (answer, w') := w.handle e
    let r := (next answer).run w'
    { r with trace := ⟨e, answer⟩ :: r.trace }

theorem run_done (a : α) (w : Surroundings) : (done a).run w = ⟨.ok a, [], w⟩ := rfl

theorem run_ask (e : Effect) (next : e.Answer → Routine α) (w : Surroundings) :
    (ask e next).run w =
      { (next (w.handle e).1).run (w.handle e).2 with
        trace := ⟨e, (w.handle e).1⟩ :: ((next (w.handle e).1).run (w.handle e).2).trace } := rfl

/-- Two routines in sequence: the second runs in what the first leaves. -/
theorem run_bind (r : Routine α) (f : α → Routine β) (w : Surroundings) :
    (r >>= f).run w =
      match (r.run w).result with
      | .ok a =>
        { (f a).run (r.run w).rest with
          trace := (r.run w).trace ++ ((f a).run (r.run w).rest).trace }
      | .error o => ⟨.error o, (r.run w).trace, (r.run w).rest⟩ := by
  induction r generalizing w with
  | done a => rfl
  | halt o => rfl
  | ask e next ih =>
    have step : (ask e next >>= f) = ask e fun answer => next answer >>= f := rfl
    rw [step, run_ask, ih, run_ask]
    dsimp only
    split <;> rfl

end Routine

/-- The statements of a trace with their replies. -/
def Action.statement? : Action → Option (Statement × StoreReply)
  | ⟨.execute s, reply⟩ => some (s, reply)
  | _ => none

/-- The requests of a trace with their answers. -/
def Action.post? : Action → Option (Post × PostReply)
  | ⟨.post p, answer⟩ => some (p, answer)
  | _ => none

/-- The lookups of a trace with their answers. -/
def Action.lookup? : Action → Option (MetricQuery × Except MetricError Float)
  | ⟨.measure q, answer⟩ => some (q, answer)
  | _ => none

/-- The log entries of a trace. -/
def Action.entry? : Action → Option LogEntry
  | ⟨.log entry, _⟩ => some entry
  | _ => none

namespace Run

variable {α : Type}

/-- The statements that were run, in order. -/
def statements (r : Run α) : List Statement := (r.trace.filterMap Action.statement?).map Prod.fst

/-- The requests that were sent, in order. -/
def posts (r : Run α) : List Post := (r.trace.filterMap Action.post?).map Prod.fst

/-- The lookups that were made, in order. -/
def lookups (r : Run α) : List MetricQuery := (r.trace.filterMap Action.lookup?).map Prod.fst

/-- The log entries that were written, in order. -/
def entries (r : Run α) : List LogEntry := r.trace.filterMap Action.entry?

end Run

end AlertRelay
