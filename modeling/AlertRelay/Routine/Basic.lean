import AlertRelay.Http.Post
import AlertRelay.Metric.Query
import AlertRelay.Routine.Log
import AlertRelay.Store.Reply
import AlertRelay.Store.Statement

/-!
# Routines

What the relay does to its surroundings is kept apart from how they answer. A routine is a tree:
it is done with a value, or it has one effect and goes on with the answer. A time that leaves its
range halts the routine.

## Main definitions

* `Effect` — what a routine may ask of its surroundings
* `Effect.Answer` — what comes back
* `Routine` — effects in sequence, as a monad

## Main results

* `Routine.bind_assoc` — sequencing is associative
-/

namespace AlertRelay

/-- What a routine may ask of its surroundings. -/
inductive Effect where
  | execute (statement : Statement)
  | post (request : Post)
  | measure (query : MetricQuery)
  | now
  | log (entry : LogEntry)

/-- What comes back from an effect. -/
@[reducible]
def Effect.Answer : Effect → Type
  | .execute _ => StoreReply
  | .post _ => PostReply
  | .measure _ => Except MetricError Float
  | .now => Instant
  | .log _ => Unit

/-- Effects in sequence, each depending on the answers before it. -/
inductive Routine (α : Type) : Type where
  | done (value : α)
  | halt (overflow : Instant.Overflow)
  | ask (effect : Effect) (next : effect.Answer → Routine α)

namespace Routine

variable {α β γ : Type}

/-- One routine and then another that depends on its value. -/
def bind : Routine α → (α → Routine β) → Routine β
  | .done a, f => f a
  | .halt o, _ => .halt o
  | .ask e next, f => .ask e fun answer => (next answer).bind f

instance : Monad Routine where
  pure := .done
  bind := bind

theorem bind_done (r : Routine α) : r.bind .done = r := by
  induction r with
  | done a => rfl
  | halt o => rfl
  | ask e next ih => simp only [bind, ih]

theorem bind_assoc (r : Routine α) (f : α → Routine β) (g : β → Routine γ) :
    (r.bind f).bind g = r.bind fun a => (f a).bind g := by
  induction r with
  | done a => rfl
  | halt o => rfl
  | ask e next ih => simp only [bind, ih]

instance : LawfulMonad Routine :=
  LawfulMonad.mk' _ bind_done (fun _ _ => rfl) bind_assoc

/-- One effect. -/
def effect (e : Effect) : Routine e.Answer := .ask e .done

/-- Runs a statement. -/
def execute (s : Statement) : Routine StoreReply := effect (.execute s)

/-- Sends a request. -/
def send (p : Post) : Routine PostReply := effect (.post p)

/-- Asks for a metric. -/
def measure : MetricSource Routine := fun q => effect (.measure q)

/-- Reads the clock. -/
def now : Routine Instant := effect .now

/-- Writes a log entry. -/
def log (level : LogLevel) (message : String) (fields : List (String × String)) : Routine Unit :=
  effect (.log ⟨level, message, fields⟩)

end Routine

end AlertRelay
