import AlertRelay.Proofs.Routine.Only

/-!
# Courses of a routine

A run answers a routine from scripts, and only a request that gets to the scripted receiver is
answered from its script. A course leaves the answers open: it lists the effects that a routine has,
each with some answer of its kind, and says how the routine ends on these answers. So a fact about
every course holds of every run, and of every database and every receiver besides.

## Main definitions

* `Routine.Course` — effects with their answers, and how the routine ends on them
* `Routine.Reports` — a routine that at most writes a log entry
* `Script` — statements with their replies
* `Action.statements`, `Action.posts` — the statements and the requests of a course

## Main results

* `Routine.course_run` — every run is a course
* `Routine.Reports.run_eq` — a report leaves everything as it is
* `Routine.Course.of_bind` — a course of two routines in sequence is a course of each
-/

namespace AlertRelay

/-- Statements with their replies, in the order in which they were run. -/
abbrev Script := List (Statement × StoreReply)

namespace Action

/-- The statements among some actions, with their replies. -/
def statements (trace : List Action) : Script := trace.filterMap statement?

/-- The requests among some actions, with their answers. -/
def posts (trace : List Action) : List (Post × PostReply) := trace.filterMap post?

@[simp]
theorem statements_nil : statements [] = [] := rfl

@[simp]
theorem posts_nil : posts [] = [] := rfl

@[simp]
theorem statements_append (trace later : List Action) :
    statements (trace ++ later) = statements trace ++ statements later := List.filterMap_append

@[simp]
theorem posts_append (trace later : List Action) :
    posts (trace ++ later) = posts trace ++ posts later := List.filterMap_append

theorem statements_flatten (traces : List (List Action)) :
    statements traces.flatten = traces.flatMap statements := by
  rw [statements, List.filterMap_flatten, List.flatMap_def]
  rfl

@[simp]
theorem statements_execute (s : Statement) (reply : StoreReply) (rest : List Action) :
    statements (⟨.execute s, reply⟩ :: rest) = (s, reply) :: statements rest := rfl

@[simp]
theorem posts_execute (s : Statement) (reply : StoreReply) (rest : List Action) :
    posts (⟨.execute s, reply⟩ :: rest) = posts rest := rfl

@[simp]
theorem statements_post (p : Post) (answer : PostReply) (rest : List Action) :
    statements (⟨.post p, answer⟩ :: rest) = statements rest := rfl

@[simp]
theorem posts_post (p : Post) (answer : PostReply) (rest : List Action) :
    posts (⟨.post p, answer⟩ :: rest) = (p, answer) :: posts rest := rfl

@[simp]
theorem statements_log (entry : LogEntry) (rest : List Action) :
    statements (⟨.log entry, ()⟩ :: rest) = statements rest := rfl

@[simp]
theorem posts_log (entry : LogEntry) (rest : List Action) :
    posts (⟨.log entry, ()⟩ :: rest) = posts rest := rfl

end Action

namespace Routine

variable {α β : Type} {P : Effect → Prop} {r : Routine α} {f : α → Routine β}
  {trace : List Action} {result : Except Instant.Overflow β}

/-- The routine may have these effects with these answers, and ends so on them. -/
inductive Course {α : Type} :
    Routine α → List Action → Except Instant.Overflow α → Prop
  | done (a : α) : Course (.done a) [] (.ok a)
  | halt (overflow : Instant.Overflow) : Course (.halt overflow) [] (.error overflow)
  | ask {effect : Effect} {next : effect.Answer → Routine α} {trace : List Action}
      {result : Except Instant.Overflow α} (answer : effect.Answer)
      (rest : (next answer).Course trace result) :
      Course (.ask effect next) (⟨effect, answer⟩ :: trace) result

/-- Every run is a course. -/
theorem course_run (r : Routine α) (w : Surroundings) :
    r.Course (r.run w).trace (r.run w).result := by
  induction r generalizing w with
  | done a => exact .done a
  | halt overflow => exact .halt overflow
  | ask effect next ih => exact .ask _ (ih _ _)

/-- The routine reports something at most. -/
def Reports (r : Routine Unit) : Prop :=
  r = pure () ∨ ∃ level message fields, r = log level message fields

/-- A report leaves the surroundings as they are, and neither states nor requests anything. -/
theorem Reports.run_eq {r : Routine Unit} (reports : r.Reports) (w : Surroundings) :
    ∃ trace, r.run w = ⟨.ok (), trace, w⟩ ∧ Action.statements trace = [] ∧
      Action.posts trace = [] := by
  rcases reports with rfl | ⟨level, message, fields, rfl⟩
  · exact ⟨[], rfl, rfl, rfl⟩
  · exact ⟨_, rfl, rfl, rfl⟩

namespace Course

/-- A course of two routines in sequence: the first comes to its value and the second goes on from
there, or the first is halted. -/
theorem of_bind (course : (r >>= f).Course trace result) :
    (∃ a first rest, r.Course first (.ok a) ∧ (f a).Course rest result ∧ trace = first ++ rest) ∨
      ∃ overflow, r.Course trace (.error overflow) ∧ result = .error overflow := by
  induction r generalizing trace with
  | done a => exact .inl ⟨a, [], trace, .done a, course, rfl⟩
  | halt overflow =>
    cases course with
    | halt => exact .inr ⟨overflow, .halt overflow, rfl⟩
  | ask effect next ih =>
    cases course with
    | ask answer rest =>
      rcases ih answer rest with ⟨a, first, later, head, tail, rfl⟩ | ⟨overflow, halted, ended⟩
      · exact .inl ⟨a, _, later, .ask answer head, tail, rfl⟩
      · exact .inr ⟨overflow, .ask answer halted, ended⟩

theorem of_pure {b : β} (course : (pure b : Routine β).Course trace result) :
    trace = [] ∧ result = .ok b := by
  cases course with
  | done => exact ⟨rfl, rfl⟩

/-- One effect, and then what its answer decides. -/
theorem of_effect {effect : Effect} {next : effect.Answer → Routine β}
    (course : (Routine.effect effect >>= next).Course trace result) :
    ∃ answer rest, trace = ⟨effect, answer⟩ :: rest ∧ (next answer).Course rest result := by
  cases course with
  | ask answer rest => exact ⟨answer, _, rfl, rest⟩

/-- A statement, and then what its reply is read as decides. -/
theorem of_read {s : Statement} {read : StoreReply → α}
    (course : ((do return read (← execute s)) >>= f).Course trace result) :
    ∃ reply rest, trace = ⟨.execute s, reply⟩ :: rest ∧
      (f (read reply)).Course rest result := by
  cases course with
  | ask reply rest => exact ⟨reply, _, rfl, rest⟩

/-- A log entry and nothing else. -/
theorem of_log {level : LogLevel} {message : String} {fields : List (String × String)}
    {ended : Except Instant.Overflow Unit}
    (course : (log level message fields).Course trace ended) :
    trace = [⟨.log ⟨level, message, fields⟩, ()⟩] ∧ ended = .ok () := by
  cases course with
  | ask answer rest =>
    cases rest with
    | done => exact ⟨rfl, rfl⟩

/-- A log entry, and then a value. -/
theorem of_log_pure {level : LogLevel} {message : String} {fields : List (String × String)} {b : β}
    (course : (log level message fields >>= fun _ => (pure b : Routine β)).Course trace result) :
    trace = [⟨.log ⟨level, message, fields⟩, ()⟩] ∧ result = .ok b := by
  cases course with
  | ask answer rest =>
    obtain ⟨rfl, rfl⟩ := of_pure rest
    exact ⟨rfl, rfl⟩

/-- A report, and then the rest. -/
theorem of_reports {r : Routine Unit} {f : Unit → Routine β} (reports : r.Reports)
    (course : (r >>= f).Course trace result) :
    ∃ rest, (f ()).Course rest result ∧ Action.statements trace = Action.statements rest ∧
      Action.posts trace = Action.posts rest := by
  rcases reports with rfl | ⟨level, message, fields, rfl⟩
  · exact ⟨trace, course, rfl, rfl⟩
  · obtain ⟨_, rest, rfl, tail⟩ := of_effect course
    exact ⟨rest, tail, rfl, rfl⟩

end Course

end Routine

end AlertRelay
