import AlertRelay.Proofs.Routine.Responder
import AlertRelay.Proofs.Store.Secret

/-!
# Routines in step

Two routines go in step if they have the same effects on replies that are the same but for secrets,
where a request may also be signed differently, and if they come to related values. This is kept by
sequencing, so it can be read off the text of a routine, as long as what the routine reads of a
reply leaves the secrets out or is passed on to what goes in step on it. Along courses on which the
statements get replies that differ in nothing but secrets, and the requests the same answers, two
such routines do the same but for secrets and signatures. Nothing has to be known beforehand of what
they do: their answers are compared as far as both go on.

## Main definitions

* `Post.unsigned` — a request without its signature
* `Action.AnsweredAlike` — two traces are answered alike but for secrets, as far as both go on
* `Routine.InStep` — two routines go in step
* `Action.SameButSecrets` — two actions differ in secrets and signatures only

## Main results

* `Action.answeredAlike_of_scripted` — answers from scripts that differ in secrets only
* `Routine.InStep.bind` — sequencing keeps routines in step
* `Routine.InStep.courses` — the courses of such routines
* `Action.map_statements_eq` and its like — what the traces of such courses have in common
-/

namespace AlertRelay

/-- The request without its signature. -/
def Post.unsigned (p : Post) : Post := { p with signature := "" }

/-! ## Actions -/

namespace Action

/-- The actions are the same but for the secrets that a statement returned and for the signature of
a request. -/
inductive SameButSecrets : Action → Action → Prop
  | execute (s : Statement) {reply reply' : StoreReply} (same : reply.SameButSecrets reply') :
      SameButSecrets ⟨.execute s, reply⟩ ⟨.execute s, reply'⟩
  | post {p p' : Post} (unsigned : p.unsigned = p'.unsigned) (answer : PostReply) :
      SameButSecrets ⟨.post p, answer⟩ ⟨.post p', answer⟩
  | log (entry : LogEntry) : SameButSecrets ⟨.log entry, ()⟩ ⟨.log entry, ()⟩

/-- As far as both traces go on, their statements get replies that are the same but for secrets, and
their requests get the same answers. -/
structure AnsweredAlike (trace trace' : List Action) : Prop where
  replies : ∀ {n : Nat} {x x' : Statement × StoreReply}, (statements trace)[n]? = some x →
    (statements trace')[n]? = some x' → x.2.SameButSecrets x'.2
  answers : ∀ {n : Nat} {x x' : Post × PostReply}, (posts trace)[n]? = some x →
    (posts trace')[n]? = some x' → x.2 = x'.2

namespace AnsweredAlike

variable {trace trace' : List Action}

/-- Two statements at the beginning are replied to alike, and the rest is answered alike. -/
theorem of_execute {s s' : Statement} {reply reply' : StoreReply}
    (alike : AnsweredAlike (⟨.execute s, reply⟩ :: trace) (⟨.execute s', reply'⟩ :: trace')) :
    reply.SameButSecrets reply' ∧ AnsweredAlike trace trace' := by
  refine ⟨alike.replies (n := 0) rfl rfl, ⟨fun {n x x'} found found' => ?_, alike.answers⟩⟩
  exact alike.replies (n := n + 1) found found'

/-- Two requests at the beginning are answered alike, and so is the rest. -/
theorem of_post {p p' : Post} {answer answer' : PostReply}
    (alike : AnsweredAlike (⟨.post p, answer⟩ :: trace) (⟨.post p', answer'⟩ :: trace')) :
    answer = answer' ∧ AnsweredAlike trace trace' := by
  refine ⟨alike.answers (n := 0) rfl rfl, ⟨alike.replies, fun {n x x'} found found' => ?_⟩⟩
  exact alike.answers (n := n + 1) found found'

/-- Log entries do not matter to it. -/
theorem of_log {entry entry' : LogEntry}
    (alike : AnsweredAlike (⟨.log entry, ()⟩ :: trace) (⟨.log entry', ()⟩ :: trace')) :
    AnsweredAlike trace trace' :=
  ⟨alike.replies, alike.answers⟩

end AnsweredAlike

/-- Traces are answered alike when their replies come from scripts that are the same but for
secrets, and their answers from the same script. -/
theorem answeredAlike_of_scripted {replies replies' : List StoreReply} {answers : List PostReply}
    {trace trace' : List Action}
    (same : List.Forall₂ StoreReply.SameButSecrets replies replies')
    (gives : (Responder.scripted replies answers).Gives [] trace)
    (gives' : (Responder.scripted replies' answers).Gives [] trace') :
    AnsweredAlike trace trace' where
  replies {n x x'} found found' := by
    rw [gives.reply_eq found, gives'.reply_eq found']
    clear found found' gives gives'
    -- at each place of the scripts, and past the end of both
    induction same generalizing n with
    | nil => exact .refl _
    | cons first _ ih =>
      cases n with
      | zero => exact first
      | succ n => exact ih
  answers found found' := by rw [gives.answer_eq found, gives'.answer_eq found']

/-! ### What such traces have in common -/

/-- What is read off related items alike is the same of both lists. -/
theorem filterMap_eq_of_forall₂ {α β γ : Type} {R : α → β → Prop} {f : α → Option γ}
    {g : β → Option γ} {xs : List α} {ys : List β} (related : List.Forall₂ R xs ys)
    (same : ∀ {x y}, R x y → f x = g y) : xs.filterMap f = ys.filterMap g := by
  induction related with
  | nil => rfl
  | cons first _ ih => rw [List.filterMap_cons, List.filterMap_cons, same first, ih]

variable {trace trace' : List Action}

/-- The traces have the same statements, with everything that is bound to them. -/
theorem map_statements_eq (same : List.Forall₂ SameButSecrets trace trace') :
    (statements trace).map Prod.fst = (statements trace').map Prod.fst := by
  rw [statements, statements, List.map_filterMap, List.map_filterMap]
  refine filterMap_eq_of_forall₂ same fun related => ?_
  cases related <;> rfl

/-- The traces have the same requests but for signatures, in the same order, with the same
answers. -/
theorem map_posts_eq (same : List.Forall₂ SameButSecrets trace trace') :
    (posts trace).map (Prod.map Post.unsigned id) =
      (posts trace').map (Prod.map Post.unsigned id) := by
  rw [posts, posts, List.map_filterMap, List.map_filterMap]
  refine filterMap_eq_of_forall₂ same fun related => ?_
  cases related with
  | execute | log => rfl
  | post unsigned answer => exact congrArg (fun p => some (p, answer)) unsigned

/-- The traces report the same. -/
theorem filterMap_entry?_eq (same : List.Forall₂ SameButSecrets trace trace') :
    trace.filterMap entry? = trace'.filterMap entry? := by
  refine filterMap_eq_of_forall₂ same fun related => ?_
  cases related <;> rfl

end Action

/-! ## Routines -/

namespace Routine

variable {α β γ δ : Type}

/-- The routines have the same effects on replies that are the same but for secrets, where a request
may be signed differently, and come to related values. -/
inductive InStep (V : α → β → Prop) : Routine α → Routine β → Prop
  | done {a : α} {b : β} (related : V a b) : InStep V (.done a) (.done b)
  | halt (overflow : Instant.Overflow) : InStep V (.halt overflow) (.halt overflow)
  | execute (s : Statement) {next : StoreReply → Routine α} {next' : StoreReply → Routine β}
      (rest : ∀ {reply reply'}, StoreReply.SameButSecrets reply reply' →
        InStep V (next reply) (next' reply')) :
      InStep V (.ask (.execute s) next) (.ask (.execute s) next')
  | post {p p' : Post} (unsigned : p.unsigned = p'.unsigned) {next : PostReply → Routine α}
      {next' : PostReply → Routine β} (rest : ∀ answer, InStep V (next answer) (next' answer)) :
      InStep V (.ask (.post p) next) (.ask (.post p') next')
  | log (entry : LogEntry) {next : Unit → Routine α} {next' : Unit → Routine β}
      (rest : InStep V (next ()) (next' ())) :
      InStep V (.ask (.log entry) next) (.ask (.log entry) next')

namespace InStep

variable {U : α → β → Prop} {V : γ → δ → Prop} {r : Routine α} {r' : Routine β}
  {f : α → Routine γ} {f' : β → Routine δ}

/-- Sequencing keeps routines in step. -/
theorem bind (inStep : InStep U r r') (next : ∀ {a b}, U a b → InStep V (f a) (f' b)) :
    InStep V (r >>= f) (r' >>= f') := by
  induction inStep with
  | done related => exact next related
  | halt overflow => exact .halt overflow
  | execute s _ ih => exact .execute s fun same => ih same
  | post unsigned _ ih => exact .post unsigned fun answer => ih answer
  | log entry _ ih => exact .log entry ih

/-- Routines that come to the same value go on in step if they do so from every value. -/
theorem bind_same {s : Routine α} {g : α → Routine δ} (inStep : InStep Eq r s)
    (next : ∀ a, InStep V (f a) (g a)) : InStep V (r >>= f) (s >>= g) :=
  inStep.bind fun {a _} equal => equal ▸ next a

/-- Along courses that are answered alike, routines in step do the same but for secrets and
signatures and come to related values. -/
theorem courses (inStep : InStep U r r') {trace trace' : List Action}
    {result : Except Instant.Overflow α} {result' : Except Instant.Overflow β}
    (course : r.Course trace result) (course' : r'.Course trace' result')
    (alike : Action.AnsweredAlike trace trace') :
    EndsAlike U result result' ∧ List.Forall₂ Action.SameButSecrets trace trace' := by
  -- the first effects are the same but for a signature, so what is left of both is answered alike
  induction inStep generalizing trace trace' with
  | done related =>
    cases course
    cases course'
    exact ⟨.ok related, .nil⟩
  | halt overflow =>
    cases course
    cases course'
    exact ⟨.error overflow, .nil⟩
  | execute s _ ih =>
    cases course with
    | ask reply rest =>
      cases course' with
      | ask reply' rest' =>
        obtain ⟨replied, left⟩ := alike.of_execute
        obtain ⟨ended, later⟩ := ih replied rest rest' left
        exact ⟨ended, .cons (.execute s replied) later⟩
  | post unsigned _ ih =>
    cases course with
    | ask answer rest =>
      cases course' with
      | ask answer' rest' =>
        obtain ⟨answered, left⟩ := alike.of_post
        cases answered
        obtain ⟨ended, later⟩ := ih _ rest rest' left
        exact ⟨ended, .cons (.post unsigned _) later⟩
  | log entry _ ih =>
    cases course with
    | ask _ rest =>
      cases course' with
      | ask _ rest' =>
        obtain ⟨ended, later⟩ := ih rest rest' alike.of_log
        exact ⟨ended, .cons (.log entry) later⟩

end InStep

/-! ### Texts of routines -/

theorem inStep_pure {V : α → β → Prop} {a : α} {b : β} (related : V a b) :
    InStep V (pure a : Routine α) (pure b) :=
  .done related

theorem inStep_log (level : LogLevel) (message : String) (fields : List (String × String)) :
    InStep (fun _ _ => True) (log level message fields) (log level message fields) :=
  .log ⟨level, message, fields⟩ (.done trivial)

/-- A report, and then what goes in step. -/
theorem Reports.inStep {r : Routine Unit} (reports : r.Reports) {V : α → β → Prop}
    {f : Unit → Routine α} {f' : Unit → Routine β} (next : InStep V (f ()) (f' ())) :
    InStep V (r >>= f) (r >>= f') := by
  rcases reports with rfl | ⟨level, message, fields, rfl⟩
  · exact next
  · exact (inStep_log level message fields).bind fun _ => next

/-- A statement, and then what goes in step on what its reply is read as. -/
theorem inStep_read {s : Statement} {read : StoreReply → α} {U : α → α → Prop}
    {V : γ → δ → Prop} {f : α → Routine γ} {f' : α → Routine δ}
    (reads : ∀ {reply reply'}, StoreReply.SameButSecrets reply reply' →
      U (read reply) (read reply'))
    (next : ∀ {a b}, U a b → InStep V (f a) (f' b)) :
    InStep V ((do return read (← execute s)) >>= f) ((do return read (← execute s)) >>= f') :=
  .execute s fun same => next (reads same)

/-- A statement, and then what its reply is read as decides, which is not a secret. -/
theorem inStep_read_same {s : Statement} {read : StoreReply → α} {V : γ → δ → Prop}
    {f : α → Routine γ} {f' : α → Routine δ}
    (reads : ∀ {reply reply'}, StoreReply.SameButSecrets reply reply' → read reply = read reply')
    (next : ∀ a, InStep V (f a) (f' a)) :
    InStep V ((do return read (← execute s)) >>= f) ((do return read (← execute s)) >>= f') :=
  inStep_read reads fun {a _} equal => equal ▸ next a

end Routine

end AlertRelay
