import AlertRelay.Proofs.Cooldown.Announcement
import AlertRelay.Proofs.Event.Envelope
import AlertRelay.Proofs.Routine.Change
import AlertRelay.Proofs.Scheduler.Lookup

/-!
# One alert on one tick

An alert whose definition does not decode, or whose cooldown is running, has no effect. Any other is
looked up metric by metric; a lookup that fails ends it, and so does an evaluation that does not
trigger. An alert that fires is recorded, stamped and announced, one after another and whatever is
replied. All that the announcement keeps of the two replies is the number of the record, which is
null when the record could not be written.

## Main definitions

* `AlertRecord.IsMalformed` — the alert has no rule
* `AlertRecord.Evaluates` — the alert is due, and its metrics are answered
* `AlertRecord.Proceeds` — what processing an alert does, case by case
* `AlertRecord.announcement` — the document that announces a trigger
* `AlertRecord.DifferInRecord` — the statements of two runs differ in the number of the record

## Main results

* `AlertRecord.process_run` — every run of the processing of an alert proceeds so
* `AlertRecord.process_proceeds` — and two runs under other replies to the record and the stamp
  differ in the number of the record
-/

namespace AlertRelay

open MetricQuery

/-! ## The announcement -/

/-- The statement with another document to be delivered, if it queues one. -/
def Statement.withPayload (payload : Json) : Statement → Statement
  | .enqueue d => .enqueue { d with payload }
  | s => s

namespace AlertRecord

variable {a : AlertRecord} {now : Instant}

/-- The document that announces a trigger. -/
def announcement (a : AlertRecord) (t : Trigger) : Json :=
  .obj
    [("data", .obj
      [("alert", .obj [("id", .int a.id), ("name", .str a.name), ("severity", .str a.severity)]),
       ("history", .obj [("id", .ofOption .int t.historyId), ("metadata", t.metadata),
         ("triggered_at", t.triggeredAt.json)])]),
     ("tenant_id", .int a.tenantId), ("timestamp", t.triggeredAt.json),
     ("type", .str alertTriggered)]

/-- What is queued for a trigger with stored metadata is its announcement. -/
theorem payload_event {t : Trigger} (stored : t.metadata.sorted = t.metadata) :
    (t.event a).payload = a.announcement t := by
  rw [TenantEvent.payload_eq, t.sorted_data_event, t.data_event, stored]
  rfl

/-- What becomes of a channel does not depend on the document that is queued for it. -/
theorem dispatch_restated (a : AlertRecord) (payload other : Json) (c : Channel) :
    (a.dispatch payload c).restated (.withPayload other) = a.dispatch other c := by
  cases c with
  | unsupported => rfl
  | webhook id =>
    refine (Routine.restated_read _ _).trans (congrArg _ (funext fun found => ?_))
    rcases found with e | _ | webhook
    · rfl
    · rfl
    · dsimp only
      cases webhook.enabled with
      | false => rfl
      | true =>
        -- this is the one statement that carries the document
        refine (Routine.restated_read _ _).trans (congrArg _ (funext fun queued => ?_))
        cases queued <;> rfl

theorem dispatchAll_restated (a : AlertRecord) (payload other : Json) (channels : List Channel) :
    (a.dispatchAll payload channels).restated (.withPayload other) =
      a.dispatchAll other channels := by
  induction channels with
  | nil => rfl
  | cons c rest ih =>
    rw [dispatchAll, dispatchAll, Routine.restated_bind, dispatch_restated]
    refine congrArg _ (funext fun outcome => ?_)
    cases outcome with
    | ok id => exact (Routine.restated_bind _ _ _).trans (by rw [ih]; rfl)
    | error e =>
      refine (Routine.restated_bind _ _ _).trans (congrArg _ (funext fun _ => ?_))
      exact (Routine.restated_bind _ _ _).trans (by rw [ih]; rfl)

/-- Two triggers of an alert are announced by the same statements, but for the document. -/
theorem notify_restated (a : AlertRecord) (t other : Trigger) :
    (a.notify t).restated (.withPayload (other.event a).payload) = a.notify other := by
  rw [notify, notify]
  cases a.decodedChannels with
  | error e => rfl
  | ok channels =>
    refine (Routine.restated_bind _ _ _).trans ?_
    rw [dispatchAll_restated]
    refine congrArg _ (funext fun outcome => ?_)
    split <;> rfl

/-! ## What processing comes to -/

theorem dispatch_completes (a : AlertRecord) (payload : Json) (c : Channel) :
    (a.dispatch payload c).Completes := by
  cases c with
  | unsupported => exact Routine.completes_pure _
  | webhook id =>
    refine Routine.completes_read fun found => ?_
    rcases found with e | _ | webhook
    · exact Routine.completes_pure _
    · exact Routine.completes_pure _
    · dsimp only
      split
      · refine Routine.completes_read fun queued => ?_
        cases queued <;> exact Routine.completes_pure _
      · exact Routine.completes_pure _

theorem dispatchAll_completes (a : AlertRecord) (payload : Json) (channels : List Channel) :
    (a.dispatchAll payload channels).Completes := by
  induction channels with
  | nil => exact Routine.completes_pure _
  | cons c rest ih =>
    refine (dispatch_completes a payload c).bind fun outcome => ?_
    cases outcome with
    | ok id => exact ih.bind fun _ => Routine.completes_pure _
    | error e =>
      exact (Routine.completes_log _ _ _).bind fun _ => ih.bind fun _ => Routine.completes_pure _

/-- Announcing a trigger comes to an end, whatever is replied. -/
theorem notify_completes (a : AlertRecord) (t : Trigger) : (a.notify t).Completes := by
  rw [notify]
  cases a.decodedChannels with
  | error e => exact Routine.completes_pure _
  | ok channels =>
    refine (dispatchAll_completes a _ channels).bind fun outcome => ?_
    split <;> exact Routine.completes_pure _

/-- The number of a record, unless it could not be written. -/
def recordedId (reply : StoreReply) : Option Int :=
  (reply.one HistoryRecord.ofRow).toOption.map HistoryRecord.id

/-- What is recorded of an evaluation that triggers. -/
def history (a : AlertRecord) (now : Instant) (e : Evaluation) : NewHistory :=
  { alertId := a.id, tenantId := a.tenantId, triggeredAt := now, metadata := e.metadata }

/-- The trigger that is announced, after the reply to its record. -/
def trigger (now : Instant) (e : Evaluation) (recorded : StoreReply) : Trigger :=
  { historyId := recordedId recorded, triggeredAt := now, metadata := e.metadata }

/-- How an alert that was announced ends. -/
def announced : Except NotifyError (List Int) → Except AlertRunError AlertOutcome
  | .error e => .error (.notify e)
  | .ok _ => .ok .triggered

theorem recordTrigger_run (a : AlertRecord) (now : Instant) (metadata : Json) (w : Surroundings) :
    ∃ trace, (a.recordTrigger now metadata).run w =
        ⟨.ok (recordedId (w.reply 0)), trace, w.afterStatements 1⟩ ∧
      Action.statements trace = [(.insertHistory
        { alertId := a.id, tenantId := a.tenantId, triggeredAt := now, metadata }, w.reply 0)] := by
  rw [recordTrigger, AlertStore.createHistory, Routine.run_read, recordedId]
  cases (w.reply 0).one HistoryRecord.ofRow with
  | ok record => exact ⟨_, rfl, rfl⟩
  | error e => exact ⟨_, rfl, rfl⟩

theorem stampTrigger_run (a : AlertRecord) (now : Instant) (w : Surroundings) :
    ∃ trace, (a.stampTrigger now).run w = ⟨.ok (), trace, w.afterStatements 1⟩ ∧
      Action.statements trace = [(.setAlertTriggered a.id now, w.reply 0)] := by
  rw [stampTrigger, AlertStore.setTriggered, Routine.run_read]
  cases (w.reply 0).ran with
  | ok _ => exact ⟨_, rfl, rfl⟩
  | error e => exact ⟨_, rfl, rfl⟩

theorem logTriggered_reports (a : AlertRecord) (historyId : Option Int) :
    (a.logTriggered historyId).Reports :=
  .inr ⟨_, _, _, rfl⟩

/-- A trigger is recorded, stamped and announced, whatever is replied to the first two. -/
theorem fire_run (a : AlertRecord) (now : Instant) (e : Evaluation) (w : Surroundings) :
    let announcing := (a.notify (trigger now e (w.reply 0))).run (w.afterStatements 2)
    ∃ effects sent, announcing.result = .ok sent ∧
      (a.fire now e.metadata).run w = ⟨.ok (announced sent), effects, announcing.rest⟩ ∧
      Action.statements effects =
        (.insertHistory (a.history now e), w.reply 0) :: (.setAlertTriggered a.id now, w.reply 1) ::
          Action.statements announcing.trace := by
  intro announcing
  obtain ⟨recording, recorded, inserted⟩ := recordTrigger_run a now e.metadata w
  obtain ⟨stamping, stamped, updated⟩ := stampTrigger_run a now (w.afterStatements 1)
  rw [Surroundings.afterStatements_afterStatements] at stamped
  obtain ⟨report, reported, silent, -⟩ :=
    (logTriggered_reports a (recordedId (w.reply 0))).run_eq (w.afterStatements 2)
  obtain ⟨sent, ended⟩ := (notify_completes a (trigger now e (w.reply 0))).exists_result
    (w.afterStatements 2)
  have announces : (a.notify (trigger now e (w.reply 0))).run (w.afterStatements 2) =
      ⟨.ok sent, announcing.trace, announcing.rest⟩ := by
    rw [← ended]
  refine ⟨recording ++ (stamping ++ (report ++ announcing.trace)), sent, ended, ?_, ?_⟩
  · rw [trigger] at announces
    rw [fire, Routine.run_bind_of_ok recorded, Routine.run_bind_of_ok stamped,
      Routine.run_bind_of_ok reported, Routine.run_bind_of_ok announces]
    cases sent <;> simp [announced, Routine.run_done, pure]
  · simp [inserted, updated, silent, history, Surroundings.reply_afterStatements]

/-! ## One run -/

/-- The conditions of the alert or its logic do not decode. -/
def IsMalformed (a : AlertRecord) : Prop :=
  (∃ e, Decode.list Condition.decode a.conditions = .error e) ∨
    Logic.ofName? a.conditionLogic = none

/-- The alert decodes to a rule that is due, and whose window begins at `start`. -/
structure Starts (a : AlertRecord) (now : Instant) (rule : Rule) (start : Instant) : Prop where
  decoded : a.rule = .ok rule
  due : rule.isDue now = .ok true
  window : now.earlier rule.windowSeconds = .ok start

/-- The alert is due, its metrics are looked up in the order of its conditions and all answered, and
this is what it evaluates to. -/
inductive Evaluates (source : MetricSource Routine) (a : AlertRecord) (now : Instant)
    (w : Surroundings) : List Action → Evaluation → Surroundings → Prop
  | intro {rule : Rule} {start : Instant} {asked : List Action} {values : List Float}
      {w' : Surroundings} (starts : a.Starts now rule start)
      (answered : Answered source (rule.queries start now) w asked values w') :
      Evaluates source a now w asked (rule.evaluation start now values) w'

/-- What processing an alert does: its result, its effects with their answers, and what it leaves.
-/
inductive Proceeds (source : MetricSource Routine) (a : AlertRecord) (now : Instant)
    (w : Surroundings) : Run (Except AlertRunError AlertOutcome) → Prop
  /-- An alert whose conditions or logic do not decode is refused. -/
  | malformed {e : DomainError} (undecodable : a.IsMalformed) (refused : a.rule = .error e) :
      Proceeds source a now w ⟨.ok (.error (.definition e)), [], w⟩
  /-- An alert whose cooldown is running is left alone. -/
  | cooling {rule : Rule} (decoded : a.rule = .ok rule) (cools : rule.isDue now = .ok false) :
      Proceeds source a now w ⟨.ok (.ok .coolingDown), [], w⟩
  /-- The end of the cooldown or the beginning of the window is out of range. -/
  | overflowed {rule : Rule} {o : Instant.Overflow} (decoded : a.rule = .ok rule)
      (leaves : rule.isDue now = .error o ∨
        rule.isDue now = .ok true ∧ now.earlier rule.windowSeconds = .error o) :
      Proceeds source a now w ⟨.error o, [], w⟩
  /-- The first lookup that fails is the last effect. -/
  | unmeasured {rule : Rule} {start : Instant} {asked : List Action}
      {ending : Except Instant.Overflow MetricError} {w' : Surroundings}
      (starts : a.Starts now rule start)
      (stops : StopsAt source (rule.queries start now) w asked ending w') :
      Proceeds source a now w ⟨ending.map fun e => .error (.metric e), asked, w'⟩
  /-- Nothing is stated about an evaluation that does not trigger. -/
  | quiet {asked reports : List Action} {e : Evaluation} {w' : Surroundings}
      (evaluates : a.Evaluates source now w asked e w') (quiet : e.triggered = false)
      (silent : Action.statements reports = []) :
      Proceeds source a now w ⟨.ok (.ok .notTriggered), asked ++ reports, w'⟩
  /-- An evaluation that triggers is recorded, stamped and announced, in this order. -/
  | fired {asked effects : List Action} {e : Evaluation} {w' : Surroundings}
      {announcing : Run (Except NotifyError (List Int))} {sent : Except NotifyError (List Int)}
      (evaluates : a.Evaluates source now w asked e w') (triggers : e.triggered = true)
      (announces : announcing =
        (a.notify (trigger now e (w'.reply 0))).run (w'.afterStatements 2))
      (ended : announcing.result = .ok sent)
      (stated : Action.statements effects =
        (.insertHistory (a.history now e), w'.reply 0) ::
          (.setAlertTriggered a.id now, w'.reply 1) :: Action.statements announcing.trace) :
      Proceeds source a now w ⟨.ok (announced sent), asked ++ effects, announcing.rest⟩

variable {source : MetricSource Routine} {w w' : Surroundings} {rule : Rule} {start : Instant}
  {asked : List Action} {e : Evaluation}

theorem Evaluates.reply_rest (evaluates : a.Evaluates source now w asked e w') (n : Nat) :
    w'.reply n = w.reply ((Action.statements asked).length + n) := by
  obtain ⟨-, answered⟩ := evaluates
  exact answered.reply_rest n

/-- Only the replies to the lookups matter to what an alert evaluates to. -/
theorem Evaluates.alike {changed : Nat → Prop} {v : Surroundings}
    (evaluates : a.Evaluates source now w asked e w') (alike : w.Alike changed v)
    (unread : ∀ n < (Action.statements asked).length, ¬ changed n) :
    ∃ v', a.Evaluates source now v asked e v' ∧
      w'.Alike (fun n => changed ((Action.statements asked).length + n)) v' := by
  obtain ⟨starts, answered⟩ := evaluates
  obtain ⟨v', answered', left⟩ := answered.alike alike unread
  exact ⟨v', .intro starts answered', left⟩

/-- An alert is malformed when it has no rule. -/
theorem isMalformed_iff : a.IsMalformed ↔ ∃ error, a.rule = .error error := by
  rw [IsMalformed, AlertRecord.rule]
  cases Decode.list Condition.decode a.conditions with
  | error e => simp
  | ok conditions => cases logic : Logic.ofName? a.conditionLogic <;> simp [Logic.parse, logic]

/-- The evaluation of an alert comes first, and is concluded in what it leaves. -/
theorem process_of_starts (starts : a.Starts now rule start) :
    a.process source now = rule.observe source start now rule.conditions >>= fun
      | .error e => (pure (.error (.metric e)) : Routine _)
      | .ok observations => a.conclude now (rule.conclude start now observations) := by
  rw [process, starts.decoded]
  dsimp only
  rw [Rule.evaluateIfDue_eq_observe starts.due starts.window, LawfulMonad.bind_assoc]
  refine congrArg _ (funext fun observed => ?_)
  cases observed <;> rfl

theorem warning_reports (warns : Bool) (message : String) (fields : List (String × String)) :
    (if warns then Routine.log .warn message fields else pure ()).Reports := by
  cases warns with
  | false => exact .inl rfl
  | true => exact .inr ⟨_, _, _, rfl⟩

/-- A run that evaluates goes on to the conclusion, in what the lookups leave. -/
theorem process_run_of_evaluates (evaluates : a.Evaluates source now w asked e w') :
    (a.process source now).run w =
      { (a.conclude now e).run w' with trace := asked ++ ((a.conclude now e).run w').trace } := by
  obtain ⟨starts, answered⟩ := evaluates
  rw [process_of_starts starts, Routine.run_bind_of_ok (Rule.observe_run_of_answered answered)]
  rfl

/-- An evaluation that does not trigger is reported at most. -/
theorem conclude_run_of_quiet (a : AlertRecord) (now : Instant) (quiet : e.triggered = false)
    (w : Surroundings) :
    ∃ reports, (a.conclude now e).run w = ⟨.ok (.ok .notTriggered), reports, w⟩ ∧
      Action.statements reports = [] := by
  obtain ⟨warning, warned, silent, -⟩ := (warning_reports e.hasUnknownOperator
    "Alert has an unknown operator" [LogEntry.number "alert_id" a.id]).run_eq w
  rw [conclude_eq, Routine.run_bind_of_ok warned, quiet]
  exact ⟨_, by simp [Routine.run_done, pure], silent⟩

/-- An evaluation that triggers is recorded, stamped and announced. -/
theorem conclude_run_of_triggered (a : AlertRecord) (now : Instant) (triggers : e.triggered = true)
    (w : Surroundings) :
    let announcing := (a.notify (trigger now e (w.reply 0))).run (w.afterStatements 2)
    ∃ effects sent, announcing.result = .ok sent ∧
      (a.conclude now e).run w = ⟨.ok (announced sent), effects, announcing.rest⟩ ∧
      Action.statements effects =
        (.insertHistory (a.history now e), w.reply 0) :: (.setAlertTriggered a.id now, w.reply 1) ::
          Action.statements announcing.trace := by
  intro announcing
  obtain ⟨warning, warned, silent, -⟩ := (warning_reports e.hasUnknownOperator
    "Alert has an unknown operator" [LogEntry.number "alert_id" a.id]).run_eq w
  obtain ⟨effects, sent, ended, fired, stated⟩ := fire_run a now e w
  refine ⟨warning ++ effects, sent, ended, ?_, ?_⟩
  · rw [conclude_eq, Routine.run_bind_of_ok warned, triggers]
    simp [fired, announcing]
  · rw [Action.statements_append, silent, stated]
    rfl

/-- A run that starts is stopped by a lookup, or concludes what it evaluates to. -/
theorem process_run_of_starts (starts : a.Starts now rule start) (w : Surroundings) :
    a.Proceeds source now w ((a.process source now).run w) := by
  rcases answered_or_stopsAt source (rule.queries start now) w with
    ⟨asked, values, w', answered⟩ | ⟨asked, ending, w', stops⟩
  · have evaluates := Evaluates.intro starts answered
    rw [process_run_of_evaluates evaluates]
    cases triggers : (rule.evaluation start now values).triggered with
    | false =>
      obtain ⟨reports, concluded, silent⟩ := conclude_run_of_quiet a now triggers w'
      rw [concluded]
      exact .quiet evaluates triggers silent
    | true =>
      obtain ⟨effects, sent, ended, concluded, stated⟩ :=
        conclude_run_of_triggered a now triggers w'
      rw [concluded]
      exact .fired evaluates triggers rfl ended stated
  · -- the lookup that stops is the end of it, whether it fails or leaves the range of instants
    have proceeds := Proceeds.unmeasured starts stops
    have observed := Rule.observe_run_of_stopsAt stops
    rw [process_of_starts starts]
    cases ending with
    | error o =>
      rw [Routine.run_bind_of_error observed]
      exact proceeds
    | ok error =>
      rw [Routine.run_bind_of_ok observed]
      simpa [Routine.run_done, pure, Except.map] using proceeds

/-- Every run of the processing of an alert proceeds so. -/
theorem process_run (source : MetricSource Routine) (a : AlertRecord) (now : Instant)
    (w : Surroundings) : a.Proceeds source now w ((a.process source now).run w) := by
  cases decoded : a.rule with
  | error e =>
    rw [process, decoded]
    exact .malformed (isMalformed_iff.mpr ⟨e, decoded⟩) decoded
  | ok rule =>
    cases due : rule.isDue now with
    | error o =>
      rw [process, decoded]
      simp only [Rule.evaluateIfDue, due]
      exact .overflowed decoded (.inl due)
    | ok ready =>
      cases ready with
      | false =>
        rw [process, decoded]
        simp only [Rule.evaluateIfDue, due]
        exact .cooling decoded due
      | true =>
        cases window : now.earlier rule.windowSeconds with
        | error o =>
          rw [process, decoded]
          simp only [Rule.evaluateIfDue, due, Rule.evaluate, window]
          exact .overflowed decoded (.inr ⟨due, window⟩)
        | ok start => exact process_run_of_starts ⟨decoded, due, window⟩ w

/-! ## Two runs -/

/-- What is announced of two triggers, in surroundings that reply alike, is the same in all but the
document. -/
theorem notify_run_alike (a : AlertRecord) (t other : Trigger) {w v : Surroundings}
    (stored : other.metadata.sorted = other.metadata) (alike : w.Alike (fun _ => False) v) :
    ((a.notify other).run v).result = ((a.notify t).run w).result ∧
      Action.statements ((a.notify other).run v).trace =
        (Action.statements ((a.notify t).run w).trace).map
          (fun x => (x.1.withPayload (a.announcement other), x.2)) ∧
      ((a.notify t).run w).rest.Alike (fun _ => False) ((a.notify other).run v).rest := by
  -- first the same trigger in the other surroundings, then the other trigger there
  obtain ⟨v', ran, left⟩ := Routine.run_alike (r := a.notify t) alike fun _ _ changed => changed
  obtain ⟨result, rest, stated⟩ :=
    Routine.run_restated (.withPayload (other.event a).payload) (a.notify t) v
  rw [notify_restated, ran] at result rest stated
  rw [payload_event stored] at stated
  exact ⟨result, stated, by rw [rest]; exact left⟩

/-- Every delivery that is queued for a trigger carries its announcement. -/
theorem withPayload_of_mem_notify {t : Trigger} {w : Surroundings} {x : Statement × StoreReply}
    (stored : t.metadata.sorted = t.metadata)
    (member : x ∈ Action.statements ((a.notify t).run w).trace) :
    x.1.withPayload (a.announcement t) = x.1 := by
  obtain ⟨-, stated, -⟩ := notify_run_alike a t t stored (.refl _ w)
  have fixed := List.map_inj_left.mp (stated.symm.trans (List.map_id _).symm) x member
  exact congrArg Prod.fst fixed

/-- Two runs that evaluate alike to a trigger, after the same lookups. They end alike, and what they
state is the same in all but the replies to the record and to the stamp, and the document that
announces the trigger. -/
structure DifferInRecord (a : AlertRecord) (now : Instant) (e : Evaluation) (before : Script)
    (w v : Surroundings) (run other : Run (Except AlertRunError AlertOutcome)) : Prop where
  result : other.result = run.result
  statements : ∃ announcing : Script,
    (∀ x ∈ announcing,
      x.1.withPayload (a.announcement (trigger now e (w.reply before.length))) = x.1) ∧
    Action.statements run.trace = before ++
      (.insertHistory (a.history now e), w.reply before.length) ::
      (.setAlertTriggered a.id now, w.reply (before.length + 1)) :: announcing ∧
    Action.statements other.trace = before ++
      (.insertHistory (a.history now e), v.reply before.length) ::
      (.setAlertTriggered a.id now, v.reply (before.length + 1)) ::
        announcing.map fun x =>
          (x.1.withPayload (a.announcement (trigger now e (v.reply before.length))), x.2)
  rest : run.rest.Alike (fun _ => False) other.rest

/-- An evaluation that triggers comes out so in the whole of a run. -/
theorem process_run_of_triggered (evaluates : a.Evaluates source now w asked e w')
    (triggers : e.triggered = true) :
    let announcing := (a.notify (trigger now e (w'.reply 0))).run (w'.afterStatements 2)
    ∃ effects sent, announcing.result = .ok sent ∧
      (a.process source now).run w = ⟨.ok (announced sent), asked ++ effects, announcing.rest⟩ ∧
      Action.statements effects =
        (.insertHistory (a.history now e), w'.reply 0) ::
          (.setAlertTriggered a.id now, w'.reply 1) :: Action.statements announcing.trace := by
  intro announcing
  obtain ⟨effects, sent, ended, concluded, stated⟩ :=
    conclude_run_of_triggered a now triggers w'
  refine ⟨effects, sent, ended, ?_, stated⟩
  rw [process_run_of_evaluates evaluates, concluded]

/-- Runs under other replies to the record and to the stamp differ so. -/
theorem process_differInRecord (evaluates : a.Evaluates source now w asked e w')
    (triggers : e.triggered = true) {v : Surroundings}
    (alike : w.Alike (fun n => n = (Action.statements asked).length ∨
      n = (Action.statements asked).length + 1) v) :
    a.DifferInRecord now e (Action.statements asked) w v ((a.process source now).run w)
      ((a.process source now).run v) := by
  obtain ⟨v', evaluates', left⟩ := evaluates.alike alike fun n read => by omega
  have stored : e.metadata.sorted = e.metadata := Json.sorted_sorted _
  -- from the third statement on, no reply is changed
  have later : (w'.afterStatements 2).Alike (fun _ => False) (v'.afterStatements 2) :=
    (left.afterStatements 2).mono fun n changed => by omega
  obtain ⟨effects, sent, ended, ran, stated⟩ := process_run_of_triggered evaluates triggers
  obtain ⟨effects', sent', ended', ran', stated'⟩ := process_run_of_triggered evaluates' triggers
  obtain ⟨result, restated, rest⟩ := notify_run_alike a (trigger now e (w'.reply 0))
    (trigger now e (v'.reply 0)) stored later
  rw [ended, ended', Except.ok.injEq] at result
  rw [ran, ran', result]
  simp only [evaluates.reply_rest, evaluates'.reply_rest, Nat.add_zero]
    at stated stated' restated rest ⊢
  refine ⟨rfl, ⟨Action.statements ((a.notify (trigger now e _)).run (w'.afterStatements 2)).trace,
    fun x => withPayload_of_mem_notify stored, ?_, ?_⟩, rest⟩
  · rw [Action.statements_append, stated]
  · rw [Action.statements_append, stated', restated]

/-- What processing an alert comes to, on every script of replies: each run proceeds through the
cases, a trigger is bound as the record and the stamp say, and two runs that differ in the replies
to these two differ later on in the number of the record only. -/
theorem process_proceeds (source : MetricSource Routine) (a : AlertRecord) (now : Instant)
    (w : Surroundings) :
    a.Proceeds source now w ((a.process source now).run w) ∧
      (a.IsMalformed ↔ ∃ error, a.rule = .error error) ∧
      (∀ e : Evaluation,
        (Statement.insertHistory (a.history now e)).params =
          [.int a.id, .int a.tenantId, .time now.toMicros, .text "triggered", .json e.metadata] ∧
        (Statement.setAlertTriggered a.id now).params = [.int a.id, .time now.toMicros]) ∧
      ∀ asked e w' v, a.Evaluates source now w asked e w' → e.triggered = true →
        w.Alike (fun n => n = (Action.statements asked).length ∨
          n = (Action.statements asked).length + 1) v →
        a.DifferInRecord now e (Action.statements asked) w v ((a.process source now).run w)
          ((a.process source now).run v) :=
  ⟨process_run source a now w, isMalformed_iff, fun _ => ⟨rfl, rfl⟩,
    fun _ _ _ _ evaluates triggers alike => process_differInRecord evaluates triggers alike⟩

/-- A load of 90, with some replies to the record and to the stamp, and then the webhook of the
alert. -/
def overloadedWith (recorded stamped : StoreReply) : Surroundings :=
  let webhook : Row :=
    [("id", .int 3), ("tenant_id", .int 1), ("name", .text "ops"),
     ("url", .text "http://ops/hook"), ("secret", .text "whsec"), ("enabled", .bool true),
     ("failure_count", .int 0), ("created_at", .time ⟨0, 0⟩), ("updated_at", .time ⟨0, 0⟩)]
  (overloaded ⟨1000, 0⟩ [recorded, stamped, .rows [webhook]]).surroundings

/-- The record of a trigger as it is returned. -/
def recordedRow : Row :=
  [("id", .int 41), ("alert_id", .int 7), ("tenant_id", .int 1), ("triggered_at", .time ⟨1000, 0⟩),
   ("status", .text "triggered"), ("created_at", .time ⟨1000, 0⟩), ("updated_at", .time ⟨1000, 0⟩)]

theorem process_proceeds_overloaded :
    let failing := overloadedWith (.failed (.refused "disk full")) (.affected 1)
    let storing := overloadedWith (.rows [recordedRow]) (.failed .unreachable)
    ∃ asked e w', loadAlert.Evaluates Routine.measure ⟨1000, 0⟩ failing asked e w' ∧
      e.triggered = true ∧
      (trigger ⟨1000, 0⟩ e (failing.reply 0)).historyId = none ∧
      (trigger ⟨1000, 0⟩ e (storing.reply 0)).historyId = some 41 ∧
      loadAlert.DifferInRecord ⟨1000, 0⟩ e (Action.statements asked) failing storing
        ((loadAlert.process Routine.measure ⟨1000, 0⟩).run failing)
        ((loadAlert.process Routine.measure ⟨1000, 0⟩).run storing) := by
  intro failing storing
  have starts : loadAlert.Starts ⟨1000, 0⟩ _ ⟨700, 0⟩ := ⟨rfl, rfl, rfl⟩
  have evaluates : loadAlert.Evaluates Routine.measure ⟨1000, 0⟩ failing _ _ _ :=
    .intro starts (.cons rfl (.nil _))
  have alike : failing.Alike (fun n => n = 0 ∨ n = 1) storing := by
    refine ⟨rfl, rfl, rfl, rfl, fun n kept => ?_⟩
    obtain ⟨k, rfl⟩ : ∃ k, n = k + 2 := ⟨n - 2, by omega⟩
    rfl
  exact ⟨_, _, _, evaluates, by decide, rfl, rfl,
    (process_proceeds Routine.measure loadAlert ⟨1000, 0⟩ failing).2.2.2 _ _ _ _ evaluates
      (by decide) alike⟩

end AlertRecord

end AlertRelay
