import Fulfillment.DeadLetters.FailedReplay

/-!
# How often an event is processed

Deliveries to a consumer and replays of dead letters, one at a time. The marker
of a processed event is all that keeps it from being processed again, and a
replay deletes it.
-/

namespace Fulfillment

open Js Relational Effects

/-- The events of the calls of `processEvent` that ended normally, newest first. -/
def completions (f : Faults) (calls : List Call) : List String :=
  calls.filterMap fun
    | .processEvent e attempt => if f.process attempt = .ok then some e.eventId else none
    | _ => none

/-- The world, and the events that the consumer has processed, newest first. -/
structure Serving where
  world : World
  completed : List String

inductive Activity
  | deliver (f : Faults) (env : Surroundings) (message : EachMessagePayload)
  | replay (dlqId : String)

/-- A healthy database and broker; `processEvent` may fail. -/
def Activity.Healthy : Activity → Prop
  | .deliver f _ _ => f.Healthy ∧ f.send = .ok
  | .replay _ => True

/-- A delivered event can be marked, or is not processed; a replayed letter is not one of
an event that the consumer has processed. -/
def Activity.Careful (consumerName : String) (n : Nat) (w : World) : Activity → Prop
  | .deliver f env message => ∀ e, parseEnvelope env.uuid env.now (message.value.getD "") = some e →
      KeyFits consumerName e ∨ ∀ i, 1 ≤ i → i ≤ n → f.process i ≠ .ok
  | .replay dlqId => ∀ r, w.db.getDLQMessage dlqId = some r → r.status ≠ .discarded →
      r.consumerName = "" ∨ r.consumerName = consumerName → w.db.isEventProcessed r.eventId consumerName = false

def Activity.perform (D : DomainWork) (consumerName : String) (n : Nat) (s : Serving) : Activity → Serving
  | .deliver f env message =>
    let r := ((baseConsumer consumerName n).handleMessage env message).run (platform D) f.oracle [] s.world
    ⟨r.state, completions f r.past ++ s.completed⟩
  | .replay dlqId => ⟨((replayDLQ dlqId).run (dlqPlatform D) ReplayFaults.none.oracle [] s.world).state, s.completed⟩

/-- What a run of careful activities from `w` may come to. -/
inductive Served (D : DomainWork) (consumerName : String) (n : Nat) (w : World) : Serving → Prop
  | start : Served D consumerName n w ⟨w, []⟩
  | next {s} (a : Activity) (so_far : Served D consumerName n w s) (healthy : a.Healthy)
      (careful : a.Careful consumerName n s.world) : Served D consumerName n w (a.perform D consumerName n s)

variable {D : DomainWork} {f : Faults} {consumerName : String} {n : Nat} {env : Surroundings}
  {message : EachMessagePayload} {e : EventEnvelope} {dlqId : String} {r : DlqMessageRow} {w w' : World}

/-- No marker of a processed event is lost. -/
def KeepsMarks (consumerName : String) (w w' : World) : Prop :=
  ∀ x, w.db.isEventProcessed x consumerName = true → w'.db.isEventProcessed x consumerName = true

theorem KeepsMarks.of_eq (same : w'.db.processedEvents = w.db.processedEvents) : KeepsMarks consumerName w w' := by
  intro x processed
  rw [Db.isEventProcessed_congr same, processed]

theorem KeepsMarks.trans {w'' : World} (h : KeepsMarks consumerName w w') (h' : KeepsMarks consumerName w' w'') :
    KeepsMarks consumerName w w'' :=
  fun x processed => h' x (h x processed)

/-! ## One delivery -/

theorem completions_append (new past : List Call) : completions f (new ++ past) = completions f new ++ completions f past :=
  List.filterMap_append ..

/-- The calls that publish a letter complete no event. -/
theorem publishDeadLetter_past (dlq : DlqMessage) (marksFailed : Bool) (key : String) (past : List Call) (w : World) :
    ∃ new, (((baseConsumer consumerName n).publishDeadLetter dlq marksFailed key).run (platform D) f.oracle past w).past =
      new ++ past ∧ completions f new = [] := by
  simp only [Consumer.publishDeadLetter, logged, run_bind, run_settle]
  simp only [Prog.pure_def, Ran.andThen, Prog.run, run_await]
  cases ((platform D).exec (.persistDeadLetter dlq marksFailed ("outbox_" ++ dlq.id)) (f.oracle past _) w).1 with
  | error err => exact ⟨[_], rfl, rfl⟩
  | ok a =>
    simp only [run_bind, run_await, Ran.andThen]
    cases ((platform D).exec (.send ⟨Topics.dlq, key, .deadLetter dlq.payload⟩) _ _).1 with
    | error err => exact ⟨[_, _], rfl, rfl⟩
    | ok b => exact ⟨[_, _, _], rfl, rfl⟩

/-- A letter marks its event FAILED, which was not processed. -/
theorem publishDeadLetter_keepsMarks (dlq : DlqMessage) (marksFailed : Bool) (key : String) (past : List Call) (w : World)
    (unprocessed : marksFailed = true → w.db.isEventProcessed dlq.eventId consumerName = false) :
    KeepsMarks consumerName w
      (((baseConsumer consumerName n).publishDeadLetter dlq marksFailed key).run (platform D) f.oracle past w).state := by
  obtain ⟨-, persisted, lost⟩ := publishDeadLetter_run D f consumerName n past w dlq marksFailed key
  by_cases persists : f.Persists dlq
  · refine KeepsMarks.trans ?_ (.of_eq (persisted persists).1)
    cases marksFailed with
    | false => exact .of_eq rfl
    | true =>
      intro x processed
      have other : x ≠ dlq.eventId := by
        rintro rfl
        rw [unprocessed rfl] at processed
        cases processed
      exact (isEventProcessed_mark_other (w.db.recordDLQMessage dlq w.clock) (fun same => other (congrArg Prod.fst same))
        .failed (some dlq.errorMessage) w.clock).trans processed
  · exact .of_eq (lost persists).1

/-- One attempt. -/
theorem tryProcess_completes (healthy : f.Healthy) {i : Nat} (fits : KeyFits consumerName e ∨ f.process i ≠ .ok)
    (past : List Call) (w : World) :
    let r := ((baseConsumer consumerName n).tryProcess env i e).run (platform D) f.oracle past w
    KeepsMarks consumerName w r.state ∧ ∃ new, r.past = new ++ past ∧
      (r.value = .ok () ∧ completions f new = [e.eventId] ∧ r.state.db.isEventProcessed e.eventId consumerName = true ∨
       (∃ err, r.value = .error err) ∧ completions f new = [] ∧
        r.state.db.isEventProcessed e.eventId consumerName = w.db.isEventProcessed e.eventId consumerName) := by
  have keeps := D.keeps_processedEvents e i w.db
  have worked : KeepsMarks consumerName w { w with db := D.effect e i w.db } := .of_eq keeps
  have works : columnsFit (.processEvent e i) w = true := rfl
  simp only [Consumer.tryProcess, baseConsumer, run_bind, run_await, Faults.oracle, Ran.andThen,
    platform_exec_value, platform_exec_state, healthy.mark]
  cases hp : f.process i with
  | rejected err =>
    refine ⟨.of_eq rfl, [.processEvent e i], rfl, .inr ⟨⟨err, rfl⟩, ?_, rfl⟩⟩
    simp [completions, hp]
  | unacked err =>
    refine ⟨worked, [.processEvent e i], rfl, .inr ⟨⟨err, rfl⟩, ?_, Db.isEventProcessed_congr keeps _ _⟩⟩
    simp [completions, hp]
  | ok =>
    have key : KeyFits consumerName e := fits.resolve_right fun failed => failed hp
    have marks : columnsFit (.markEventProcessed e.eventId consumerName) { w with db := D.effect e i w.db } = true := by
      simpa [columnsFit, KeyFits] using key
    simp only [Outcome.acted, works, marks, Bool.and_self, if_true, carryOut]
    refine ⟨?_, [.markEventProcessed e.eventId consumerName, .processEvent e i], rfl, .inl ⟨trivial, ?_, ?_⟩⟩
    · intro x processed
      by_cases same : x = e.eventId
      · rw [same]
        exact isEventProcessed_markEventProcessed ..
      · exact (isEventProcessed_mark_other _ (fun key => same (congrArg Prod.fst key)) ..).trans (worked x processed)
    · simp [completions, hp]
    · exact isEventProcessed_markEventProcessed ..

/-- At most one of the calls completes an event, one that was not processed before and is
afterwards. -/
def CompletesOnce (consumerName : String) (f : Faults) (w : World) (r : Ran JsError World Call Unit) (past : List Call) :
    Prop :=
  KeepsMarks consumerName w r.state ∧ ∃ new, r.past = new ++ past ∧
    (completions f new = [] ∨ ∃ x, completions f new = [x] ∧ w.db.isEventProcessed x consumerName = false ∧
      r.state.db.isEventProcessed x consumerName = true)

theorem publishDeadLetter_completes (dlq : DlqMessage) (marksFailed : Bool) (key : String) (past : List Call) (w : World)
    (unprocessed : marksFailed = true → w.db.isEventProcessed dlq.eventId consumerName = false) :
    CompletesOnce consumerName f w
      (((baseConsumer consumerName n).publishDeadLetter dlq marksFailed key).run (platform D) f.oracle past w) past := by
  obtain ⟨new, calls, none⟩ := @publishDeadLetter_past D f consumerName n dlq marksFailed key past w
  exact ⟨publishDeadLetter_keepsMarks dlq marksFailed key past w unprocessed, new, calls, .inl none⟩

theorem retryLoop_completes (healthy : f.Healthy) (left : Nat) : ∀ (attempt : Nat) (lastError : Option JsError)
    (past : List Call) (w : World),
    (KeyFits consumerName e ∨ ∀ i, attempt < i → i ≤ attempt + left → f.process i ≠ .ok) →
    w.db.isEventProcessed e.eventId consumerName = false →
    CompletesOnce consumerName f w
      (((baseConsumer consumerName n).retryLoop env message e left attempt lastError).run (platform D) f.oracle past w) past := by
  induction left with
  | zero =>
    intro attempt lastError past w _ unprocessed
    exact publishDeadLetter_completes _ _ _ past w fun _ => unprocessed
  | succ left ih =>
    intro attempt lastError past w fits unprocessed
    obtain ⟨keeps, new, calls, ends⟩ := @tryProcess_completes D f consumerName n env e healthy (attempt + 1)
      (fits.imp_right fun fails => fails (attempt + 1) (by omega) (by omega)) past w
    rw [Consumer.retryLoop, run_bind, run_settle]
    generalize hr : ((baseConsumer consumerName n).tryProcess env (attempt + 1) e).run (platform D) f.oracle past w = r
      at keeps calls ends
    rcases ends with ⟨value, completes, processed⟩ | ⟨⟨err, value⟩, none, same⟩
    · simp only [Ran.andThen, value]
      exact ⟨keeps, new, calls, .inr ⟨e.eventId, completes, unprocessed, processed⟩⟩
    · simp only [Ran.andThen, value]
      obtain ⟨keeps', new', calls', ends'⟩ := ih (attempt + 1) (some err) r.past r.state
        (fits.imp_right fun fails i hlt hle => fails i (by omega) (by omega)) (same.trans unprocessed)
      refine ⟨keeps.trans keeps', new' ++ new, by rw [calls', calls, List.append_assoc], ?_⟩
      rw [completions_append, none, List.append_nil]
      rcases ends' with none' | ⟨x, completes, before, after⟩
      · exact .inl none'
      · refine .inr ⟨x, completes, ?_, after⟩
        by_contra processed
        rw [keeps x (by simpa using processed)] at before
        cases before

theorem handleMessage_completes (healthy : f.Healthy)
    (fits : ∀ e, parseEnvelope env.uuid env.now (message.value.getD "") = some e →
      KeyFits consumerName e ∨ ∀ i, 1 ≤ i → i ≤ n → f.process i ≠ .ok) (w : World) :
    CompletesOnce consumerName f w
      (((baseConsumer consumerName n).handleMessage env message).run (platform D) f.oracle [] w) [] := by
  cases parsed : parseEnvelope env.uuid env.now (message.value.getD "") with
  | none =>
    rw [Consumer.handleMessage, parsed]
    exact publishDeadLetter_completes _ false _ [] w fun h => by cases h
  | some e =>
    rw [Consumer.handleMessage_of_parsed parsed]
    have state : ((platform D).exec (.isEventProcessed e.eventId consumerName) .ok w).2 = w := by
      rw [platform_exec_state]
      split <;> rfl
    have value := platform_exec_value D (.isEventProcessed e.eventId consumerName) .ok w
    simp only [Consumer.handleEnvelope, run_bind, run_await, Faults.oracle, Ran.andThen, baseConsumer_name, healthy.dedup,
      state, value]
    by_cases columns : columnsFit (.isEventProcessed e.eventId consumerName) w = true
    · simp only [columns, if_true, carryOut]
      cases processed : w.db.isEventProcessed e.eventId consumerName with
      | true => exact ⟨.of_eq rfl, [_], rfl, .inl rfl⟩
      | false =>
        obtain ⟨keeps, new, calls, ends⟩ := @retryLoop_completes D f consumerName n env message e healthy
          (baseConsumer consumerName n).maxRetries 0 none [.isEventProcessed e.eventId consumerName] w
          ((fits e parsed).imp_right fun fails i hlt hle => fails i hlt (by simpa [baseConsumer] using hle)) processed
        refine ⟨keeps, new ++ [.isEventProcessed e.eventId consumerName], by rw [List.append_nil]; exact calls, ?_⟩
        rw [completions_append, show completions f [.isEventProcessed e.eventId consumerName] = [] from rfl, List.append_nil]
        exact ends
    · simp only [if_neg columns]
      exact ⟨.of_eq rfl, [_], rfl, .inl rfl⟩

/-! ## One replay -/

/-- A replay that finds no letter it may replay does nothing. -/
theorem replayDLQ_idle (idle : ∀ r, w.db.getDLQMessage dlqId = some r → fitsText dlqId = true → r.status = .discarded) :
    ((replayDLQ dlqId).run (dlqPlatform D) ReplayFaults.none.oracle [] w).state = w := by
  have read : (dlqPlatform D).exec (.getDLQMessage dlqId) .ok w =
      (if fitsText dlqId then .ok (w.db.getDLQMessage dlqId) else .error columnError, w) := by
    simp only [Semantics.exec, dlqPlatform]
    by_cases fits : fitsText dlqId = true
    · simp only [if_pos fits]
    · simp only [if_neg fits]
  rw [replayDLQ, run_bind, request, run_await, show ReplayFaults.none.oracle [] (.getDLQMessage dlqId) = .ok from rfl, read]
  by_cases fits : fitsText dlqId = true
  · simp only [if_pos fits, Ran.andThen]
    cases found : w.db.getDLQMessage dlqId with
    | none => rfl
    | some r =>
      simp only [if_pos (idle r found fits)]
      rfl
  · simp only [if_neg fits, Ran.andThen]

/-- The markers after a replay of a letter. -/
theorem replayDLQ_markers (found : w.db.getDLQMessage dlqId = some r) (fits : fitsText dlqId = true)
    (kept : r.status ≠ .discarded) :
    ((replayDLQ dlqId).run (dlqPlatform D) ReplayFaults.none.oracle [] w).state.db.processedEvents =
      (w.resetProcessedEventForReplay r.eventId r.consumerName).db.processedEvents := by
  have prepared : (ReplayFaults.none.prepared dlqId r w).db.processedEvents =
      (w.resetProcessedEventForReplay r.eventId r.consumerName).db.processedEvents := rfl
  have tried : ((tryReplayDLQ dlqId r).run (dlqPlatform D) ReplayFaults.none.oracle [.getDLQMessage dlqId] w).state.db.processedEvents =
      (ReplayFaults.none.prepared dlqId r w).db.processedEvents := by
    cases original : r.payload.originalEvent with
    | none =>
      have unsent := (@tryReplayDLQ_unsent D ReplayFaults.none dlqId w r
        [.getDLQMessage dlqId] (.inr (.inr (.inl original)))).2
      exact congrArg (fun w => w.db.processedEvents) unsent
    | some e =>
      exact (@tryReplayDLQ_sent D ReplayFaults.none dlqId w r [.getDLQMessage dlqId] _ rfl rfl original rfl).2.2
  rcases replayDLQ_found (D := D) (f := ReplayFaults.none) found fits kept with ⟨-, -, state⟩ | ⟨-, -, state⟩
  · rw [state, tried, prepared]
  · rw [state]
    exact tried.trans prepared

theorem replay_keepsMarks (dlqId : String) (careful : (Activity.replay dlqId).Careful consumerName n w) :
    KeepsMarks consumerName w ((replayDLQ dlqId).run (dlqPlatform D) ReplayFaults.none.oracle [] w).state := by
  by_cases idle : ∀ r, w.db.getDLQMessage dlqId = some r → fitsText dlqId = true → r.status = .discarded
  · rw [replayDLQ_idle idle]
    exact .of_eq rfl
  · simp only [not_forall] at idle
    obtain ⟨r, found, fits, kept⟩ := idle
    have markers := replayDLQ_markers (D := D) found fits kept
    intro x processed
    rw [Db.isEventProcessed_congr markers]
    have deleted := w.db.processedEvents.get?_delete
      (fun row => row.eventId = r.eventId ∧ (r.consumerName = "" ∨ row.consumerName = r.consumerName)) (x, consumerName)
    obtain ⟨row, stored, status⟩ := (Option.any_eq_true _ _).mp processed
    obtain ⟨-, key⟩ := Table.get?_eq_some.mp stored
    have survives : ¬(row.eventId = r.eventId ∧ (r.consumerName = "" ∨ row.consumerName = r.consumerName)) := by
      rintro ⟨event, mine⟩
      have name : row.consumerName = consumerName := congrArg Prod.snd key
      have id : row.eventId = x := congrArg Prod.fst key
      have unprocessed := careful r found kept (mine.imp_right fun same => same.symm.trans name)
      rw [← event, id, processed] at unprocessed
      cases unprocessed
    rw [stored, Option.filter_some] at deleted
    simp only [survives, decide_false, Bool.not_false, if_true] at deleted
    exact (congrArg (Option.any _) deleted).trans status

/-! ## The run -/

theorem served_invariant {s : Serving} (h : Served D consumerName n w s) :
    s.completed.Nodup ∧ ∀ x ∈ s.completed, s.world.db.isEventProcessed x consumerName = true := by
  induction h with
  | start => exact ⟨.nil, nofun⟩
  | @next s a so_far healthy careful ih =>
    obtain ⟨once, marked⟩ := ih
    cases a with
    | replay dlqId => exact ⟨once, fun x hx => replay_keepsMarks dlqId careful x (marked x hx)⟩
    | deliver f env message =>
      obtain ⟨keeps, new, calls, ends⟩ := handleMessage_completes (D := D) (n := n) healthy.1 careful s.world
      simp only [Activity.perform]
      rw [calls, List.append_nil]
      rcases ends with none | ⟨x, completes, before, after⟩
      · rw [none]
        exact ⟨once, fun x hx => keeps x (marked x hx)⟩
      · rw [completes]
        constructor
        · apply List.nodup_cons.mpr
          refine ⟨fun earlier => ?_, once⟩
          rw [marked x earlier] at before
          cases before
        · intro y hy
          rcases List.mem_cons.mp hy with rfl | hy
          · exact after
          · exact keeps y (marked y hy)

/-- What activities come to, one after another on empty tables. -/
def servedBy (activities : List Activity) : Serving :=
  activities.foldl (Activity.perform .none "payment-service" 3) ⟨.empty, []⟩

theorem perform_request (f : Faults) (s : Serving) :
    Activity.perform .none "payment-service" 3 s (.deliver f sampleSurroundings requestMessage) =
      let r := ((baseConsumer "payment-service" 3).handleEnvelope sampleSurroundings requestMessage requestEvent).run
        (platform .none) f.oracle [] s.world
      ⟨r.state, completions f r.past ++ s.completed⟩ := by
  rw [Activity.perform, Consumer.handleMessage_of_parsed request_parsed]

/-- The event of the message sent last. -/
def World.lastEvent (w : World) : Option EventEnvelope :=
  match w.journal with
  | .sent ⟨_, _, .event e⟩ _ :: _ => some e
  | _ => none

end Fulfillment
