import Fulfillment.Consumers.DlqOutbox
import Fulfillment.DeadLetters.Repetition

/-!
# Deliveries with the counters of the consumer

`countedHandleMessage_specified` says what one delivery of an event comes to, and
`deliveries_specified` what any sequence of deliveries does.
-/

namespace Fulfillment

open Js Relational Effects

variable {D : DomainWork} {f : Faults} {consumerName : String} {n : Nat} {env : Surroundings}
  {message : EachMessagePayload} {e : EventEnvelope} {counters : Counters}

/-- The calls and the tables of a counted run are those of `handleMessage`. -/
theorem counted_run (past : List Call) (w : World) :
    let counted := ((baseConsumer consumerName n).countedHandleMessage env message counters).run (platform D) f.oracle past w
    let plain := ((baseConsumer consumerName n).handleMessage env message).run (platform D) f.oracle past w
    plain.state = counted.state ∧ plain.past = counted.past := by
  intro counted plain
  have erased : plain = counted.andThen (platform D) f.oracle fun _ => pure () := by
    rw [← run_bind, Consumer.countedHandleMessage_erases]
  rw [erased, Ran.andThen]
  cases counted.value with
  | ok _ => exact ⟨rfl, rfl⟩
  | error _ => exact ⟨rfl, rfl⟩

/-! ## One delivery -/

/-- Attempt `i` is the first whose `processEvent` returns. -/
def Faults.FirstSuccess (f : Faults) (n i : Nat) : Prop :=
  1 ≤ i ∧ i ≤ n ∧ f.process i = .ok ∧ ∀ j, 1 ≤ j → j < i → f.process j ≠ .ok

def Faults.AllFail (f : Faults) (n : Nat) : Prop := ∀ i, 1 ≤ i → i ≤ n → f.process i ≠ .ok

theorem Faults.firstSuccess_or_allFail (f : Faults) (n : Nat) : (∃ i, f.FirstSuccess n i) ∨ f.AllFail n := by
  induction n with
  | zero => exact .inr fun i low high => by omega
  | succ n ih =>
    rcases ih with ⟨i, low, high, success, first⟩ | fails
    · exact .inl ⟨i, low, by omega, success, first⟩
    · by_cases success : f.process (n + 1) = .ok
      · exact .inl ⟨n + 1, by omega, le_rfl, success, fun j low high => fails j low (by omega)⟩
      · apply Or.inr
        intro i low high
        by_cases last : i = n + 1
        · rwa [last]
        · exact fails i low (by omega)

/-- An attempt that returns marks the event. -/
theorem tryProcess_succeeds (healthy : f.Healthy) {i : Nat} (success : f.process i = .ok) (fits : KeyFits consumerName e)
    (past : List Call) (w : World) :
    ((baseConsumer consumerName n).tryProcess env i e).run (platform D) f.oracle past w =
      ⟨.ok (), { w with db := (D.effect e i w.db).markEventProcessed e.eventId consumerName .processed none w.clock },
        .markEventProcessed e.eventId consumerName :: .processEvent e i :: past⟩ := by
  have works : columnsFit (.processEvent e i) w = true := rfl
  have marks : columnsFit (.markEventProcessed e.eventId consumerName) { w with db := D.effect e i w.db } = true := by
    simpa [columnsFit, KeyFits] using fits
  simp only [Consumer.tryProcess, baseConsumer, run_bind, run_await, Faults.oracle, Ran.andThen,
    platform_exec_value, platform_exec_state, healthy.mark, success, Outcome.acted, works, marks, Bool.and_self, if_true,
    carryOut]

/-- The tables that the consumer base writes, and the clock. -/
structure SameLedger (w w' : World) : Prop where
  processedEvents : w'.db.processedEvents = w.db.processedEvents
  dlqMessages : w'.db.dlqMessages = w.db.dlqMessages
  dlqOutbox : w'.db.dlqOutbox = w.db.dlqOutbox
  clock : w'.clock = w.clock

/-- The work of an event does, if it leaves the outbox of the dead letters alone. -/
theorem SameLedger.effect (leaves : D.Leaves fun w => w.db.dlqOutbox) (e : EventEnvelope) (i : Nat) (w : World) :
    SameLedger w { w with db := D.effect e i w.db } :=
  ⟨D.keeps_processedEvents e i w.db, D.keeps_dlqMessages e i w.db, leaves e i w, rfl⟩

theorem countedRetryLoop_skips_ledger (leaves : D.Leaves fun w => w.db.dlqOutbox) (left m attempt : Nat)
    (lastError : Option JsError) (past : List Call) (w : World)
    (fails : ∀ i, attempt < i → i ≤ attempt + m → f.process i ≠ .ok) :
    ∃ past' w', ((baseConsumer consumerName n).countedRetryLoop env message e counters (left + m) attempt lastError).run
        (platform D) f.oracle past w =
      ((baseConsumer consumerName n).countedRetryLoop env message e counters left (attempt + m)
        (if m = 0 then lastError else some (f.attemptError (attempt + m)))).run (platform D) f.oracle past' w' ∧
      SameLedger w w' ∧ processRuns past' = processRuns past + m ∧ letterTransactions past' = letterTransactions past := by
  let ledger (w : World) := (w.db.processedEvents, w.db.dlqMessages, w.db.dlqOutbox, w.clock)
  have kept : D.Leaves ledger := by
    intro e i w
    have outbox : (D.effect e i w.db).dlqOutbox = w.db.dlqOutbox := leaves e i w
    simp only [ledger, D.keeps_processedEvents, D.keeps_dlqMessages, outbox]
  obtain ⟨past', w', skipped, same, calls⟩ := countedRetryLoop_skips kept left m attempt lastError past w fails
  simp only [ledger, Prod.mk.injEq] at same
  exact ⟨past', w', skipped, ⟨same.1, same.2.1, same.2.2.1, same.2.2.2⟩, calls⟩

/-- The publication of a letter is one transaction, a send and a mark. -/
theorem publishDeadLetter_calls (dlq : DlqMessage) (key : String) (past : List Call) (w : World) :
    let r := ((baseConsumer consumerName n).publishDeadLetter dlq true key).run (platform D) f.oracle past w
    processRuns r.past = processRuns past ∧
    letterTransactions r.past = .persistDeadLetter dlq true (outboxId dlq) :: letterTransactions past := by
  simp only [Consumer.publishDeadLetter, logged, run_bind, run_settle]
  simp only [Prog.pure_def, Ran.andThen, Prog.run, run_await]
  cases ((platform D).exec (.persistDeadLetter dlq true ("outbox_" ++ dlq.id)) (f.oracle past _) w).1 with
  | error err => exact ⟨rfl, rfl⟩
  | ok a =>
    simp only [run_bind, run_await, Ran.andThen]
    cases ((platform D).exec (.send ⟨Topics.dlq, key, .deadLetter dlq.payload⟩) _ _).1 with
    | error err => exact ⟨rfl, rfl⟩
    | ok b => exact ⟨rfl, rfl⟩

/-- No row of the two tables has the identifiers of the letter. -/
structure FreshIds (dlq : DlqMessage) (w : World) : Prop where
  letter : w.db.dlqMessages.get? dlq.id = none
  outbox : w.db.dlqOutbox.get? (outboxId dlq) = none

/-- The rows that the transaction of a letter adds. -/
theorem persisted_rows {dlq : DlqMessage} {w : World} (fresh : FreshIds dlq w) :
    let persisted := w.persistDeadLetter dlq true (outboxId dlq)
    persisted.db.dlqMessages.rows = dlq.row w.clock :: w.db.dlqMessages.rows ∧
    persisted.db.dlqOutbox.rows =
      .fresh (outboxId dlq) ⟨dlq.id, Topics.dlq, dlq.payload.written⟩ w.clock :: w.db.dlqOutbox.rows ∧
    persisted.db.processedEvents = (w.db.markEventProcessed dlq.eventId dlq.consumerName .failed
      (some dlq.errorMessage) w.clock).processedEvents := by
  refine ⟨Table.upsert_of_fresh fresh.letter _ _, ?_, rfl⟩
  have unused : Leased.id (.fresh (outboxId dlq) (DlqOutboxBody.mk dlq.id Topics.dlq dlq.payload.written) w.clock) ∉
      w.db.dlqOutbox.rows.map Leased.id := by
    rw [Table.mem_keys, show Leased.id (Leased.fresh (outboxId dlq) _ _) = outboxId dlq from rfl, fresh.outbox]
    exact Bool.false_ne_true
  exact congrArg Table.rows (dif_neg unused)

/-- What publishing a letter leaves in the tables of the consumer base. -/
theorem publishDeadLetter_tables (healthy : f.Healthy) {dlq : DlqMessage} (fits : dlq.fits (outboxId dlq) = true)
    {w : World} (fresh : FreshIds dlq w) (key : String) (past : List Call) :
    let r := ((baseConsumer consumerName n).publishDeadLetter dlq true key).run (platform D) f.oracle past w
    r.value = .ok () ∧ r.state.db.dlqMessages.rows = dlq.row w.clock :: w.db.dlqMessages.rows ∧
    r.state.db.dlqOutbox.rows =
      .fresh (outboxId dlq) ⟨dlq.id, Topics.dlq, dlq.payload.written⟩ w.clock :: w.db.dlqOutbox.rows ∧
    r.state.db.processedEvents = (w.db.markEventProcessed dlq.eventId dlq.consumerName .failed
      (some dlq.errorMessage) w.clock).processedEvents := by
  intro r
  obtain ⟨value, letters, marks, -, outbox, -⟩ :=
    @publishDeadLetter_healthy D f consumerName n healthy dlq fits true key past w
  obtain ⟨lettersRows, outboxRows, markRows⟩ := persisted_rows fresh
  have unclaimed := markPublished_unclaimed (persisted_outbox fresh.outbox true) rfl (some consumerName) w.clock
  refine ⟨value, ?_, ?_, marks.trans markRows⟩
  · rw [letters, lettersRows]
  · rcases outbox with same | marked
    · rw [same, outboxRows]
    · rw [marked, unclaimed, outboxRows]

/-- One row of `processed_events` has the status, and the others are as before. -/
structure MarkedAs (status : ProcessedStatus) (eventId consumerName : String) (w w' : World) : Prop where
  row : (w'.db.processedEvents.get? (eventId, consumerName)).map ProcessedEventRow.status = some status
  others : ∀ key ≠ (eventId, consumerName), w'.db.processedEvents.get? key = w.db.processedEvents.get? key

theorem MarkedAs.of_mark {status : ProcessedStatus} {eventId consumerName : String} {error : Option String} {now : Int}
    {db : Db} {w w' : World} (before : db.processedEvents = w.db.processedEvents)
    (after : w'.db.processedEvents = (db.markEventProcessed eventId consumerName status error now).processedEvents) :
    MarkedAs status eventId consumerName w w' := by
  constructor
  · have marked := db.processedEvents.get?_upsert_self ⟨eventId, consumerName, status, orNull error, now⟩
      (fun old => { old with status := status, error := orNull error, processedAt := now }) fun _ => rfl
    rw [after]
    refine (congrArg (Option.map ProcessedEventRow.status) marked).trans ?_
    cases db.processedEvents.get? _ <;> rfl
  · intro key other
    rw [after, ← before]
    exact db.processedEvents.get?_upsert_ne _ _ _ other

/-- `processEvent` returned at attempt `i`: the event is PROCESSED, and no letter is written. -/
structure Recorded (consumerName : String) (e : EventEnvelope) (counters : Counters) (i : Nat) (w : World)
    (r : Ran JsError World Call Counters) : Prop where
  value : r.value = .ok { counters with processedCount := counters.processedCount + 1 }
  runs : processRuns r.past = i
  marked : MarkedAs .processed e.eventId consumerName w r.state
  dlqMessages : r.state.db.dlqMessages = w.db.dlqMessages
  dlqOutbox : r.state.db.dlqOutbox = w.db.dlqOutbox

/-- All `n` attempts threw: one transaction writes the letter, the FAILED mark and the outbox row. -/
structure Exhausted (consumerName : String) (n : Nat) (e : EventEnvelope) (counters : Counters) (letter : DlqMessage) (w : World)
    (r : Ran JsError World Call Counters) : Prop where
  value : r.value = .ok { counters with failureCount := counters.failureCount + 1 }
  runs : processRuns r.past = n
  marked : MarkedAs .failed e.eventId consumerName w r.state
  dlqMessages : r.state.db.dlqMessages.rows = letter.row w.clock :: w.db.dlqMessages.rows
  dlqOutbox : r.state.db.dlqOutbox.rows =
    .fresh (outboxId letter) ⟨letter.id, Topics.dlq, letter.payload.written⟩ w.clock :: w.db.dlqOutbox.rows
  content : letter.payload.written.content = .exhausted e n
  transaction : letterTransactions r.past = [.persistDeadLetter letter true (outboxId letter)]

/-- What a delivery of an event comes to. -/
inductive Specified (consumerName : String) (n : Nat) (f : Faults) (e : EventEnvelope) (letter : DlqMessage) (counters : Counters)
    (w : World) (r : Ran JsError World Call Counters) : Prop
  | duplicate (processed : w.db.isEventProcessed e.eventId consumerName = true) (value : r.value = .ok counters)
      (runs : processRuns r.past = 0) (state : r.state = w)
  | recorded (i : Nat) (unprocessed : w.db.isEventProcessed e.eventId consumerName = false) (first : f.FirstSuccess n i)
      (recorded : Recorded consumerName e counters i w r)
  | exhausted (unprocessed : w.db.isEventProcessed e.eventId consumerName = false) (fails : f.AllFail n)
      (exhausted : Exhausted consumerName n e counters letter w r)

/-- The columns take what the handler writes of the event, and cut or lose nothing of it. -/
structure ColumnsHold (consumerName : String) (n : Nat) (f : Faults) (e : EventEnvelope) (letter : DlqMessage) (w : World) :
    Prop where
  uncut : e.eventId.length ≤ 100 ∧ e.correlationId.length ≤ 100 ∧ consumerName.length ≤ 100
  read : fitsText e.eventId = true ∧ fitsText consumerName = true
  mark : w.db.isEventProcessed e.eventId consumerName = false → ¬f.AllFail n → KeyFits consumerName e
  letter : w.db.isEventProcessed e.eventId consumerName = false → f.AllFail n →
    letter.fits (outboxId letter) = true ∧ e.written = e

theorem countedRetryLoop_records (leaves : D.Leaves fun w => w.db.dlqOutbox) (healthy : f.Healthy)
    (fits : KeyFits consumerName e) {i : Nat} (first : f.FirstSuccess n i) {past : List Call} (fresh : processRuns past = 0)
    (w : World) : Recorded consumerName e counters i w
      (((baseConsumer consumerName n).countedRetryLoop env message e counters n 0 none).run (platform D) f.oracle past w) := by
  obtain ⟨low, high, success, earlier⟩ := first
  obtain ⟨past', w', skipped, same, runs, -⟩ := @countedRetryLoop_skips_ledger D f consumerName n env message e counters leaves
    (n - i + 1) (i - 1) 0 none past w fun j low high => earlier j (by omega) (by omega)
  have attempts : n - i + 1 + (i - 1) = n := by omega
  have attempt : 0 + (i - 1) + 1 = i := by omega
  rw [attempts] at skipped
  rw [skipped, Consumer.countedRetryLoop, run_bind, run_settle, attempt, tryProcess_succeeds healthy success fits]
  have worked := SameLedger.effect leaves e i w'
  have counted : processRuns (.markEventProcessed e.eventId consumerName :: .processEvent e i :: past') =
      processRuns past' + 1 := by
    simp [processRuns]
  refine ⟨rfl, ?_, .of_mark (worked.processedEvents.trans same.processedEvents) rfl,
    worked.dlqMessages.trans same.dlqMessages, worked.dlqOutbox.trans same.dlqOutbox⟩
  exact counted.trans (by omega)

theorem countedRetryLoop_exhausts (leaves : D.Leaves fun w => w.db.dlqOutbox) (healthy : f.Healthy)
    (fails : f.AllFail n) {past : List Call} (fresh : processRuns past = 0) (unlettered : letterTransactions past = [])
    (w : World) : let letter := (baseConsumer consumerName n).exhaustedLetter f env message e
    letter.fits (outboxId letter) = true ∧ e.written = e → FreshIds letter w → Exhausted consumerName n e counters letter w
      (((baseConsumer consumerName n).countedRetryLoop env message e counters n 0 none).run (platform D) f.oracle past w) := by
  rintro letter ⟨fits, finite⟩ ids
  obtain ⟨past', w', skipped, same, runs, letters⟩ := @countedRetryLoop_skips_ledger D f consumerName n env message e counters
    leaves 0 n 0 none past w fun i low high => fails i low (by omega)
  have ids' : FreshIds letter w' := ⟨same.dlqMessages ▸ ids.letter, same.dlqOutbox ▸ ids.outbox⟩
  obtain ⟨value, messages, outbox, marks⟩ := @publishDeadLetter_tables D f consumerName n healthy letter fits w' ids'
    (orString e.aggregateId letter.id) past'
  obtain ⟨calls, transactions⟩ := @publishDeadLetter_calls D f consumerName n letter (orString e.aggregateId letter.id) past' w'
  have exhausted : ((baseConsumer consumerName n).countedRetryLoop env message e counters n 0 none).run (platform D)
      f.oracle past w = (((baseConsumer consumerName n).publishDeadLetter letter true (orString e.aggregateId letter.id)).run
        (platform D) f.oracle past' w').andThen (platform D) f.oracle
        fun _ => pure { counters with failureCount := counters.failureCount + 1 } := by
    rw [Nat.zero_add] at skipped
    rw [skipped, Consumer.countedRetryLoop, run_bind]
    have error : (if n = 0 then none else some (f.attemptError n)).getD { message := "Unknown processing error" } =
        f.lastError n := by
      rw [Faults.lastError]
      split
      · rfl
      · rfl
    rw [error]
    rfl
  rw [exhausted, Ran.andThen, value]
  rw [same.clock, same.dlqMessages] at messages
  rw [same.clock, same.dlqOutbox] at outbox
  refine ⟨rfl, ?_, .of_mark same.processedEvents marks, messages, outbox, ?_, ?_⟩
  · exact calls.trans (by omega)
  · exact congrArg (DeadLetterContent.exhausted · n) finite
  · exact transactions.trans (by rw [letters, unlettered])

/-- One delivery of an event. -/
theorem countedHandleMessage_specified (leaves : D.Leaves fun w => w.db.dlqOutbox) (healthy : f.Healthy)
    (parsed : parseEnvelope env.uuid env.now (message.value.getD "") = some e) (w : World) :
    let letter := (baseConsumer consumerName n).exhaustedLetter f env message e
    ColumnsHold consumerName n f e letter w → FreshIds letter w →
    Specified consumerName n f e letter counters w
      (((baseConsumer consumerName n).countedHandleMessage env message counters).run (platform D) f.oracle [] w) := by
  intro letter columns ids
  have state : ((platform D).exec (.isEventProcessed e.eventId consumerName) .ok w).2 = w := by
    rw [platform_exec_state]
    split <;> rfl
  have fits : columnsFit (.isEventProcessed e.eventId consumerName) w = true := by
    simp [columnsFit, columns.read]
  have value := platform_exec_value D (.isEventProcessed e.eventId consumerName) .ok w
  simp only [fits, if_true, carryOut] at value
  have checked : ((baseConsumer consumerName n).countedHandleMessage env message counters).run (platform D) f.oracle [] w =
      (if w.db.isEventProcessed e.eventId consumerName = true then pure counters
        else (baseConsumer consumerName n).countedRetryLoop env message e counters n 0 none : Program Counters).run
        (platform D) f.oracle [.isEventProcessed e.eventId consumerName] w := by
    simp only [Consumer.countedHandleMessage, parsed, run_bind, run_await, Faults.oracle, Ran.andThen, baseConsumer_name,
      healthy.dedup, state, value]
    rfl
  rw [checked]
  cases processed : w.db.isEventProcessed e.eventId consumerName with
  | true => exact .duplicate processed rfl rfl rfl
  | false =>
    rw [if_neg Bool.false_ne_true]
    rcases f.firstSuccess_or_allFail n with ⟨i, first⟩ | fails
    · have succeeds : ¬f.AllFail n := fun fails => fails i first.1 first.2.1 first.2.2.1
      exact .recorded i processed first
        (countedRetryLoop_records leaves healthy (columns.mark processed succeeds) first rfl w)
    · exact .exhausted processed fails
        (countedRetryLoop_exhausts leaves healthy fails rfl rfl w (columns.letter processed fails) ids)

/-! ## Any sequence of deliveries -/

/-- A message, how the calls of its handling end, and what the handler draws. -/
structure MessageDelivery where
  message : EachMessagePayload
  faults : Faults
  env : Surroundings

/-- The world, the counters and the events that `processEvent` returned for, newest first. -/
structure Consuming where
  world : World
  counters : Counters
  completed : List String

def MessageDelivery.handle (D : DomainWork) (consumerName : String) (n : Nat) (d : MessageDelivery) (s : Consuming) :
    Ran JsError World Call Counters :=
  ((baseConsumer consumerName n).countedHandleMessage d.env d.message s.counters).run (platform D) d.faults.oracle [] s.world

/-- What the delivery of an event needs: the database fails of itself nowhere, the identifiers
drawn are fresh, and the columns take what is written. -/
structure MessageDelivery.Regular (consumerName : String) (n : Nat) (d : MessageDelivery) (e : EventEnvelope) (w : World) : Prop where
  parsed : parseEnvelope d.env.uuid d.env.now (d.message.value.getD "") = some e
  healthy : d.faults.Healthy
  fresh : FreshIds ((baseConsumer consumerName n).exhaustedLetter d.faults d.env d.message e) w
  columns : ColumnsHold consumerName n d.faults e
    ((baseConsumer consumerName n).exhaustedLetter d.faults d.env d.message e) w

def MessageDelivery.after (D : DomainWork) (consumerName : String) (n : Nat) (d : MessageDelivery) (s : Consuming) : Consuming :=
  let r := d.handle D consumerName n s
  ⟨r.state, r.value.toOption.getD s.counters, completions d.faults r.past ++ s.completed⟩

/-- Regular deliveries one after another. -/
inductive Consumed (D : DomainWork) (consumerName : String) (n : Nat) (w : World) : Consuming → Prop
  | start : Consumed D consumerName n w ⟨w, ⟨0, 0⟩, []⟩
  | next {s} {e : EventEnvelope} (so_far : Consumed D consumerName n w s) (d : MessageDelivery)
      (regular : d.Regular consumerName n e s.world) : Consumed D consumerName n w (d.after D consumerName n s)

theorem completions_of_no_runs {calls : List Call} (none : processRuns calls = 0) : completions f calls = [] := by
  unfold completions
  rw [List.filterMap_eq_nil_iff]
  intro call made
  have other := List.countP_eq_zero.mp none call made
  cases call with
  | processEvent e attempt => exact absurd rfl other
  | _ => rfl

/-- A regular delivery completes at most one event, which was not processed before. -/
theorem handle_completes (leaves : D.Leaves fun w => w.db.dlqOutbox) {d : MessageDelivery} {s : Consuming}
    (regular : d.Regular consumerName n e s.world) :
    let r := d.handle D consumerName n s
    KeepsMarks consumerName s.world r.state ∧ (completions d.faults r.past = [] ∨ ∃ x, completions d.faults r.past = [x] ∧
      s.world.db.isEventProcessed x consumerName = false ∧ r.state.db.isEventProcessed x consumerName = true) := by
  intro r
  have handled := @countedHandleMessage_specified D d.faults consumerName n d.env d.message e s.counters leaves
    regular.healthy regular.parsed s.world regular.columns regular.fresh
  have plain := @handleMessage_completes D d.faults consumerName n d.env d.message regular.healthy
  obtain ⟨state, past⟩ := @counted_run D d.faults consumerName n d.env d.message s.counters [] s.world
  have ends (fits : KeyFits consumerName e ∨ d.faults.AllFail n) :
      KeepsMarks consumerName s.world r.state ∧ (completions d.faults r.past = [] ∨ ∃ x, completions d.faults r.past = [x] ∧
        s.world.db.isEventProcessed x consumerName = false ∧ r.state.db.isEventProcessed x consumerName = true) := by
    obtain ⟨keeps, new, calls, once⟩ := plain (fun e' parsed => by cases regular.parsed.symm.trans parsed; exact fits) s.world
    rw [past, List.append_nil] at calls
    rw [state] at keeps once
    rw [show r.past = new from calls]
    exact ⟨keeps, once⟩
  cases handled with
  | duplicate _ _ runs same => exact ⟨.of_eq (congrArg (fun w => w.db.processedEvents) same), .inl (completions_of_no_runs runs)⟩
  | recorded i unprocessed first _ =>
    exact ends (.inl (regular.columns.mark unprocessed fun fails => fails i first.1 first.2.1 first.2.2.1))
  | exhausted _ fails _ => exact ends (.inr fails)

theorem consumed_invariant (leaves : D.Leaves fun w => w.db.dlqOutbox) {w : World} {s : Consuming}
    (h : Consumed D consumerName n w s) :
    s.completed.Nodup ∧ ∀ x ∈ s.completed, s.world.db.isEventProcessed x consumerName = true := by
  induction h with
  | start => exact ⟨.nil, nofun⟩
  | @next s e so_far d regular ih =>
    obtain ⟨once, marked⟩ := ih
    obtain ⟨keeps, ends⟩ := handle_completes leaves regular
    simp only [MessageDelivery.after]
    rcases ends with none | ⟨x, completes, before, after⟩
    · rw [none]
      exact ⟨once, fun x hx => keeps x (marked x hx)⟩
    · rw [completes]
      constructor
      · apply List.nodup_cons.mpr
        refine ⟨fun earlier => ?_, once⟩
        rw [marked x earlier] at before
        cases before
      · intro y hy
        rcases List.mem_cons.mp hy with rfl | hy
        · exact after
        · exact keeps y (marked y hy)

/-- Whatever deliveries came before, `processEvent` has returned at most once for an event, and the
next delivery finds its event PROCESSED, or processes it, or writes its letter. -/
theorem deliveries_specified (D : DomainWork) (leaves : D.Leaves fun w => w.db.dlqOutbox) (consumerName : String) (n : Nat)
    (w : World) (s : Consuming) (run : Consumed D consumerName n w s) :
    (∀ eventId, s.completed.count eventId ≤ 1) ∧
    ∀ (d : MessageDelivery) (e : EventEnvelope), d.Regular consumerName n e s.world →
      Specified consumerName n d.faults e ((baseConsumer consumerName n).exhaustedLetter d.faults d.env d.message e)
        s.counters s.world (d.handle D consumerName n s) := by
  constructor
  · intro eventId
    exact List.nodup_iff_count_le_one.mp (consumed_invariant leaves run).1 eventId
  · intro d e regular
    exact countedHandleMessage_specified leaves regular.healthy regular.parsed s.world regular.columns regular.fresh

def requestDelivery : MessageDelivery := ⟨requestMessage, .none, sampleSurroundings⟩

theorem requestDelivery_regular : requestDelivery.Regular "payment-service" 3 requestEvent .empty where
  parsed := request_parsed
  healthy := ⟨rfl, fun _ => rfl, rfl, rfl⟩
  fresh := ⟨rfl, rfl⟩
  columns := by
    constructor
    · decide
    · decide
    · intro _ _
      unfold KeyFits
      decide
    · intro _ fails
      exact absurd rfl (fails 1 le_rfl (by decide))

/-- The request was processed, once. -/
theorem deliveries_specified_request :
    (requestDelivery.after .none "payment-service" 3 ⟨.empty, ⟨0, 0⟩, []⟩).completed.count requestEvent.eventId ≤ 1 :=
  (deliveries_specified .none (fun _ _ _ => rfl) "payment-service" 3 .empty _
    (.next .start requestDelivery requestDelivery_regular)).1 requestEvent.eventId

/-- An event whose identifier is too long for the columns is processed three times, and the
handler returns: the event is not PROCESSED, and there is no letter. -/
theorem overlong_event_unhandled : ∃ e, parseEnvelope sampleSurroundings.uuid sampleSurroundings.now
      (overlongEvent.value.getD "") = some e ∧
    let r := MessageDelivery.handle .none "payment-service" 3 ⟨overlongEvent, .none, sampleSurroundings⟩ ⟨.empty, ⟨0, 0⟩, []⟩
    processRuns r.past = 3 ∧ r.value = .ok ⟨0, 1⟩ ∧ r.state.db.processedEvents.rows = [] ∧ r.state.db.dlqMessages.rows = [] ∧
    ∀ letter, ¬Specified "payment-service" 3 .none e letter ⟨0, 0⟩ .empty r := by
  refine ⟨overlongEnvelope, overlong_parsed, ?_⟩
  intro r
  have ran : r = (((baseConsumer "payment-service" 3).countedHandleMessage sampleSurroundings overlongEvent ⟨0, 0⟩).run
    (platform .none) Faults.none.oracle [] .empty) := rfl
  rw [Consumer.countedHandleMessage, overlong_parsed] at ran
  obtain ⟨runs, value, processed, letters⟩ : processRuns r.past = 3 ∧ r.value = .ok ⟨0, 1⟩ ∧
      r.state.db.processedEvents.rows = [] ∧ r.state.db.dlqMessages.rows = [] := by
    rw [ran]
    decide +kernel
  refine ⟨runs, value, processed, letters, ?_⟩
  intro letter handled
  cases handled with
  | duplicate marked => cases marked
  | recorded i _ _ recorded =>
    have row := recorded.marked.row
    rw [Table.get?, processed] at row
    cases row
  | exhausted _ fails => exact absurd rfl (fails 1 le_rfl (by decide))

end Fulfillment
