import Fulfillment.Consumers.Counters
import Fulfillment.Consumers.Handling

/-!
# Dead-lettering on a healthy database

A message whose handling ends in a dead letter: its text is no event, or every
attempt to process it fails. `letters_run` says that all its handler does to the
consumer's tables is then to publish the letter.
-/

namespace Fulfillment

open Js Relational Effects

/-- Only `processEvent` and the direct send may fail. -/
structure Faults.Healthy (f : Faults) : Prop where
  dedup : f.dedup = .ok
  mark : ∀ i, f.mark i = .ok
  persist : f.persist = .ok
  published : f.published = .ok

/-- The letter of a message whose handling ends in one. -/
def Consumer.letter (c : Consumer) (f : Faults) (env : Surroundings) (message : EachMessagePayload) : DlqMessage :=
  match parseEnvelope env.uuid env.now (message.value.getD "") with
  | none => c.malformedLetter env message
  | some e => c.exhaustedLetter f env message e

def Consumer.letterKey (c : Consumer) (f : Faults) (env : Surroundings) (message : EachMessagePayload) : String :=
  match parseEnvelope env.uuid env.now (message.value.getD "") with
  | none => (c.malformedLetter env message).id
  | some e => orString e.aggregateId (c.exhaustedLetter f env message e).id

def outboxId (dlq : DlqMessage) : String := "outbox_" ++ dlq.id

/-- `handleMessage` dead-letters the message: its columns take the letter, and it
is no event, or not a processed one and every attempt fails. -/
structure DeadLetters (c : Consumer) (f : Faults) (env : Surroundings) (message : EachMessagePayload) (w : World) :
    Prop where
  fits : (c.letter f env message).fits (outboxId (c.letter f env message)) = true
  fails : ∀ e, parseEnvelope env.uuid env.now (message.value.getD "") = some e →
    w.db.isEventProcessed e.eventId c.consumerName = false ∧ ∀ i, 1 ≤ i → i ≤ c.maxRetries → f.process i ≠ .ok

theorem DlqMessage.texts_fit {dlq : DlqMessage} {outboxId : String} (h : dlq.fits outboxId = true) :
    fitsText dlq.id = true ∧ fitsText dlq.eventId = true ∧ fitsText dlq.consumerName = true := by
  simp only [DlqMessage.fits, fitsVarchar, Bool.and_eq_true] at h
  obtain ⟨⟨⟨⟨⟨⟨⟨⟨⟨⟨⟨-, id⟩, -, eventId⟩, -⟩, -⟩, -⟩, -, name⟩, -⟩, -⟩, -⟩, -⟩, -⟩ := h
  exact ⟨id, eventId, name⟩

section

variable {D : DomainWork} {f : Faults} {consumerName : String} {n : Nat} {env : Surroundings}
  {message : EachMessagePayload} {e : EventEnvelope} {β : Type} {view : World → β}

theorem baseConsumer_name : (baseConsumer consumerName n).consumerName = consumerName := rfl

/-- A message that is dead-lettered comes down to the publication of its letter. -/
theorem letters_run (leaves : D.Leaves view) (healthy : f.Healthy) {w : World}
    (letters : DeadLetters (baseConsumer consumerName n) f env message w) :
    let c := baseConsumer consumerName n
    ∃ past w' marksFailed, (c.handleMessage env message).run (platform D) f.oracle [] w =
      (c.publishDeadLetter (c.letter f env message) marksFailed (c.letterKey f env message)).run
        (platform D) f.oracle past w' ∧ view w' = view w ∧
      (marksFailed = true ↔ (parseEnvelope env.uuid env.now (message.value.getD "")).isSome = true) := by
  intro c
  obtain ⟨fits, fails⟩ := letters
  cases parsed : parseEnvelope env.uuid env.now (message.value.getD "") with
  | none =>
    refine ⟨[], w, false, ?_, rfl, by simp⟩
    simp only [Consumer.handleMessage, Consumer.letter, Consumer.letterKey, parsed]
    rfl
  | some e =>
    obtain ⟨unprocessed, failing⟩ := fails e parsed
    have columns : fitsText e.eventId = true ∧ fitsText consumerName = true := by
      rw [Consumer.letter, parsed] at fits
      exact (DlqMessage.texts_fit fits).2
    have handled := (@handleEnvelope_run D f consumerName n env message e w).2.2 ⟨healthy.dedup, columns⟩ unprocessed
    obtain ⟨past, w', exhausted, same⟩ := @retryLoop_exhausts D f consumerName n env message e β view leaves n 0 none
      [.isEventProcessed e.eventId consumerName] w fun i hlt hle => failing i hlt (by simpa [baseConsumer] using hle)
    refine ⟨past, w', true, ?_, same, by simp⟩
    rw [Consumer.handleMessage_of_parsed parsed, handled, exhausted]
    simp only [Consumer.letter, Consumer.letterKey, parsed, Option.getD_none, Nat.zero_add]
    rfl

/-- What the publication of a letter leaves behind. -/
theorem publishDeadLetter_healthy (healthy : f.Healthy) {dlq : DlqMessage} (fits : dlq.fits (outboxId dlq) = true)
    (marksFailed : Bool) (key : String) (past : List Call) (w : World) :
    let r := ((baseConsumer consumerName n).publishDeadLetter dlq marksFailed key).run (platform D) f.oracle past w
    let persisted := w.persistDeadLetter dlq marksFailed (outboxId dlq)
    r.value = .ok () ∧ r.state.db.dlqMessages = persisted.db.dlqMessages ∧
    r.state.db.processedEvents = persisted.db.processedEvents ∧ r.state.clock = w.clock ∧
    (r.state.db.dlqOutbox = persisted.db.dlqOutbox ∨
      r.state.db.dlqOutbox = (markPublished (outboxId dlq) (some consumerName) w.clock persisted.db.dlqOutbox).2) ∧
    r.state.journal = (if f.send.acted then [.sent ⟨Topics.dlq, key, .deadLetter dlq.payload⟩ (f.send = .ok)] else []) ++
      w.journal := by
  intro r persisted
  obtain ⟨hvalue, hstate⟩ := logged_run D (do
    await (.persistDeadLetter dlq marksFailed (outboxId dlq))
    await (.send ⟨Topics.dlq, key, .deadLetter dlq.payload⟩)
    await (.markDLQOutboxPublished (outboxId dlq) consumerName)) f.oracle past w
  have persists : (platform D).exec (.persistDeadLetter dlq marksFailed (outboxId dlq)) .ok w = (.ok (), persisted) := by
    have taken : columnsFit (.persistDeadLetter dlq marksFailed (outboxId dlq)) w = true := fits
    simp only [Semantics.exec, platform, taken, if_true]
    rfl
  have state : r.state = ((do
      await (.send ⟨Topics.dlq, key, .deadLetter dlq.payload⟩)
      await (.markDLQOutboxPublished (outboxId dlq) consumerName) : Program Unit).run (platform D) f.oracle
        (.persistDeadLetter dlq marksFailed (outboxId dlq) :: past) persisted).state := by
    rw [show r.state = _ from hstate, run_bind, run_await]
    simp only [Ran.andThen, Faults.oracle, healthy.persist, persists]
  have journal : persisted.journal = w.journal := rfl
  have clock : persisted.clock = w.clock := rfl
  refine ⟨hvalue, ?_⟩
  rw [state, run_bind, run_await]
  simp only [Ran.andThen, Faults.oracle, platform_exec_value, platform_exec_state, run_await, healthy.published]
  cases hsend : f.send with
  | rejected err => simp [Outcome.acted, journal, clock]
  | unacked err => simp [Outcome.acted, columnsFit, carryOut, World.take, journal, clock]
  | ok =>
    by_cases fit : fitsText (outboxId dlq) = true ∧ fitsText consumerName = true
    · simp [Outcome.acted, columnsFit, carryOut, World.take, Db.markDLQOutboxPublished, journal, clock, fit]
    · simp [Outcome.acted, columnsFit, carryOut, World.take, journal, clock, fit]

end

def requestMessage : EachMessagePayload where
  topic := "payments.events"
  partition := 0
  offset := "7"
  value := some "\x7b\"id\":\"evt_1\",\"type\":\"PaymentRequested\",\"order_id\":\"ord_1\"\x7d"

def requestEvent : EventEnvelope where
  eventId := "evt_1"
  eventType := .paymentRequested
  eventVersion := 1
  sequenceNumber := none
  aggregateId := "ord_1"
  aggregateType := "Order"
  occurredAt := "2026-01-01T00:00:00.000Z"
  producer := "legacy-producer"
  correlationId := "ord_1"
  causationId := "evt_1"
  schemaVersion := 1
  payload := [("id", .str "evt_1"), ("type", .str "PaymentRequested"), ("order_id", .str "ord_1")]

theorem request_parsed : parseEnvelope sampleSurroundings.uuid sampleSurroundings.now (requestMessage.value.getD "") =
    some requestEvent := by
  have text : Json.parse (requestMessage.value.getD "") = _ := Json.parse_ofList rfl
  rw [parseEnvelope, text]
  decide +kernel

/-- Every attempt fails, and nothing else does. -/
def processFails : Faults := { Faults.none with process _ := .rejected { message := "gateway timeout" } }

/-- The request has exhausted its retries. -/
def letteredWorld : World :=
  (((baseConsumer "payment-service" 3).handleEnvelope sampleSurroundings requestMessage requestEvent).run (platform .none)
    processFails.oracle [] .empty).state

theorem letteredWorld_eq : letteredWorld =
    (((baseConsumer "payment-service" 3).handleMessage sampleSurroundings requestMessage).run (platform .none)
      processFails.oracle [] .empty).state := by
  rw [Consumer.handleMessage_of_parsed request_parsed, letteredWorld]

end Fulfillment
