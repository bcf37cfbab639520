import Fulfillment.Js.JsonText
import Fulfillment.Platform

/-!
# `BaseConsumer`

`handleMessage` is a program over the calls of the platform. What it reads from
its surroundings (clocks, random identifiers, chaos flags) comes in as data.
-/

namespace Fulfillment

open Js Effects

/-- What one run of `processEvent` reads: successive results of
`new Date().toISOString()`, of `uuidv4()` and of `Math.random()` scaled to its
use, and the chaos flag of its service. -/
structure Ambient where
  now : Nat → String
  uuid : Nat → String
  random : Nat → Nat
  shouldFail : Bool

/-- What `handleMessage` reads besides, with the error a text that is no event raises. -/
structure Surroundings where
  now : String
  uuid : String
  parseError : JsError
  attempt : Nat → Ambient
  dlqUuid : String
  failedAt : String

structure Consumer where
  consumerName : String
  maxRetries : Nat := 3
  /-- The attempt counts from 1. -/
  processEvent : Nat → Ambient → EventEnvelope → Program Unit

structure EachMessagePayload where
  topic : String
  partition : Int
  offset : String
  value : Option String
  deriving DecidableEq, Repr

/-- `uuidv4().slice(0, 8)`. -/
def slice8 (uuid : String) : String := String.ofList (uuid.toList.take 8)

structure EmitParams where
  topic : String
  eventType : EventType
  aggregateId : String
  aggregateType : String
  payload : Fields
  correlationId : String
  causationId : String

/-- The message that `emit` sends. -/
def emitted (producer uuid now : String) (params : EmitParams) : Message where
  topic := params.topic
  key := params.aggregateId
  value := .event (createEventEnvelope uuid now
    { eventType := params.eventType
      aggregateId := params.aggregateId
      aggregateType := params.aggregateType
      producer := producer
      correlationId := params.correlationId
      causationId := params.causationId
      payload := params.payload })

def emit (producer uuid now : String) (params : EmitParams) : Program Unit :=
  await (.send (emitted producer uuid now params))

/-! ## Parsing -/

/-- `if (!parsed[k]) parsed[k] = v`. -/
def setIfMissing (k : String) (v : Json) (parsed : Fields) : Fields :=
  if truthy (parsed.get k) then parsed else parsed.set k v

/-- `if (!parsed[k] && parsed[from]) parsed[k] = parsed[from]`. -/
def copyIfMissing (k source : String) (parsed : Fields) : Fields :=
  match parsed.get source with
  | some v => if truthy (some v) then setIfMissing k v parsed else parsed
  | none => parsed

def envelopeFields : List String :=
  [ "event_id", "event_type", "aggregate_id", "aggregate_type", "correlation_id", "causation_id",
    "occurred_at", "producer" ]

/-- Fills in what a legacy envelope lacks. -/
def normalizeLegacy (uuid now : String) (parsed : Fields) : Fields :=
  let parsed := copyIfMissing "event_id" "id" parsed
  let parsed := copyIfMissing "event_type" "type" parsed
  let parsed := copyIfMissing "aggregate_id" "order_id" parsed
  let parsed := setIfMissing "aggregate_type" (.str "Order") parsed
  let parsed := copyIfMissing "correlation_id" "aggregate_id" parsed
  let parsed := setIfMissing "causation_id"
    (orElse (parsed.get "event_id") (.str ("cmd_" ++ slice8 uuid))) parsed
  let parsed := setIfMissing "occurred_at" (.str now) parsed
  let parsed := setIfMissing "producer" (.str "legacy-producer") parsed
  setIfMissing "payload" (.obj (parsed.filter fun f => f.1 ∉ envelopeFields)) parsed

/-- The try block of phase 1. A value that is no object fails in it: `null` and
the primitives at a property access or assignment, an array at the schema. -/
def parseEnvelope (uuid now raw : String) : Option EventEnvelope :=
  match Json.parse raw with
  | some (.obj parsed) => validateEventEnvelope (normalizeLegacy uuid now parsed)
  | _ => none

/-! ## Dead letters -/

/-- A try block whose catch block only logs. -/
def logged (p : Program Unit) : Program Unit := do
  let _ ← p.settle
  pure ()

namespace Consumer

def publishDeadLetter (c : Consumer) (dlq : DlqMessage) (marksFailed : Bool) (key : String) :
    Program Unit :=
  let dlqOutboxId := "outbox_" ++ dlq.id
  logged do
    await (.persistDeadLetter dlq marksFailed dlqOutboxId)
    await (.send ⟨Topics.dlq, key, .deadLetter dlq.payload⟩)
    await (.markDLQOutboxPublished dlqOutboxId c.consumerName)

def deadLetter (c : Consumer) (env : Surroundings) (message : EachMessagePayload) (eventId : String)
    (error : JsError) (correlationId : Option String) (content : DeadLetterContent) : DlqMessage :=
  let dlqId := "dlq_" ++ slice8 env.dlqUuid
  { id := dlqId
    eventId := eventId
    topic := message.topic
    partition := message.partition
    offset := message.offset
    consumerName := c.consumerName
    errorMessage := error.message
    stackTrace := error.stack
    payload :=
      { dlqId := dlqId
        originalTopic := message.topic
        originalPartition := message.partition
        originalOffset := message.offset
        consumerName := c.consumerName
        errorMessage := error.message
        stackTrace := error.stack
        failedAt := env.failedAt
        content := content }
    correlationId := correlationId }

def handleNonRetryableDLQ (c : Consumer) (env : Surroundings) (message : EachMessagePayload)
    (raw : String) (error : JsError) : Program Unit :=
  let dlq := c.deadLetter env message "malformed_event" error none (.malformed raw)
  c.publishDeadLetter dlq false dlq.id

def handleExhaustedRetriesDLQ (c : Consumer) (env : Surroundings) (message : EachMessagePayload)
    (e : EventEnvelope) (error : JsError) (attempts : Nat) : Program Unit :=
  let dlq := c.deadLetter env message e.eventId error (some e.correlationId) (.exhausted e attempts)
  c.publishDeadLetter dlq true (orString e.aggregateId dlq.id)

/-! ## Handling -/

/-- The try block of one attempt. -/
def tryProcess (c : Consumer) (env : Surroundings) (attempt : Nat) (e : EventEnvelope) :
    Program Unit := do
  c.processEvent attempt (env.attempt attempt) e
  await (.markEventProcessed e.eventId c.consumerName)

/-- The retry loop and what follows it; `left` attempts of `maxRetries` are left. -/
def retryLoop (c : Consumer) (env : Surroundings) (message : EachMessagePayload) (e : EventEnvelope) :
    (left attempt : Nat) → (lastError : Option JsError) → Program Unit
  | 0, attempt, lastError =>
    c.handleExhaustedRetriesDLQ env message e
      (lastError.getD { message := "Unknown processing error" }) attempt
  | left + 1, attempt, _ => do
    match ← (c.tryProcess env (attempt + 1) e).settle with
    | .ok () => pure ()
    | .error err => c.retryLoop env message e left (attempt + 1) (some err)

/-- Phases 2 to 4, for a message that is an event. -/
def handleEnvelope (c : Consumer) (env : Surroundings) (message : EachMessagePayload)
    (e : EventEnvelope) : Program Unit := do
  let alreadyProcessed : Bool ← await (.isEventProcessed e.eventId c.consumerName)
  if alreadyProcessed then pure ()
  else c.retryLoop env message e c.maxRetries 0 none

def handleMessage (c : Consumer) (env : Surroundings) (message : EachMessagePayload) : Program Unit :=
  let raw := message.value.getD ""
  match parseEnvelope env.uuid env.now raw with
  | none => c.handleNonRetryableDLQ env message raw env.parseError
  | some e => c.handleEnvelope env message e

end Consumer

end Fulfillment
