import Fulfillment.Contracts.Envelope
import Fulfillment.Database.Parameters
import Mathlib

/-!
# The event store

`event_store` takes an event once and numbers the events of an aggregate. Its
trigger refuses updates and deletions, so the rows only grow.
-/

namespace Fulfillment

open Js

structure StoredEvent where
  eventId : String
  aggregateId : String
  aggregateType : String
  eventType : EventType
  eventVersion : Nat
  sequenceNumber : Nat
  payload : Fields
  correlationId : String
  causationId : String
  producer : String
  occurredAt : Int
  deriving DecidableEq, Repr

/-- `uq_event_store_aggregate_seq`. -/
abbrev StoredEvent.position (e : StoredEvent) : String × Nat := (e.aggregateId, e.sequenceNumber)

structure EventStore where
  events : List StoredEvent
  uniqueId : (events.map StoredEvent.eventId).Nodup
  uniquePosition : (events.map StoredEvent.position).Nodup

namespace EventStore

def empty : EventStore := ⟨[], List.nodup_nil, List.nodup_nil⟩

def ofAggregate (s : EventStore) (aggregateId : String) : List StoredEvent :=
  s.events.filter fun e => e.aggregateId = aggregateId

/-- `COALESCE(MAX(sequence_number), 0) + 1`. -/
def nextSequence (s : EventStore) (aggregateId : String) : Nat :=
  ((s.ofAggregate aggregateId).map StoredEvent.sequenceNumber).foldl max 0 + 1

end EventStore

/-- `event.sequence_number || null`. -/
def sequenceParam : Option Nat → Option Nat
  | some 0 => none
  | n => n

def uniqueError : JsError where
  message := "duplicate key value violates unique constraint \"uq_event_store_aggregate_seq\""

/-- The columns of `event_store`. -/
def EventEnvelope.fitsEventStore (e : EventEnvelope) : Bool :=
  fitsVarchar 100 e.eventId && fitsVarchar 100 e.aggregateId && fitsVarchar 50 e.aggregateType &&
  fitsVarchar 100 e.eventType.name && fitsInt e.eventVersion && fitsJsonb (.obj e.payload) &&
  fitsVarchar 100 e.correlationId && fitsVarchar 100 e.causationId && fitsVarchar 100 e.producer

variable (pg : Postgres)

def EventEnvelope.stored (e : EventEnvelope) (sequenceNumber : Nat) (occurredAt : Int) : StoredEvent where
  eventId := e.eventId
  aggregateId := e.aggregateId
  aggregateType := e.aggregateType
  eventType := e.eventType
  eventVersion := e.eventVersion
  sequenceNumber := sequenceNumber
  payload := e.payload
  correlationId := e.correlationId
  causationId := e.causationId
  producer := e.producer
  occurredAt := occurredAt

/-- One transaction; its advisory lock only orders the appends of an aggregate. -/
def appendToEventStore (e : EventEnvelope) (s : EventStore) : Except JsError EventStore := do
  let time ← pg.readTimestamp e.occurredAt
  let sequenceNumber := (sequenceParam e.sequenceNumber).getD (s.nextSequence e.aggregateId)
  if !(e.fitsEventStore && fitsInt sequenceNumber) then throw columnError
  if hid : e.eventId ∈ s.events.map StoredEvent.eventId then return s
  else if hpos : (e.aggregateId, sequenceNumber) ∈ s.events.map StoredEvent.position then throw uniqueError
  else
    return ⟨e.stored sequenceNumber time :: s.events, List.nodup_cons.mpr ⟨hid, s.uniqueId⟩,
      List.nodup_cons.mpr ⟨hpos, s.uniquePosition⟩⟩

/-- An event as it is read back. -/
def StoredEvent.envelope (e : StoredEvent) : EventEnvelope where
  eventId := e.eventId
  eventType := e.eventType
  eventVersion := e.eventVersion
  sequenceNumber := some e.sequenceNumber
  aggregateId := e.aggregateId
  aggregateType := e.aggregateType
  occurredAt := pg.isoString e.occurredAt
  producer := e.producer
  correlationId := e.correlationId
  causationId := e.causationId
  schemaVersion := 1
  payload := e.payload

/-- `ORDER BY sequence_number ASC, occurred_at ASC`. -/
abbrev StoredEvent.Before (a b : StoredEvent) : Prop :=
  a.sequenceNumber < b.sequenceNumber ∨ a.sequenceNumber = b.sequenceNumber ∧ a.occurredAt ≤ b.occurredAt

def EventStore.inOrder (s : EventStore) (aggregateId : String) : List StoredEvent :=
  (s.ofAggregate aggregateId).insertionSort StoredEvent.Before

def getEventsByAggregateId (aggregateId : String) (s : EventStore) : List EventEnvelope :=
  (s.inOrder aggregateId).map (StoredEvent.envelope pg)

theorem mem_inOrder {s : EventStore} {orderId : String} {e : StoredEvent} :
    e ∈ s.inOrder orderId ↔ e ∈ s.events ∧ e.aggregateId = orderId := by
  simp [EventStore.inOrder, EventStore.ofAggregate]

theorem foldl_max_lt {l : List Nat} {a bound : Nat} : l.foldl max a < bound ↔ a < bound ∧ ∀ n ∈ l, n < bound := by
  induction l generalizing a with
  | nil => simp
  | cons n l ih =>
    rw [List.foldl_cons, ih, List.forall_mem_cons, Nat.max_lt, and_assoc]

/-- A number that the store gives is at most a bound when all before it are below the bound. -/
theorem nextSequence_le {s : EventStore} {aggregateId : String} {bound : Nat} :
    s.nextSequence aggregateId ≤ bound ↔ 0 < bound ∧ ∀ e ∈ s.ofAggregate aggregateId, e.sequenceNumber < bound := by
  rw [EventStore.nextSequence, Nat.add_one_le_iff, foldl_max_lt, List.forall_mem_map]

/-- A number that the store gives is the last of its aggregate. -/
theorem lt_nextSequence {s : EventStore} {e : StoredEvent} (he : e ∈ s.events) :
    e.sequenceNumber < s.nextSequence e.aggregateId :=
  (nextSequence_le.mp le_rfl).2 e (List.mem_filter.mpr ⟨he, decide_eq_true rfl⟩)

end Fulfillment
