import Fulfillment.Effects.Pool
import Fulfillment.Database.LeaseHistory
import Fulfillment.Js.Date
import Fulfillment.Platform

/-!
# `OutboxRelay`

A relay polls: one batch at a time, and the next one only when the last is
done. Its timers and its logging are left out.
-/

namespace Fulfillment

open Js Effects

structure OutboxRelay where
  workerId : WorkerId
  batchSize : Nat
  leaseDurationSeconds : Int

namespace OutboxRelay

def envelope (relay : OutboxRelay) (event : OutboxEventRow) : EventEnvelope where
  eventId := event.id
  eventType := event.body.eventType
  eventVersion := event.body.eventVersion
  sequenceNumber := none
  aggregateId := event.body.aggregateId
  aggregateType := event.body.aggregateType
  occurredAt := toISOString event.createdAt
  producer := "outbox-relay-" ++ relay.workerId.name
  correlationId := event.body.correlationId
  causationId := event.body.causationId
  schemaVersion := 1
  payload := event.body.payload

def message (relay : OutboxRelay) (event : OutboxEventRow) : Message where
  topic := event.body.topic
  key := event.body.aggregateId
  value := .event (relay.envelope event)

/-- The try block of `publishEvent`. -/
def tryPublish (relay : OutboxRelay) (event : OutboxEventRow) : Program Bool := do
  await (.send (relay.message event))
  await (.markOutboxEventPublished event.id relay.workerId)

def publishEvent (relay : OutboxRelay) (event : OutboxEventRow) : Program Unit := do
  match ← (relay.tryPublish event).settle with
  | .ok _ => pure ()
  | .error error => do
    let _ : Bool ← await (.markOutboxEventFailed event.id error.message relay.workerId)
    pure ()

/-- The loop of `processBatch`, with its count. -/
def publishAll (relay : OutboxRelay) : List OutboxEventRow → Nat → Program Nat
  | [], processedCount => pure processedCount
  | event :: pendingEvents, processedCount => do
    relay.publishEvent event
    relay.publishAll pendingEvents (processedCount + 1)

def processBatch (relay : OutboxRelay) : Program Nat := do
  let pendingEvents : List OutboxEventRow ←
    await (.getPendingOutboxEvents relay.batchSize relay.workerId relay.leaseDurationSeconds)
  relay.publishAll pendingEvents 0

end OutboxRelay

/-- What goes on around the relays: rows are inserted, other messages are sent,
time passes and other statements lock and unlock rows. -/
structure Elsewhere (w w' : World) : Prop where
  outboxEvents : w'.db.outboxEvents = w.db.outboxEvents ∨
    ∃ id body now, w'.db.outboxEvents = insertOutboxEvent id body now w.db.outboxEvents
  journal : w.journal <:+ w'.journal

/-- Relays over one outbox table. Any call may fail, also after it was carried
out, and a relay may crash between two calls; its slot then starts over. -/
def relaying {ι : Type} (relays : ι → OutboxRelay) : Machine JsError World Answer ι Unit Nat where
  semantics := platform .none
  body i _ := (relays i).processBatch
  init w := ∀ row ∈ w.db.outboxEvents.rows, row.status ≠ .published
  startable _ _ _ := True
  allowed _ _ _ _ _ := True
  environment := Elsewhere
  leaves _ _ := True

end Fulfillment
