import Fulfillment.Projection.Platform

/-!
# `EventReplayService.replayAggregate`

The replay id, the durations and the logging are left out, and the service has
its projection consumer, as the application builds it.
-/

namespace Fulfillment

open Js Effects

inductive ReplayStatus
  | success
  | failed
  deriving DecidableEq, Repr

structure ReplayResult where
  target : String
  eventsProcessed : Nat
  status : ReplayStatus
  reconstructedState : Option OrderSummary
  error : Option String
  deriving DecidableEq, Repr

/-- Four statements, each committed by itself. -/
def resetReadModelForAggregate (aggregateId : String) : ProjectionProgram Unit := do
  perform (.deleteOrderReadModel aggregateId)
  perform (.deletePaymentReadModel aggregateId)
  perform (.deleteShipmentReadModel aggregateId)
  perform (.deleteAppliedEvents aggregateId)

def applyAll : List EventEnvelope → ProjectionProgram Unit
  | [] => pure ()
  | e :: events => do
    perform (.applyHistoricalEvent e)
    applyAll events

/-- The try block of `replayAggregate`. -/
def tryReplay (aggregateId : String) : ProjectionProgram ReplayResult := do
  let events : List EventEnvelope ← perform (.getEventsByAggregateId aggregateId)
  resetReadModelForAggregate aggregateId
  applyAll events
  let reconstructedState : Option OrderSummary ← perform (.getOrder aggregateId)
  return ⟨aggregateId, events.length, .success, reconstructedState, none⟩

def replayAggregate (aggregateId : String) : ProjectionProgram ReplayResult := do
  match ← (tryReplay aggregateId).settle with
  | .ok result => pure result
  | .error error => pure ⟨aggregateId, 0, .failed, none, some error.message⟩

end Fulfillment
