import Fulfillment.Contracts.Envelope
import Fulfillment.Database.Lease

namespace Fulfillment

open Js

/-- The columns of `outbox_events` that no statement rewrites. -/
structure OutboxBody where
  aggregateId : String
  aggregateType : String
  eventType : EventType
  eventVersion : Nat
  payload : Fields
  correlationId : String
  causationId : String
  topic : String
  deriving DecidableEq, Repr

abbrev OutboxEventRow := Leased OutboxBody

abbrev OutboxTable := LeaseTable OutboxBody

def insertOutboxEvent (id : String) (body : OutboxBody) (now : Int) (t : OutboxTable) : OutboxTable :=
  insertPending id { body with eventVersion := if body.eventVersion = 0 then 1 else body.eventVersion } now t

def getPendingOutboxEvents (limit : Nat) (workerId : String) (leaseDurationSeconds now : Int)
    (locked : String → Bool) (t : OutboxTable) : List OutboxEventRow × OutboxTable :=
  claimPending limit workerId (leaseDurationSeconds * 1000) now locked t

def markOutboxEventPublished (id : String) (workerId : Option String) (now : Int) (t : OutboxTable) :
    Bool × OutboxTable :=
  markPublished id workerId now t

def markOutboxEventFailed (id error : String) (workerId : Option String) (t : OutboxTable) :
    Bool × OutboxTable :=
  markFailed id error workerId t

end Fulfillment
