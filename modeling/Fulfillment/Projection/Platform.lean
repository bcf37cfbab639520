import Fulfillment.Platform
import Fulfillment.Projection.EventStore
import Fulfillment.Projection.Sequential

/-!
# The platform with the query side

To the calls of the platform come the statements on the event store and on the
read models. An application of an event is one call here:
`applyHistoricalEvent_call` says that the transaction behaves as one.
-/

namespace Fulfillment

open Js Relational Effects

/-- An order as `getOrder` returns it. -/
structure OrderSummary where
  id : String
  userId : String
  status : String
  items : Json
  totalAmount : Number
  createdAt : Int
  updatedAt : Int
  deriving DecidableEq, Repr

/-- A row of the `order_events` timeline. -/
structure OrderEventRow where
  orderId : String
  eventType : String
  topic : String
  createdAt : Int
  deriving DecidableEq, Repr

structure ProjectionWorld where
  world : World
  projection : ProjectionDb
  store : EventStore
  orderEvents : List OrderEventRow

inductive ProjectionCall
  | base (c : Call)
  | appendToEventStore (e : EventEnvelope)
  | recordEvent (orderId eventType topic : String)
  | applyHistoricalEvent (e : EventEnvelope)
  | getEventsByAggregateId (aggregateId : String)
  | deleteOrderReadModel (aggregateId : String)
  | deletePaymentReadModel (aggregateId : String)
  | deleteShipmentReadModel (aggregateId : String)
  | deleteAppliedEvents (aggregateId : String)
  | getOrder (orderId : String)
  deriving DecidableEq

abbrev ProjectionAnswer : ProjectionCall → Type
  | .base c => Answer c
  | .getEventsByAggregateId _ => List EventEnvelope
  | .getOrder _ => Option OrderSummary
  | .appendToEventStore _ | .recordEvent _ _ _ | .applyHistoricalEvent _ | .deleteOrderReadModel _
  | .deletePaymentReadModel _ | .deleteShipmentReadModel _ | .deleteAppliedEvents _ => Unit

abbrev ProjectionProgram (α : Type) := Prog JsError ProjectionAnswer α

abbrev perform (c : ProjectionCall) : ProjectionProgram (ProjectionAnswer c) := Prog.await c

namespace ProjectionWorld

variable (w : ProjectionWorld)

def clock : Int := w.world.clock

/-- `DELETE FROM projection_applied_events WHERE aggregate_id = aggregateId`. -/
def deleteAppliedEvents (aggregateId : String) (db : ProjectionDb) : ProjectionDb :=
  { db with applied := fun key => (db.applied key).filter fun row => row.aggregateId ≠ aggregateId }

/-- The read model first, then `orders`. -/
def getOrder (orderId : String) : Option OrderSummary :=
  match w.projection.models (.order orderId) with
  | some row => some ⟨orderId, row.userId, row.status, orElse (some row.items) (.arr []), .finite row.totalAmount,
      row.createdAt, row.updatedAt⟩
  | none =>
    (w.world.db.orders.get? orderId).map fun row =>
      let items := match row.metadata with
        | .obj fs => Fields.get fs "items"
        | _ => none
      ⟨row.id, row.userId, row.status, orElse items (.arr []), row.totalAmount, row.createdAt, row.updatedAt⟩

end ProjectionWorld

variable (pg : Postgres)

/-- The calls that only read the text of an identifier fail on one that PostgreSQL cannot hold. -/
def guarded {α : Type} (fits : Bool) (a : α) : Except JsError α := if fits then .ok a else .error columnError

theorem guarded_returns {α : Type} {fits : Bool} {a b : α} (h : guarded fits a = .ok b) : a = b := by
  unfold guarded at h
  split at h
  · exact Except.ok.inj h
  · cases h

def projectionPlatform : Semantics JsError ProjectionWorld ProjectionAnswer where
  effect c acked w :=
    match c with
    | .base c => ((platform .none).effect c acked w.world).map fun r => (r.1, { w with world := r.2 })
    | .appendToEventStore e => (appendToEventStore pg e w.store).map fun store => ((), { w with store })
    | .recordEvent orderId eventType topic =>
      guarded (fitsVarchar 100 orderId && fitsVarchar 100 eventType && fitsVarchar 100 topic)
        ((), { w with orderEvents := ⟨orderId, eventType, topic, w.clock⟩ :: w.orderEvents })
    | .applyHistoricalEvent e =>
      (applyOnce pg w.clock e w.projection).map fun projection => ((), { w with projection })
    | .getEventsByAggregateId aggregateId =>
      guarded (fitsText aggregateId) (getEventsByAggregateId pg aggregateId w.store, w)
    | .deleteOrderReadModel aggregateId =>
      guarded (fitsText aggregateId)
        ((), { w with projection := { w.projection with models := w.projection.models.deleteOrder aggregateId } })
    | .deletePaymentReadModel aggregateId =>
      guarded (fitsText aggregateId)
        ((), { w with projection := { w.projection with models := w.projection.models.deletePayments aggregateId } })
    | .deleteShipmentReadModel aggregateId =>
      guarded (fitsText aggregateId)
        ((), { w with projection := { w.projection with models := w.projection.models.deleteShipments aggregateId } })
    | .deleteAppliedEvents aggregateId =>
      guarded (fitsText aggregateId)
        ((), { w with projection := ProjectionWorld.deleteAppliedEvents aggregateId w.projection })
    | .getOrder orderId => guarded (fitsText orderId) (w.getOrder orderId, w)

/-- However the statements of an application end, it behaves as the one call ending in some way. -/
theorem applyHistoricalEvent_call (f : TxOutcomes JsError ProjectionStatement) (e : EventEnvelope)
    (w : ProjectionWorld) : ∃ o, (projectionPlatform pg).exec (.applyHistoricalEvent e) o w =
      ((applyHistoricalEvent pg w.clock f e w.projection).1,
        { w with projection := (applyHistoricalEvent pg w.clock f e w.projection).2 }) := by
  rcases @applyHistoricalEvent_run pg w.clock f e w.projection with ⟨db', once, -, hrun⟩ | ⟨db', err, once, -, hrun⟩ |
    ⟨err, hrun⟩
  · exact ⟨.ok, by simp [Semantics.exec, projectionPlatform, once, hrun, Except.map]⟩
  · exact ⟨.unacked err, by simp [Semantics.exec, projectionPlatform, once, hrun, Except.map]⟩
  · exact ⟨.rejected err, by simp [hrun]⟩

variable {pg}

theorem application_returns {e : EventEnvelope} {acked : Bool} {w t : ProjectionWorld} {r : Unit}
    (h : (projectionPlatform pg).effect (.applyHistoricalEvent e) acked w = .ok (r, t)) :
    ∃ db', applyOnce pg w.clock e w.projection = .ok db' ∧ t = { w with projection := db' } := by
  simp only [projectionPlatform] at h
  cases once : applyOnce pg w.clock e w.projection with
  | error err =>
    rw [once] at h
    cases h
  | ok db' =>
    rw [once] at h
    cases h
    exact ⟨db', rfl, rfl⟩

theorem append_returns {e : EventEnvelope} {acked : Bool} {w t : ProjectionWorld} {r : Unit}
    (h : (projectionPlatform pg).effect (.appendToEventStore e) acked w = .ok (r, t)) :
    ∃ store, appendToEventStore pg e w.store = .ok store ∧ t = { w with store } := by
  simp only [projectionPlatform] at h
  cases appended : appendToEventStore pg e w.store with
  | error err =>
    rw [appended] at h
    cases h
  | ok store =>
    rw [appended] at h
    cases h
    exact ⟨store, rfl, rfl⟩

end Fulfillment
