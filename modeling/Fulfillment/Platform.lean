import Fulfillment.Effects.Program
import Fulfillment.Saga.Barrier

/-!
# The database and the broker as programs see them

A `Call` is one statement, one transaction or one send, and takes effect at
once. Besides the tables, the world keeps a journal of the saga rows saved and
the messages the broker took, newest first.
-/

namespace Fulfillment

open Js Relational Effects

namespace Topics

def orders : String := "orders.events"
def payments : String := "payments.events"
def inventory : String := "inventory.events"
def fraud : String := "fraud.events"
def shipping : String := "shipping.events"
def notifications : String := "notifications.events"
def dlq : String := "platform.dlq"

end Topics

inductive MessageValue
  | event (e : EventEnvelope)
  | deadLetter (p : DlqPayload)
  deriving DecidableEq, Repr

/-- A produced message. Its headers repeat fields of its value, and nothing reads them. -/
structure Message where
  topic : String
  key : String
  value : MessageValue
  deriving DecidableEq, Repr

inductive Entry
  | saved (saga : SagaRow)
  | sent (m : Message) (acked : Bool)
  deriving DecidableEq, Repr

structure World where
  db : Db
  journal : List Entry
  clock : Int
  /-- Outbox rows that a statement of someone else holds locked. -/
  locked : String → Bool

inductive Call
  | isEventProcessed (eventId consumerName : String)
  | markEventProcessed (eventId consumerName : String)
  | persistDeadLetter (dlq : DlqMessage) (marksFailed : Bool) (outboxId : String)
  | markDLQOutboxPublished (id workerId : String)
  | getSagaByAggregateId (aggregateId : String)
  | saveSagaInstance (saga : SagaRow)
  | compensationBarrier (sagaParam : SagaRow) (completedAction correlationId : String)
  | send (m : Message)
  | getPendingOutboxEvents (limit : Nat) (workerId : String) (leaseDurationSeconds : Int)
  | markOutboxEventPublished (id workerId : String)
  | markOutboxEventFailed (id error workerId : String)
  /-- The abstract method of a consumer, where it is not modelled further. -/
  | processEvent (e : EventEnvelope) (attempt : Nat)
  deriving DecidableEq

abbrev Answer : Call → Type
  | .isEventProcessed _ _ => Bool
  | .getSagaByAggregateId _ => Option SagaRow
  | .compensationBarrier _ _ _ => Option CancelNotice
  | .getPendingOutboxEvents _ _ _ => List OutboxEventRow
  | .markOutboxEventPublished _ _ => Bool
  | .markOutboxEventFailed _ _ _ => Bool
  | .markEventProcessed _ _ | .persistDeadLetter _ _ _ | .markDLQOutboxPublished _ _
  | .saveSagaInstance _ | .send _ | .processEvent _ _ => Unit

abbrev Program (α : Type) := Prog JsError Answer α

abbrev await (c : Call) : Program (Answer c) := Prog.await c

namespace World

def empty : World := ⟨.empty, [], 0, fun _ => false⟩

def saveSaga (saga : SagaRow) (w : World) : World :=
  { w with db := w.db.saveSagaInstance saga, journal := .saved saga :: w.journal }

def take (m : Message) (acked : Bool) (w : World) : World :=
  { w with journal := .sent m acked :: w.journal }

/-- One transaction: the letter, the FAILED mark of an event whose retries ran
out, and the outbox row. -/
def persistDeadLetter (dlq : DlqMessage) (marksFailed : Bool) (outboxId : String) (w : World) : World :=
  let recorded := w.db.recordDLQMessage dlq w.clock
  let marked :=
    if marksFailed then
      recorded.markEventProcessed dlq.eventId dlq.consumerName .failed (some dlq.errorMessage) w.clock
    else recorded
  { w with db := marked.insertDLQOutboxEvent outboxId ⟨dlq.id, Topics.dlq, dlq.payload.written⟩ w.clock }

end World

/-- What the abstract method of a consumer does to the tables, the two of the
consumer base excepted. -/
structure DomainWork where
  effect : EventEnvelope → Nat → Db → Db
  keeps_processedEvents : ∀ e attempt db, (effect e attempt db).processedEvents = db.processedEvents
  keeps_dlqMessages : ∀ e attempt db, (effect e attempt db).dlqMessages = db.dlqMessages

def DomainWork.none : DomainWork := ⟨fun _ _ db => db, fun _ _ _ => rfl, fun _ _ _ => rfl⟩

/-- What a call does when it is carried out. -/
def carryOut (D : DomainWork) : (c : Call) → (acked : Bool) → World → Answer c × World
  | .isEventProcessed eventId consumerName, _, w => (w.db.isEventProcessed eventId consumerName, w)
  | .markEventProcessed eventId consumerName, _, w =>
    ((), { w with db := w.db.markEventProcessed eventId consumerName .processed none w.clock })
  | .persistDeadLetter dlq marksFailed outboxId, _, w => ((), w.persistDeadLetter dlq marksFailed outboxId)
  | .markDLQOutboxPublished id workerId, _, w =>
    ((), { w with db := w.db.markDLQOutboxPublished id (some workerId) w.clock })
  | .getSagaByAggregateId aggregateId, _, w => (w.db.getSagaByAggregateId aggregateId, w)
  | .saveSagaInstance saga, _, w => ((), w.saveSaga saga)
  | .compensationBarrier sagaParam completedAction correlationId, _, w =>
    match executeBarrierUpdate sagaParam completedAction correlationId w.db with
    | (some row, notice) => (notice, w.saveSaga row)
    | (none, notice) => (notice, w)
  | .send m, acked, w => ((), w.take m acked)
  | .getPendingOutboxEvents limit workerId leaseDurationSeconds, _, w =>
    let claimed := getPendingOutboxEvents limit workerId leaseDurationSeconds w.clock w.locked w.db.outboxEvents
    (claimed.1, { w with db := { w.db with outboxEvents := claimed.2 } })
  | .markOutboxEventPublished id workerId, _, w =>
    let marked := markOutboxEventPublished id (some workerId) w.clock w.db.outboxEvents
    (marked.1, { w with db := { w.db with outboxEvents := marked.2 } })
  | .markOutboxEventFailed id error workerId, _, w =>
    let marked := markOutboxEventFailed id error (some workerId) w.db.outboxEvents
    (marked.1, { w with db := { w.db with outboxEvents := marked.2 } })
  | .processEvent e attempt, _, w => ((), { w with db := D.effect e attempt w.db })

/-- The columns of `saga_instances`. -/
def SagaRow.fits (saga : SagaRow) : Bool :=
  fitsVarchar 100 saga.sagaId && fitsKey 100 saga.aggregateId && fitsVarchar 100 saga.sagaType &&
  fitsVarchar 50 saga.currentStep && fitsVarchar 100 saga.correlationId &&
  fitsJsonb saga.context.toJson && saga.failureReason.all fitsText

/-- The columns of `dlq_messages` and `dlq_outbox`. -/
def DlqMessage.fits (dlq : DlqMessage) (outboxId : String) : Bool :=
  fitsVarchar 100 dlq.id && fitsVarchar 100 dlq.eventId && fitsVarchar 100 dlq.topic &&
  fitsInt dlq.partition && fitsVarchar 50 dlq.offset && fitsVarchar 100 dlq.consumerName &&
  fitsText dlq.errorMessage && dlq.stackTrace.all fitsText && fitsJsonb dlq.payload.toJson &&
  dlq.correlationId.all (fitsVarchar 100) && fitsVarchar 100 outboxId

/-- Whether PostgreSQL accepts the parameters of a call. -/
def columnsFit : Call → World → Bool
  | .isEventProcessed eventId consumerName, _ => fitsText eventId && fitsText consumerName
  | .markEventProcessed eventId consumerName, _ => fitsVarchar 100 eventId && fitsVarchar 100 consumerName
  | .persistDeadLetter dlq _ outboxId, _ => dlq.fits outboxId
  | .markDLQOutboxPublished id workerId, _ => fitsText id && fitsText workerId
  | .getSagaByAggregateId aggregateId, _ => fitsText aggregateId
  | .saveSagaInstance saga, _ => saga.fits
  | .compensationBarrier sagaParam completedAction correlationId, w =>
    fitsText sagaParam.aggregateId &&
      (executeBarrierUpdate sagaParam completedAction correlationId w.db).1.all SagaRow.fits
  | .getPendingOutboxEvents _ workerId _, _ => fitsVarchar 100 workerId
  | .markOutboxEventPublished id workerId, _ => fitsText id && fitsText workerId
  | .markOutboxEventFailed id error workerId, _ => fitsText id && fitsText error && fitsText workerId
  | .send _, _ | .processEvent _ _, _ => true

/-- The platform as deployed: a statement with a value its column refuses fails. -/
def platform (D : DomainWork) : Semantics JsError World Answer where
  effect c acked w := if columnsFit c w then .ok (carryOut D c acked w) else .error columnError

theorem platform_exec_state (D : DomainWork) (c : Call) (o : Outcome JsError) (w : World) :
    ((platform D).exec c o w).2 =
      if o.acted && columnsFit c w then (carryOut D c (o = .ok) w).2 else w := by
  cases o <;> cases h : columnsFit c w <;> simp [Semantics.exec, platform, Outcome.acted, h]

theorem platform_exec_value (D : DomainWork) (c : Call) (o : Outcome JsError) (w : World) :
    ((platform D).exec c o w).1 =
      match o with
      | .ok => if columnsFit c w then .ok (carryOut D c true w).1 else .error columnError
      | .rejected e | .unacked e => .error e := by
  cases o <;> cases h : columnsFit c w <;> simp [Semantics.exec, platform, h]

theorem platform_exec_ok (D : DomainWork) {c : Call} {w : World} (fits : columnsFit c w = true) :
    (platform D).exec c .ok w = (.ok (carryOut D c true w).1, (carryOut D c true w).2) :=
  Prod.ext (by rw [platform_exec_value, if_pos fits])
    (by rw [platform_exec_state, fits]; rfl)

theorem platform_exec_refused (D : DomainWork) {c : Call} {w : World} (unfit : columnsFit c w = false) :
    (platform D).exec c .ok w = (.error columnError, w) :=
  Prod.ext (by rw [platform_exec_value, unfit]; rfl) (by rw [platform_exec_state, unfit]; rfl)

/-- The platform with columns that hold every value. -/
def roomyPlatform : Semantics JsError World Answer where
  effect c acked w := .ok (carryOut .none c acked w)

theorem roomy_exec_state (c : Call) (o : Outcome JsError) (w : World) :
    (roomyPlatform.exec c o w).2 = if o.acted then (carryOut .none c (o = .ok) w).2 else w := by
  cases o <;> rfl

theorem roomy_exec_ok (c : Call) (w : World) :
    roomyPlatform.exec c .ok w = (.ok (carryOut .none c true w).1, (carryOut .none c true w).2) := rfl

/-- A read answers from the tables or fails; either way nothing changes. -/
theorem roomy_exec_getSaga (aggregateId : String) (o : Outcome JsError) (w : World) :
    roomyPlatform.exec (.getSagaByAggregateId aggregateId) o w = (.ok (w.db.getSagaByAggregateId aggregateId), w) ∨
    ∃ err, roomyPlatform.exec (.getSagaByAggregateId aggregateId) o w = (.error err, w) := by
  cases o with
  | ok => exact .inl rfl
  | rejected err => exact .inr ⟨err, rfl⟩
  | unacked err => exact .inr ⟨err, rfl⟩

end Fulfillment
