import Fulfillment.Consumers.DeadLetter
import Fulfillment.Database.Columns
import Fulfillment.Database.Outbox
import Fulfillment.Saga.State

/-!
# The statements of `DatabaseService`

Each statement is a function on the tables; a query answers beside it. `now` is
`CURRENT_TIMESTAMP` in milliseconds.
-/

namespace Fulfillment

open Js Relational

/-- `s || null`. -/
def orNull : Option String → Option String
  | some s => if s = "" then none else some s
  | none => none

theorem orNull_getD_ne (s : Option String) {d : String} (hd : d ≠ "") : (orNull s).getD d ≠ "" := by
  cases s with
  | none => exact hd
  | some s =>
    by_cases empty : s = ""
    · subst empty
      exact hd
    · have kept : orNull (some s) = some s := if_neg (by simpa using empty)
      rw [kept]
      exact empty

inductive ProcessedStatus
  | processed
  | failed
  deriving DecidableEq, Repr

structure ProcessedEventRow where
  eventId : String
  consumerName : String
  status : ProcessedStatus
  error : Option String
  processedAt : Int
  deriving DecidableEq, Repr

/-- `uq_event_consumer`. -/
abbrev ProcessedEventRow.key (r : ProcessedEventRow) : String × String := (r.eventId, r.consumerName)

inductive DlqStatus
  | unresolved
  | replaying
  | replayed
  | discarded
  deriving DecidableEq, Repr

structure DlqMessage where
  id : String
  eventId : String
  topic : String
  partition : Int
  offset : String
  consumerName : String
  errorMessage : String
  stackTrace : Option String
  payload : DlqPayload
  correlationId : Option String
  deriving DecidableEq, Repr

structure DlqMessageRow extends DlqMessage where
  attempts : Nat
  status : DlqStatus
  failedAt : Int
  resolvedAt : Option Int
  deriving DecidableEq, Repr

abbrev DlqMessageRow.key (r : DlqMessageRow) : String := r.id

/-- The row `recordDLQMessage` inserts. -/
def DlqMessage.row (dlq : DlqMessage) (now : Int) : DlqMessageRow :=
  { dlq with
    stackTrace := orNull dlq.stackTrace
    payload := dlq.payload.written
    correlationId := orNull dlq.correlationId
    attempts := 1
    status := .unresolved
    failedAt := now
    resolvedAt := none }

structure DlqOutboxBody where
  dlqId : String
  topic : String
  payload : DlqPayload
  deriving DecidableEq, Repr

structure OrderRow where
  id : String
  userId : String
  status : String
  totalAmount : Number
  metadata : Json
  createdAt : Int
  updatedAt : Int
  deriving DecidableEq, Repr

/-- What the columns of `orders` hold of an order that they take. -/
def OrderRow.stored (order : OrderRow) : OrderRow :=
  { order with userId := storedVarchar 100 order.userId, totalAmount := storedCents order.totalAmount }

structure Db where
  orders : Table OrderRow.id
  outboxEvents : OutboxTable
  processedEvents : Table ProcessedEventRow.key
  sagaInstances : Table SagaRow.sagaId
  dlqMessages : Table DlqMessageRow.key
  dlqOutbox : LeaseTable DlqOutboxBody

def Db.empty : Db := ⟨.empty, .empty, .empty, .empty, .empty, .empty⟩

namespace Db

def isEventProcessed (eventId consumerName : String) (db : Db) : Bool :=
  ((db.processedEvents.get? (eventId, consumerName)).any fun r => r.status = .processed)

def markEventProcessed (eventId consumerName : String) (status : ProcessedStatus)
    (error : Option String) (now : Int) (db : Db) : Db :=
  { db with
    processedEvents := db.processedEvents.upsert ⟨eventId, consumerName, status, orNull error, now⟩
      (fun old => { old with status, error := orNull error, processedAt := now }) fun _ => rfl }

def saveSagaInstance (saga : SagaRow) (db : Db) : Db :=
  let row := { saga with failureReason := orNull saga.failureReason }
  { db with
    sagaInstances := db.sagaInstances.upsert row
      (fun old => { old with
        state := row.state
        currentStep := row.currentStep
        context := row.context
        failureReason := row.failureReason }) fun _ => rfl }

/-- Also `getSagaByAggregateIdForUpdate`, which locks the row it returns. -/
def getSagaByAggregateId (aggregateId : String) (db : Db) : Option SagaRow :=
  db.sagaInstances.rows.find? fun r => r.aggregateId = aggregateId

def recordDLQMessage (dlq : DlqMessage) (now : Int) (db : Db) : Db :=
  { db with
    dlqMessages := db.dlqMessages.upsert (dlq.row now)
      (fun old => { old with
        attempts := old.attempts + 1
        errorMessage := dlq.errorMessage
        failedAt := now }) fun _ => rfl }

def getDLQMessage (id : String) (db : Db) : Option DlqMessageRow := db.dlqMessages.get? id

def setDLQStatus (id : String) (status : DlqStatus) (now : Int) (db : Db) : Db :=
  { db with
    dlqMessages := db.dlqMessages.update (fun r => r.id = id)
      (fun r => { r with
        status
        resolvedAt := if status = .replayed ∨ status = .discarded then some now else r.resolvedAt }) fun _ => rfl }

/-- Without a consumer name the rows of all consumers go. -/
def resetProcessedEventForReplay (eventId consumerName : String) (db : Db) : Db :=
  { db with
    processedEvents := db.processedEvents.delete fun r =>
      r.eventId = eventId ∧ (consumerName = "" ∨ r.consumerName = consumerName) }

def insertDLQOutboxEvent (id : String) (body : DlqOutboxBody) (now : Int) (db : Db) : Db :=
  { db with dlqOutbox := insertPending id body now db.dlqOutbox }

def getPendingDLQOutboxEvents (limit : Nat) (workerId : String) (leaseDurationSeconds now : Int)
    (locked : String → Bool) (db : Db) : List (Leased DlqOutboxBody) × Db :=
  let claimed := claimPending limit workerId (leaseDurationSeconds * 1000) now locked db.dlqOutbox
  (claimed.1, { db with dlqOutbox := claimed.2 })

def markDLQOutboxPublished (id : String) (workerId : Option String) (now : Int) (db : Db) : Db :=
  { db with dlqOutbox := (markPublished id workerId now db.dlqOutbox).2 }

/-- A conflict keeps the user and the amount of the order that was there. -/
def insertOrder (order : OrderRow) (db : Db) : Db :=
  { db with
    orders := db.orders.upsert order.stored
      (fun old => { old with status := order.status, metadata := order.metadata, updatedAt := order.updatedAt })
      fun _ => rfl }

end Db

theorem Db.isEventProcessed_congr {db db' : Db} (h : db'.processedEvents = db.processedEvents)
    (eventId consumerName : String) :
    db'.isEventProcessed eventId consumerName = db.isEventProcessed eventId consumerName := by
  simp only [Db.isEventProcessed, h]

theorem isEventProcessed_markEventProcessed (db : Db) (eventId consumerName : String)
    (status : ProcessedStatus) (error : Option String) (now : Int) :
    (db.markEventProcessed eventId consumerName status error now).isEventProcessed eventId
      consumerName = decide (status = .processed) := by
  have h := db.processedEvents.get?_upsert_self ⟨eventId, consumerName, status, orNull error, now⟩
    (fun old => { old with status := status, error := orNull error, processedAt := now }) fun _ => rfl
  simp only [Db.isEventProcessed, Db.markEventProcessed]
  rw [show (eventId, consumerName) =
    ProcessedEventRow.key ⟨eventId, consumerName, status, orNull error, now⟩ from rfl, h]
  cases db.processedEvents.get? _ <;> rfl

/-- A mark changes no other marker. -/
theorem isEventProcessed_mark_other (db : Db) {x name eventId consumerName : String}
    (other : (x, name) ≠ (eventId, consumerName)) (status : ProcessedStatus) (error : Option String) (now : Int) :
    (db.markEventProcessed eventId consumerName status error now).isEventProcessed x name = db.isEventProcessed x name := by
  have kept := db.processedEvents.get?_upsert_ne ⟨eventId, consumerName, status, orNull error, now⟩
    (fun old => { old with status := status, error := orNull error, processedAt := now }) (fun _ => rfl) other
  simp only [Db.isEventProcessed, Db.markEventProcessed, kept]

end Fulfillment
