import Fulfillment.Contracts.Envelope
import Fulfillment.Database.Parameters
import Fulfillment.Projection.ReadModels

/-!
# The mutations of the read models

`mutations` lists the statements of the `switch` in `applyHistoricalEvent`.
PostgreSQL turns the parameters of a statement into a `Change`, or refuses
them; the change does not depend on the rows.
-/

namespace Fulfillment

open Js

/-- The columns of `order_read_model` that single events set besides the status. -/
inductive OrderColumn
  | paymentId
  | reservationId
  | fraudCheckId
  | shipmentId
  | trackingNumber
  | failureReason
  deriving DecidableEq, Repr

def OrderColumn.assign : OrderColumn → Option String → OrderView → OrderView
  | .paymentId, v, row => { row with paymentId := v }
  | .reservationId, v, row => { row with reservationId := v }
  | .fraudCheckId, v, row => { row with fraudCheckId := v }
  | .shipmentId, v, row => { row with shipmentId := v }
  | .trackingNumber, v, row => { row with trackingNumber := v }
  | .failureReason, v, row => { row with failureReason := v }

/-- A statement with its parameters. -/
inductive Mutation
  | insertOrder (orderId : String) (userId totalAmount : Option Json) (currency items : Json) (occurredAt : String)
  | updateOrder (orderId status : String) (columns : List (OrderColumn × Option Json)) (occurredAt : String)
  | insertPayment (paymentId : Option Json) (orderId : String) (userId : Json)
      (amount authorizationCode : Option Json) (occurredAt : String)
  | refundPayments (orderId : String) (refundId : Json) (occurredAt : String)
  | reserveStock (item : Json) (occurredAt : String)
  | releaseStock (item : Json) (occurredAt : String)
  | insertShipment (shipmentId : Option Json) (orderId : String) (trackingNumber : Option Json) (carrier : Json)
      (estimatedDelivery : Option Json) (occurredAt : String)

/-- `for (const item of payload.items)`, if `payload.items` is an array. -/
def payloadItems (payload : Fields) : List Json :=
  match payload.get "items" with
  | some (.arr items) => items
  | _ => []

def mutations (e : EventEnvelope) : List Mutation :=
  let orderId := e.aggregateId
  let payload := e.payload
  let occurredAt := e.occurredAt
  match e.eventType with
  | .orderCreated =>
    [.insertOrder orderId (payload.get "user_id") (payload.get "total_amount")
      (orElse (payload.get "currency") (.str "USD")) (orElse (payload.get "items") (.arr [])) occurredAt]
  | .paymentRequested => [.updateOrder orderId "payment_pending" [] occurredAt]
  | .paymentAuthorized =>
    [ .updateOrder orderId "payment_approved" [(.paymentId, payload.get "payment_id")] occurredAt,
      .insertPayment (payload.get "payment_id") orderId (orElse (payload.get "user_id") (.str "usr_anonymous"))
        (payload.get "amount") (payload.get "authorization_code") occurredAt ]
  | .paymentRejected =>
    [.updateOrder orderId "payment_rejected" [(.failureReason, payload.get "reason")] occurredAt]
  | .paymentRefunded =>
    [.refundPayments orderId (orElse (payload.get "refund_id") (.str ("ref_" ++ orderId))) occurredAt]
  | .inventoryReservationRequested => [.updateOrder orderId "inventory_pending" [] occurredAt]
  | .inventoryReserved =>
    .updateOrder orderId "inventory_reserved" [(.reservationId, payload.get "reservation_id")] occurredAt ::
      (payloadItems payload).map fun item => .reserveStock item occurredAt
  | .inventoryReleased => (payloadItems payload).map fun item => .releaseStock item occurredAt
  | .inventoryReservationFailed =>
    [.updateOrder orderId "inventory_failed" [(.failureReason, payload.get "reason")] occurredAt]
  | .fraudCheckRequested => [.updateOrder orderId "fraud_pending" [] occurredAt]
  | .fraudApproved =>
    [.updateOrder orderId "fraud_approved" [(.fraudCheckId, payload.get "fraud_check_id")] occurredAt]
  | .fraudRejected =>
    [.updateOrder orderId "fraud_rejected" [(.failureReason, payload.get "reason")] occurredAt]
  | .shipmentRequested => [.updateOrder orderId "shipping_pending" [] occurredAt]
  | .shipmentCreated =>
    [ .updateOrder orderId "shipping_created"
        [(.shipmentId, payload.get "shipment_id"), (.trackingNumber, payload.get "tracking_number")] occurredAt,
      .insertShipment (payload.get "shipment_id") orderId (payload.get "tracking_number")
        (orElse (payload.get "carrier") (.str "FEDEX")) (payload.get "estimated_delivery") occurredAt ]
  | .orderCompleted => [.updateOrder orderId "completed" [] occurredAt]
  | .orderCancelled => [.updateOrder orderId "cancelled" [(.failureReason, payload.get "reason")] occurredAt]
  | .orderFailed => [.updateOrder orderId "failed" [(.failureReason, payload.get "reason")] occurredAt]
  | .paymentRefundRequested | .shipmentFailed | .notificationRequested | .notificationSent | .other _ => []

/-! ## What a statement does -/

/-- What a statement does to the rows, its parameters read. -/
inductive Change
  | nothing
  | upsert (k : ModelKey) (row : ModelRow k) (merge : ModelRow k → ModelRow k)
  | update (k : ModelKey) (f : ModelRow k → ModelRow k)
  | updatePayments (orderId : String) (f : PaymentView → PaymentView)

def Change.apply : Change → ReadModels → ReadModels
  | .nothing, m => m
  | .upsert k row merge, m => m.upsert k row merge
  | .update k f, m => m.update k f
  | .updatePayments orderId f, m => m.updatePayments orderId f

/-- Reading a property of a value that JSON can hold. -/
def property (item : Json) (k : String) : Except JsError (Option Json) :=
  match item with
  | .null => .error { message := "Cannot read properties of null (reading '" ++ k ++ "')" }
  | .obj fs => .ok (Fields.get fs k)
  | _ => .ok none

variable (pg : Postgres)

/-- `failure_reason` is a `TEXT` column, the others are `VARCHAR(100)`. -/
def OrderColumn.read (c : OrderColumn) (v : Option Json) : Except JsError (Option String) :=
  match c with
  | .failureReason => pg.text v
  | _ => pg.varchar 100 v

/-- The assignments of a `SET` clause. -/
def readColumns : List (OrderColumn × Option Json) → Except JsError (OrderView → OrderView)
  | [] => .ok id
  | (c, v) :: columns => do
    let value ← c.read pg v
    let rest ← readColumns columns
    return rest ∘ c.assign value

/-- The `SET` clause of both stock statements, `quantity` being `item.quantity || 1`. -/
def stockChange (set : Int → InventoryView → InventoryView) (item : Json) (occurredAt : String) :
    Except JsError Change := do
  let quantity ← property item "quantity"
  let sku ← property item "sku"
  let quantity ← notNull (pg.int (some (orElse quantity (.num 1))))
  let time ← pg.readTimestamp occurredAt
  match ← pg.text sku with
  | none => return .nothing
  | some sku => return .update (.inventory sku) fun row => { set quantity row with updatedAt := time }

def reserve (quantity : Int) (row : InventoryView) : InventoryView :=
  { row with
    reservedStock := row.reservedStock + quantity
    availableStock := max 0 (row.availableStock - quantity) }

def release (quantity : Int) (row : InventoryView) : InventoryView :=
  { row with
    reservedStock := max 0 (row.reservedStock - quantity)
    availableStock := row.availableStock + quantity }

def Mutation.change : Mutation → Except JsError Change
  | .insertOrder orderId userId totalAmount currency items occurredAt => do
    let _ ← readVarchar 100 orderId
    let userId ← notNull (pg.varchar 100 userId)
    let totalAmount ← notNull (pg.decimal totalAmount)
    let currency ← notNull (pg.varchar 10 (some currency))
    let items ← jsonb items
    let time ← pg.readTimestamp occurredAt
    return .upsert (.order orderId)
      { userId, status := "pending", totalAmount, currency, items, paymentId := none, reservationId := none,
        fraudCheckId := none, shipmentId := none, trackingNumber := none, failureReason := none,
        createdAt := time, updatedAt := time, version := 1 }
      fun old => { old with status := "pending", totalAmount, items, updatedAt := time }
  | .updateOrder orderId status columns occurredAt => do
    let _ ← readText orderId
    let assign ← readColumns pg columns
    let time ← pg.readTimestamp occurredAt
    return .update (.order orderId) fun row => { assign row with status, updatedAt := time }
  | .insertPayment paymentId orderId userId amount authorizationCode occurredAt => do
    let paymentId ← notNull (pg.varchar 100 paymentId)
    let _ ← readVarchar 100 orderId
    let userId ← notNull (pg.varchar 100 (some userId))
    let amount ← notNull (pg.decimal amount)
    let authorizationCode ← pg.varchar 100 authorizationCode
    let time ← pg.readTimestamp occurredAt
    return .upsert (.payment paymentId)
      { orderId, userId, amount, status := "AUTHORIZED", authorizationCode, refundId := none, failureReason := none,
        createdAt := time, updatedAt := time }
      fun old => { old with status := "AUTHORIZED", updatedAt := time }
  | .refundPayments orderId refundId occurredAt => do
    let _ ← readText orderId
    let refundId ← pg.varchar 100 (some refundId)
    let time ← pg.readTimestamp occurredAt
    return .updatePayments orderId fun row => { row with status := "REFUNDED", refundId, updatedAt := time }
  | .reserveStock item occurredAt => stockChange pg reserve item occurredAt
  | .releaseStock item occurredAt => stockChange pg release item occurredAt
  | .insertShipment shipmentId orderId trackingNumber carrier estimatedDelivery occurredAt => do
    let shipmentId ← notNull (pg.varchar 100 shipmentId)
    let _ ← readVarchar 100 orderId
    let trackingNumber ← notNull (pg.varchar 100 trackingNumber)
    let carrier ← notNull (pg.varchar 50 (some carrier))
    let estimatedDelivery ← pg.timestampParam estimatedDelivery
    let time ← pg.readTimestamp occurredAt
    return .upsert (.shipment shipmentId)
      { orderId, trackingNumber, carrier, status := "CREATED", estimatedDelivery, createdAt := time, updatedAt := time }
      fun old => { old with status := "CREATED", updatedAt := time }

/-- One statement after the other. -/
def runMutations : List Mutation → ReadModels → Except JsError ReadModels
  | [], m => .ok m
  | mutation :: rest, m => do
    let change ← mutation.change pg
    runMutations rest (change.apply m)

/-- The mutation of an event. -/
def mutate (e : EventEnvelope) (m : ReadModels) : Except JsError ReadModels := runMutations pg (mutations e) m

/-- The changes of a list of statements, unless PostgreSQL refuses one. -/
def changesOf : List Mutation → Except JsError (List Change)
  | [] => .ok []
  | mutation :: rest => do
    let change ← mutation.change pg
    let changes ← changesOf rest
    return change :: changes

def applyChanges (changes : List Change) (m : ReadModels) : ReadModels := changes.foldl (fun m change => change.apply m) m

/-- Whether the statements succeed does not depend on the rows. -/
theorem runMutations_eq (ms : List Mutation) (m : ReadModels) :
    runMutations pg ms m = (changesOf pg ms).map fun changes => applyChanges changes m := by
  induction ms generalizing m with
  | nil => rfl
  | cons mutation rest ih =>
    rw [runMutations, changesOf]
    cases mutation.change pg with
    | error e => rfl
    | ok change =>
      change runMutations pg rest (change.apply m) = _
      rw [ih]
      cases changesOf pg rest with
      | error e => rfl
      | ok changes => rfl

def changesOfEvent (e : EventEnvelope) : Except JsError (List Change) := changesOf pg (mutations e)

theorem mutate_eq (e : EventEnvelope) (m : ReadModels) :
    mutate pg e m = (changesOfEvent pg e).map fun changes => applyChanges changes m := runMutations_eq pg _ m

end Fulfillment
