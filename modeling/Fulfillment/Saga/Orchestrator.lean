import Fulfillment.Consumers.BaseConsumer

/-!
# `SagaOrchestrator`

A switch case reads the saga row once and then does one of three things, so
`react` names the one it does and `Reaction.perform` carries it out.
-/

namespace Fulfillment

open Js Effects

inductive Reaction
  | ignore
  /-- Saves the saga, then sends. A message whose text cannot be built throws
  when its turn comes. -/
  | advance (saga : SagaRow) (emissions : List (Except JsError Message))
  | compensate (saga : SagaRow) (completedAction : String)

namespace SagaOrchestrator

def consumerName : String := "saga-orchestrator"

def topics : List String :=
  [Topics.orders, Topics.payments, Topics.inventory, Topics.fraud, Topics.shipping]

/-- The row a transition of an existing saga saves. -/
def savedAs (saga : SagaRow) (e : EventEnvelope) (state : SagaState) (currentStep : String)
    (context : SagaContext) (failureReason : Option String) : SagaRow where
  sagaId := saga.sagaId
  aggregateId := e.aggregateId
  sagaType := saga.sagaType
  state := state
  currentStep := currentStep
  correlationId := e.correlationId
  context := context
  failureReason := failureReason

/-- An event of the order, caused by the one being handled. -/
def caused (e : EventEnvelope) (uuid now topic : String) (eventType : EventType)
    (aggregateType : String) (payload : List (String × Option Json)) : Message :=
  emitted consumerName uuid now
    { topic := topic
      eventType := eventType
      aggregateId := e.aggregateId
      aggregateType := aggregateType
      payload := record payload
      correlationId := e.correlationId
      causationId := e.eventId }

/-- `if (!saga || saga.state !== state) return`. -/
def inState (saga : Option SagaRow) (state : SagaState)
    (k : SagaRow → Except JsError Reaction) : Except JsError Reaction :=
  match saga with
  | some saga => if saga.state = state then k saga else .ok .ignore
  | none => .ok .ignore

def onOrderCreated (amb : Ambient) (e : EventEnvelope) (saga : Option SagaRow) : Reaction :=
  if saga.any (·.state ≠ .created) then .ignore
  else
    let orderId := e.aggregateId
    let payload := e.payload
    let currency := orElse (payload.get "currency") (.str "USD")
    .advance
      { sagaId := (saga.bind fun s => orNull s.sagaId).getD ("saga_" ++ orderId)
        aggregateId := orderId
        sagaType := "ORDER_FULFILLMENT"
        state := .paymentPending
        currentStep := "PAYMENT"
        correlationId := e.correlationId
        context :=
          { orderId := some (.str orderId)
            userId := payload.get "user_id"
            totalAmount := payload.get "total_amount"
            items := payload.get "items"
            currency := some currency
            shippingAddress := some (orElse (payload.get "shipping_address") (.obj []))
            createdAt := some (.str e.occurredAt) }
        failureReason := none }
      [ .ok (caused e (amb.uuid 0) (amb.now 0) Topics.payments .paymentRequested "Payment"
          [ ("order_id", some (.str orderId)),
            ("user_id", payload.get "user_id"),
            ("amount", payload.get "total_amount"),
            ("currency", some currency),
            ("payment_method", some (.str "credit_card")) ]) ]

def onPaymentAuthorized (amb : Ambient) (e : EventEnvelope) (saga : SagaRow) : Reaction :=
  let updatedContext := { saga.context with
    paymentId := e.payload.get "payment_id"
    paymentAuthorizedAt := e.payload.get "authorized_at" }
  .advance (savedAs saga e .inventoryPending "INVENTORY" updatedContext none)
    [ .ok (caused e (amb.uuid 0) (amb.now 0) Topics.inventory .inventoryReservationRequested "Inventory"
        [ ("order_id", some (.str e.aggregateId)),
          ("items", some (orElse updatedContext.items (.arr []))) ]) ]

def onPaymentRejected (amb : Ambient) (e : EventEnvelope) (saga : SagaRow) : Except JsError Reaction := do
  let reason ← text (e.payload.get "reason")
  return .advance
    (savedAs saga e .failed "TERMINAL"
      { saga.context with paymentRejectionReason := e.payload.get "reason" }
      (some ("Payment declined: " ++ reason)))
    [ .ok (caused e (amb.uuid 0) (amb.now 1) Topics.orders .orderFailed "Order"
        [ ("order_id", some (.str e.aggregateId)),
          ("user_id", some (orElse saga.context.userId (.str "unknown"))),
          ("reason", some (.str ("Payment declined: " ++ reason))),
          ("failed_at", some (.str (amb.now 0))),
          ("failed_step", some (.str "PAYMENT")),
          ("compensation_status", some (.str "NO_COMPENSATION_NEEDED")) ]) ]

def onInventoryReserved (amb : Ambient) (e : EventEnvelope) (saga : SagaRow) : Reaction :=
  let updatedContext := { saga.context with
    reservationId := e.payload.get "reservation_id"
    inventoryReservedAt := e.payload.get "reserved_at" }
  .advance (savedAs saga e .fraudPending "FRAUD_CHECK" updatedContext none)
    [ .ok (caused e (amb.uuid 0) (amb.now 0) Topics.fraud .fraudCheckRequested "Fraud"
        [ ("order_id", some (.str e.aggregateId)),
          ("user_id", some (orElse updatedContext.userId (.str "unknown"))),
          ("amount", some (orElse updatedContext.totalAmount (.num 0))),
          ("payment_id", some (orElse updatedContext.paymentId (.str "pay_unknown"))) ]) ]

/-- Compensation 1 of a saga that had reserved inventory. -/
def inventoryReleased (e : EventEnvelope) (uuid now releasedAt : String) (ctx : SagaContext)
    (reason : String) : Message :=
  caused e uuid now Topics.inventory .inventoryReleased "Inventory"
    [ ("order_id", some (.str e.aggregateId)),
      ("reservation_id", ctx.reservationId),
      ("items", some (orElse ctx.items (.arr []))),
      ("released_at", some (.str releasedAt)),
      ("reason", some (.str reason)) ]

def paymentRefundRequested (e : EventEnvelope) (uuid now : String) (ctx : SagaContext)
    (reason : String) : Message :=
  caused e uuid now Topics.payments .paymentRefundRequested "Payment"
    [ ("order_id", some (.str e.aggregateId)),
      ("payment_id", ctx.paymentId),
      ("amount", some (orElse ctx.totalAmount (.num 0))),
      ("reason", some (.str reason)) ]

def onInventoryReservationFailed (amb : Ambient) (e : EventEnvelope) (saga : SagaRow) :
    Except JsError Reaction := do
  let updatedContext := { saga.context with
    inventoryFailureReason := e.payload.get "reason"
    compensationsPending := some ["PAYMENT_REFUND"]
    compensationsCompleted := some [] }
  let reason ← text (e.payload.get "reason")
  return .advance
    (savedAs saga e .compensating "COMPENSATING_PAYMENT" updatedContext
      (some ("Inventory out of stock: " ++ reason)))
    [ .ok (paymentRefundRequested e (amb.uuid 0) (amb.now 0) updatedContext
        ("Inventory reservation failed: " ++ reason)) ]

def onFraudApproved (amb : Ambient) (e : EventEnvelope) (saga : SagaRow) : Reaction :=
  let updatedContext := { saga.context with
    fraudCheckId := e.payload.get "fraud_check_id"
    riskScore := e.payload.get "risk_score" }
  .advance (savedAs saga e .shippingPending "SHIPPING" updatedContext none)
    [ .ok (caused e (amb.uuid 0) (amb.now 0) Topics.shipping .shipmentRequested "Shipment"
        [ ("order_id", some (.str e.aggregateId)),
          ("user_id", some (orElse updatedContext.userId (.str "unknown"))),
          ("items", some (orElse updatedContext.items (.arr []))),
          ("shipping_address", some (orElse updatedContext.shippingAddress (.obj []))) ]) ]

def bothCompensations : List String := ["INVENTORY_RELEASE", "PAYMENT_REFUND"]

def onFraudRejected (amb : Ambient) (e : EventEnvelope) (saga : SagaRow) : Except JsError Reaction := do
  let updatedContext := { saga.context with
    fraudRejectionReason := e.payload.get "reason"
    compensationsPending := some bothCompensations
    compensationsCompleted := some [] }
  let reason ← text (e.payload.get "reason")
  return .advance
    (savedAs saga e .compensating "COMPENSATING_FRAUD" updatedContext
      (some ("Fraud risk check rejected: " ++ reason)))
    [ .ok (inventoryReleased e (amb.uuid 0) (amb.now 1) (amb.now 0) updatedContext
        ("Fraud rejection: " ++ reason)),
      .ok (paymentRefundRequested e (amb.uuid 1) (amb.now 2) updatedContext
        ("Fraud rejection: " ++ reason)) ]

def onShipmentCreated (amb : Ambient) (e : EventEnvelope) (saga : SagaRow) : Reaction :=
  let updatedContext := { saga.context with
    shipmentId := e.payload.get "shipment_id"
    trackingNumber := e.payload.get "tracking_number"
    completedAt := some (.str (amb.now 0)) }
  .advance (savedAs saga e .completed "TERMINAL_SUCCESS" updatedContext none)
    [ .ok (caused e (amb.uuid 0) (amb.now 2) Topics.orders .orderCompleted "Order"
        [ ("order_id", some (.str e.aggregateId)),
          ("user_id", some (orElse updatedContext.userId (.str "unknown"))),
          ("completed_at", some (orElse updatedContext.completedAt (.str (amb.now 1)))),
          ("total_amount", some (orElse updatedContext.totalAmount (.num 0))),
          ("payment_id", updatedContext.paymentId),
          ("shipment_id", e.payload.get "shipment_id"),
          ("tracking_number", e.payload.get "tracking_number") ]),
      (text (some (orElse updatedContext.userId (.str "customer")))).map fun user =>
        caused e (amb.uuid 1) (amb.now 3) Topics.notifications .notificationRequested "Notification"
          [ ("order_id", some (.str e.aggregateId)),
            ("user_id", some (orElse updatedContext.userId (.str "unknown"))),
            ("channel", some (.str "EMAIL")),
            ("template", some (.str "ORDER_CONFIRMATION_SHIPPED")),
            ("recipient", some (.str (user ++ "@example.com"))),
            ("data", some (.obj (record
              [ ("tracking_number", e.payload.get "tracking_number"),
                ("total_amount", updatedContext.totalAmount) ]))) ] ]

def onShipmentFailed (amb : Ambient) (e : EventEnvelope) (saga : SagaRow) : Except JsError Reaction := do
  let updatedContext := { saga.context with
    shipmentFailureReason := e.payload.get "reason"
    compensationsPending := some bothCompensations
    compensationsCompleted := some [] }
  let reason ← text (e.payload.get "reason")
  return .advance
    (savedAs saga e .compensating "COMPENSATING_SHIPPING" updatedContext
      (some ("Shipment dispatch failed: " ++ reason)))
    [ .ok (inventoryReleased e (amb.uuid 0) (amb.now 1) (amb.now 0) updatedContext
        ("Shipment failed: " ++ reason)),
      .ok (paymentRefundRequested e (amb.uuid 1) (amb.now 2) updatedContext
        ("Shipment failed: " ++ reason)) ]

/-- The switch of `processEvent`. -/
def react (amb : Ambient) (e : EventEnvelope) (saga : Option SagaRow) : Except JsError Reaction :=
  match e.eventType with
  | .orderCreated => .ok (onOrderCreated amb e saga)
  | .paymentAuthorized => inState saga .paymentPending fun s => .ok (onPaymentAuthorized amb e s)
  | .paymentRejected => inState saga .paymentPending (onPaymentRejected amb e)
  | .inventoryReserved => inState saga .inventoryPending fun s => .ok (onInventoryReserved amb e s)
  | .inventoryReservationFailed => inState saga .inventoryPending (onInventoryReservationFailed amb e)
  | .fraudApproved => inState saga .fraudPending fun s => .ok (onFraudApproved amb e s)
  | .fraudRejected => inState saga .fraudPending (onFraudRejected amb e)
  | .shipmentCreated => inState saga .shippingPending fun s => .ok (onShipmentCreated amb e s)
  | .shipmentFailed => inState saga .shippingPending (onShipmentFailed amb e)
  | .paymentRefunded => inState saga .compensating fun s => .ok (.compensate s "PAYMENT_REFUND")
  | .inventoryReleased => inState saga .compensating fun s => .ok (.compensate s "INVENTORY_RELEASE")
  | _ => .ok .ignore

def orderCancelled (amb : Ambient) (e : EventEnvelope) (orderId : String) (notice : CancelNotice) :
    Message :=
  emitted consumerName (amb.uuid 0) (amb.now 1)
    { topic := Topics.orders
      eventType := .orderCancelled
      aggregateId := orderId
      aggregateType := "Order"
      payload := record
        [ ("order_id", some (.str orderId)),
          ("user_id", some notice.userId),
          ("reason", some (.str notice.failureReason)),
          ("cancelled_at", some (.str (amb.now 0))),
          ("compensated_steps", some (.arr (notice.completedList.map .str))) ]
      correlationId := e.correlationId
      causationId := e.eventId }

def sendAll : List (Except JsError Message) → Program Unit
  | [] => pure ()
  | m :: ms => do
    let m ← Prog.ofExcept m
    await (.send m)
    sendAll ms

def handleCompensationCompletion (amb : Ambient) (e : EventEnvelope) (saga : SagaRow)
    (completedAction : String) : Program Unit := do
  let notice : Option CancelNotice ← await (.compensationBarrier saga completedAction e.correlationId)
  match notice with
  | none => pure ()
  | some notice => await (.send (orderCancelled amb e saga.aggregateId notice))

def perform (amb : Ambient) (e : EventEnvelope) : Reaction → Program Unit
  | .ignore => pure ()
  | .advance saga emissions => do
    await (.saveSagaInstance saga)
    sendAll emissions
  | .compensate saga completedAction => handleCompensationCompletion amb e saga completedAction

def processEvent (amb : Ambient) (e : EventEnvelope) : Program Unit := do
  let saga : Option SagaRow ← await (.getSagaByAggregateId e.aggregateId)
  let reaction ← Prog.ofExcept (react amb e saga)
  perform amb e reaction

end SagaOrchestrator

def sagaOrchestrator : Consumer where
  consumerName := SagaOrchestrator.consumerName
  processEvent _ := SagaOrchestrator.processEvent

end Fulfillment
