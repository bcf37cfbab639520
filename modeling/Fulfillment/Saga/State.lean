import Fulfillment.Js.Json

namespace Fulfillment

open Js

inductive SagaState
  | created
  | paymentPending
  | paymentApproved
  | inventoryPending
  | inventoryReserved
  | fraudPending
  | fraudApproved
  | shippingPending
  | shipped
  | completed
  | compensating
  | cancelled
  | failed
  deriving DecidableEq, Repr

/-- The context column. The payload values kept in it are unchecked; the two
lists of compensations are written by the orchestrator alone. -/
structure SagaContext where
  orderId : Option Json := none
  userId : Option Json := none
  totalAmount : Option Json := none
  items : Option Json := none
  currency : Option Json := none
  shippingAddress : Option Json := none
  createdAt : Option Json := none
  paymentId : Option Json := none
  paymentAuthorizedAt : Option Json := none
  paymentRejectionReason : Option Json := none
  reservationId : Option Json := none
  inventoryReservedAt : Option Json := none
  inventoryFailureReason : Option Json := none
  fraudCheckId : Option Json := none
  riskScore : Option Json := none
  fraudRejectionReason : Option Json := none
  shipmentId : Option Json := none
  trackingNumber : Option Json := none
  completedAt : Option Json := none
  shipmentFailureReason : Option Json := none
  compensationsPending : Option (List String) := none
  compensationsCompleted : Option (List String) := none
  deriving DecidableEq, Repr

/-- `JSON.stringify(context)` writes this object. -/
def SagaContext.toJson (c : SagaContext) : Json :=
  .obj (record
    [ ("order_id", c.orderId),
      ("user_id", c.userId),
      ("total_amount", c.totalAmount),
      ("items", c.items),
      ("currency", c.currency),
      ("shipping_address", c.shippingAddress),
      ("created_at", c.createdAt),
      ("payment_id", c.paymentId),
      ("payment_authorized_at", c.paymentAuthorizedAt),
      ("payment_rejection_reason", c.paymentRejectionReason),
      ("reservation_id", c.reservationId),
      ("inventory_reserved_at", c.inventoryReservedAt),
      ("inventory_failure_reason", c.inventoryFailureReason),
      ("fraud_check_id", c.fraudCheckId),
      ("risk_score", c.riskScore),
      ("fraud_rejection_reason", c.fraudRejectionReason),
      ("shipment_id", c.shipmentId),
      ("tracking_number", c.trackingNumber),
      ("completed_at", c.completedAt),
      ("shipment_failure_reason", c.shipmentFailureReason),
      ("compensations_pending", c.compensationsPending.map fun xs => .arr (xs.map .str)),
      ("compensations_completed", c.compensationsCompleted.map fun xs => .arr (xs.map .str)) ])

structure SagaRow where
  sagaId : String
  aggregateId : String
  sagaType : String
  state : SagaState
  currentStep : String
  correlationId : String
  context : SagaContext
  failureReason : Option String
  deriving DecidableEq, Repr

end Fulfillment
