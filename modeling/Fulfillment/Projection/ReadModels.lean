import Fulfillment.Js.Json
import Mathlib

/-!
# The read models

The four tables of the query side. A table is the partial function from a
primary key to the other columns of its row, and the four together are one
function of a tagged key. Timestamps are whole milliseconds.
-/

namespace Fulfillment

open Js

/-- A row of `order_read_model`. -/
structure OrderView where
  userId : String
  status : String
  totalAmount : Rat
  currency : String
  items : Json
  paymentId : Option String
  reservationId : Option String
  fraudCheckId : Option String
  shipmentId : Option String
  trackingNumber : Option String
  failureReason : Option String
  createdAt : Int
  updatedAt : Int
  version : Int
  deriving DecidableEq, Repr

/-- A row of `payment_read_model`. -/
structure PaymentView where
  orderId : String
  userId : String
  amount : Rat
  status : String
  authorizationCode : Option String
  refundId : Option String
  failureReason : Option String
  createdAt : Int
  updatedAt : Int
  deriving DecidableEq, Repr

/-- A row of `inventory_read_model`. -/
structure InventoryView where
  name : String
  totalStock : Int
  reservedStock : Int
  availableStock : Int
  updatedAt : Int
  deriving DecidableEq, Repr

/-- A row of `shipment_read_model`. -/
structure ShipmentView where
  orderId : String
  trackingNumber : String
  carrier : String
  status : String
  estimatedDelivery : Option Int
  createdAt : Int
  updatedAt : Int
  deriving DecidableEq, Repr

inductive ModelKey
  | order (orderId : String)
  | payment (paymentId : String)
  | inventory (sku : String)
  | shipment (shipmentId : String)
  deriving DecidableEq, Repr

abbrev ModelRow : ModelKey → Type
  | .order _ => OrderView
  | .payment _ => PaymentView
  | .inventory _ => InventoryView
  | .shipment _ => ShipmentView

/-- The columns of `projection_applied_events` besides its key, the projection and the event. -/
structure AppliedEvent where
  aggregateId : String
  appliedAt : Int
  deriving DecidableEq, Repr

abbrev ReadModels := (k : ModelKey) → Option (ModelRow k)

namespace ReadModels

def empty : ReadModels := fun _ => none

/-- `INSERT ... ON CONFLICT (key) DO UPDATE SET merge`. -/
def upsert (k : ModelKey) (row : ModelRow k) (merge : ModelRow k → ModelRow k) (m : ReadModels) : ReadModels :=
  Function.update m k (some ((m k).elim row merge))

/-- `UPDATE ... SET f WHERE` the primary key is the one of `k`. -/
def update (k : ModelKey) (f : ModelRow k → ModelRow k) (m : ReadModels) : ReadModels :=
  Function.update m k ((m k).map f)

/-- `UPDATE payment_read_model SET f WHERE order_id = orderId`. -/
def updatePayments (orderId : String) (f : PaymentView → PaymentView) (m : ReadModels) : ReadModels
  | .payment paymentId => (m (.payment paymentId)).map fun row => if row.orderId = orderId then f row else row
  | k => m k

/-- `DELETE FROM order_read_model WHERE order_id = orderId`. -/
def deleteOrder (orderId : String) (m : ReadModels) : ReadModels := Function.update m (.order orderId) none

/-- `DELETE FROM payment_read_model WHERE order_id = orderId`. -/
def deletePayments (orderId : String) (m : ReadModels) : ReadModels
  | .payment paymentId => (m (.payment paymentId)).filter fun row => row.orderId ≠ orderId
  | k => m k

/-- `DELETE FROM shipment_read_model WHERE order_id = orderId`. -/
def deleteShipments (orderId : String) (m : ReadModels) : ReadModels
  | .shipment shipmentId => (m (.shipment shipmentId)).filter fun row => row.orderId ≠ orderId
  | k => m k

end ReadModels

namespace ReadModels

variable (m : ReadModels)

@[simp] theorem upsert_self (k : ModelKey) (row : ModelRow k) (merge : ModelRow k → ModelRow k) :
    m.upsert k row merge k = some ((m k).elim row merge) := Function.update_self ..

@[simp] theorem upsert_of_ne {k k' : ModelKey} (h : k' ≠ k) (row : ModelRow k) (merge : ModelRow k → ModelRow k) :
    m.upsert k row merge k' = m k' := Function.update_of_ne h ..

@[simp] theorem update_self (k : ModelKey) (f : ModelRow k → ModelRow k) : m.update k f k = (m k).map f :=
  Function.update_self ..

@[simp] theorem update_of_ne {k k' : ModelKey} (h : k' ≠ k) (f : ModelRow k → ModelRow k) :
    m.update k f k' = m k' := Function.update_of_ne h ..

theorem filter_eq_self {α : Type} {p : α → Bool} {x : Option α} : x.filter p = x ↔ ∀ a, x = some a → p a = true := by
  cases x with
  | none => simp
  | some a => simp [Option.filter_some]

variable {m}

theorem deleteOrder_eq_self {orderId : String} : m.deleteOrder orderId = m ↔ m (.order orderId) = none :=
  Function.update_eq_self_iff.trans eq_comm

theorem deletePayments_eq_self {orderId : String} :
    m.deletePayments orderId = m ↔ ∀ k row, m (.payment k) = some row → row.orderId ≠ orderId := by
  constructor
  · intro h k row hrow
    have hk : (m (.payment k)).filter (fun row => row.orderId ≠ orderId) = m (.payment k) := congrFun h (.payment k)
    exact of_decide_eq_true (filter_eq_self.mp hk row hrow)
  · intro h
    funext k
    cases k with
    | payment k => exact filter_eq_self.mpr fun row hrow => decide_eq_true (h k row hrow)
    | order _ | inventory _ | shipment _ => rfl

theorem deleteShipments_eq_self {orderId : String} :
    m.deleteShipments orderId = m ↔ ∀ k row, m (.shipment k) = some row → row.orderId ≠ orderId := by
  constructor
  · intro h k row hrow
    have hk : (m (.shipment k)).filter (fun row => row.orderId ≠ orderId) = m (.shipment k) := congrFun h (.shipment k)
    exact of_decide_eq_true (filter_eq_self.mp hk row hrow)
  · intro h
    funext k
    cases k with
    | shipment k => exact filter_eq_self.mpr fun row hrow => decide_eq_true (h k row hrow)
    | order _ | inventory _ | payment _ => rfl

end ReadModels

/-- The read models and the markers of the events that were applied to them. -/
structure ProjectionDb where
  models : ReadModels
  applied : String × String → Option AppliedEvent

end Fulfillment
