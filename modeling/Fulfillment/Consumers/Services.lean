import Fulfillment.Consumers.BaseConsumer
import Fulfillment.Js.Date
import Fulfillment.Js.Number
import Fulfillment.Projection.Mutations

/-!
# The services

Each of the five handlers answers a request with at most one event, so a
handler is its `answer` and `Service.processEvent` sends that.
-/

namespace Fulfillment

open Js Effects

structure Service where
  consumerName : String
  topic : String
  answer : Ambient → EventEnvelope → Except JsError (Option Message)

/-- An event of the same order, caused by the one being handled. -/
def answering (producer : String) (e : EventEnvelope) (uuid now topic : String) (eventType : EventType)
    (aggregateType : String) (payload : List (String × Option Json)) : Message :=
  emitted producer uuid now
    { topic := topic
      eventType := eventType
      aggregateId := e.aggregateId
      aggregateType := aggregateType
      payload := record payload
      correlationId := e.correlationId
      causationId := e.eventId }

namespace PaymentConsumer

def consumerName : String := "payment-service"

def rejected (amb : Ambient) (e : EventEnvelope) : Message :=
  answering consumerName e (amb.uuid 0) (amb.now 1) Topics.payments .paymentRejected "Payment"
    [ ("order_id", some (.str e.aggregateId)),
      ("user_id", e.payload.get "user_id"),
      ("amount", e.payload.get "amount"),
      ("reason", some (.str "Card authorization failed (Chaos Injection)")),
      ("rejected_at", some (.str (amb.now 0))) ]

def authorized (amb : Ambient) (e : EventEnvelope) : Message :=
  answering consumerName e (amb.uuid 1) (amb.now 1) Topics.payments .paymentAuthorized "Payment"
    [ ("payment_id", some (.str ("pay_" ++ slice8 (amb.uuid 0)))),
      ("order_id", some (.str e.aggregateId)),
      ("user_id", e.payload.get "user_id"),
      ("amount", e.payload.get "amount"),
      ("authorization_code", some (.str ("AUTH_" ++ toString (100000 + amb.random 0 % 900000)))),
      ("authorized_at", some (.str (amb.now 0))) ]

def refunded (amb : Ambient) (e : EventEnvelope) : Message :=
  answering consumerName e (amb.uuid 1) (amb.now 1) Topics.payments .paymentRefunded "Payment"
    [ ("refund_id", some (.str ("ref_" ++ slice8 (amb.uuid 0)))),
      ("payment_id", some (orElse (e.payload.get "payment_id") (.str "pay_unknown"))),
      ("order_id", some (.str e.aggregateId)),
      ("amount", e.payload.get "amount"),
      ("refunded_at", some (.str (amb.now 0))) ]

def answer (amb : Ambient) (e : EventEnvelope) : Except JsError (Option Message) :=
  match e.eventType with
  | .paymentRequested => .ok (some (if amb.shouldFail then rejected amb e else authorized amb e))
  | .paymentRefundRequested => .ok (some (refunded amb e))
  | _ => .ok none

end PaymentConsumer

namespace InventoryConsumer

def consumerName : String := "inventory-service"

/-- `i.sku === 'OUT_OF_STOCK_ITEM' || i.quantity > 500` for one of the items. -/
def someOutOfStock : List Json → Except JsError Bool
  | [] => .ok false
  | item :: items =>
    (property item "sku").bind fun sku =>
      if sku = some (.str "OUT_OF_STOCK_ITEM") then .ok true
      else
        (property item "quantity").bind fun quantity =>
          (toNumber quantity).bind fun quantity =>
            if quantity.exceeds 500 then .ok true else someOutOfStock items

def hasOutOfStock : Json → Except JsError Bool
  | .arr items => someOutOfStock items
  | _ => .error { message := "items.some is not a function" }

def reservationFailed (amb : Ambient) (e : EventEnvelope) (items : Json) : Message :=
  answering consumerName e (amb.uuid 0) (amb.now 1) Topics.inventory .inventoryReservationFailed "Inventory"
    [ ("order_id", some (.str e.aggregateId)),
      ("items", some items),
      ("reason", some (.str (if amb.shouldFail then "Chaos forced inventory failure" else "SKU out of stock"))),
      ("failed_at", some (.str (amb.now 0))) ]

def reserved (amb : Ambient) (e : EventEnvelope) (items : Json) : Message :=
  answering consumerName e (amb.uuid 1) (amb.now 1) Topics.inventory .inventoryReserved "Inventory"
    [ ("reservation_id", some (.str ("res_" ++ slice8 (amb.uuid 0)))),
      ("order_id", some (.str e.aggregateId)),
      ("items", some items),
      ("reserved_at", some (.str (amb.now 0))) ]

def answer (amb : Ambient) (e : EventEnvelope) : Except JsError (Option Message) :=
  match e.eventType with
  | .inventoryReservationRequested =>
    let items := orElse (e.payload.get "items") (.arr [])
    (hasOutOfStock items).map fun hasOutOfStock =>
      some (if amb.shouldFail || hasOutOfStock then reservationFailed amb e items else reserved amb e items)
  | _ => .ok none

end InventoryConsumer

namespace FraudConsumer

def consumerName : String := "fraud-service"

def isHighRisk (amb : Ambient) (e : EventEnvelope) : Except JsError Bool :=
  (toNumber (e.payload.get "amount")).bind fun amount =>
    (orElse (e.payload.get "user_id") (.str "")).toText.map fun userId =>
      amb.shouldFail || amount.orZero.exceeds 10000 || decide ("fraudster".toList <:+: userId.toList)

def rejected (amb : Ambient) (e : EventEnvelope) : Message :=
  answering consumerName e (amb.uuid 1) (amb.now 1) Topics.fraud .fraudRejected "Fraud"
    [ ("fraud_check_id", some (.str ("fraud_" ++ slice8 (amb.uuid 0)))),
      ("order_id", some (.str e.aggregateId)),
      ("risk_score", some (.num 92)),
      ("reason", some (.str (if amb.shouldFail then "Chaos forced fraud rejection" else "Excessive risk score (>75)"))),
      ("rejected_at", some (.str (amb.now 0))) ]

def approved (amb : Ambient) (e : EventEnvelope) : Message :=
  answering consumerName e (amb.uuid 1) (amb.now 1) Topics.fraud .fraudApproved "Fraud"
    [ ("fraud_check_id", some (.str ("fraud_" ++ slice8 (amb.uuid 0)))),
      ("order_id", some (.str e.aggregateId)),
      ("risk_score", some (.num (amb.random 0 % 25 + 5 : Nat))),
      ("approved_at", some (.str (amb.now 0))) ]

def answer (amb : Ambient) (e : EventEnvelope) : Except JsError (Option Message) :=
  match e.eventType with
  | .fraudCheckRequested =>
    (isHighRisk amb e).map fun isHighRisk => some (if isHighRisk then rejected amb e else approved amb e)
  | _ => .ok none

end FraudConsumer

namespace ShippingConsumer

def consumerName : String := "shipping-service"

def failed (amb : Ambient) (e : EventEnvelope) : Message :=
  answering consumerName e (amb.uuid 0) (amb.now 1) Topics.shipping .shipmentFailed "Shipment"
    [ ("order_id", some (.str e.aggregateId)),
      ("reason", some (.str "Carrier API unreachable (Chaos Injection)")),
      ("failed_at", some (.str (amb.now 0))) ]

/-- `new Date(Date.now() + 3 * 24 * 60 * 60 * 1000).toISOString()`. -/
def estimatedDelivery (now : String) : String :=
  match fromISOString now with
  | some ms => toISOString (ms + 3 * 24 * 60 * 60 * 1000)
  | none => now

def created (amb : Ambient) (e : EventEnvelope) : Message :=
  answering consumerName e (amb.uuid 1) (amb.now 2) Topics.shipping .shipmentCreated "Shipment"
    [ ("shipment_id", some (.str ("ship_" ++ slice8 (amb.uuid 0)))),
      ("order_id", some (.str e.aggregateId)),
      ("tracking_number", some (.str ("TRK-" ++ toString (10000000 + amb.random 0 % 90000000)))),
      ("carrier", some (.str "FEDEX")),
      ("estimated_delivery", some (.str (estimatedDelivery (amb.now 0)))),
      ("created_at", some (.str (amb.now 1))) ]

def answer (amb : Ambient) (e : EventEnvelope) : Except JsError (Option Message) :=
  match e.eventType with
  | .shipmentRequested => .ok (some (if amb.shouldFail then failed amb e else created amb e))
  | _ => .ok none

end ShippingConsumer

namespace NotificationConsumer

def consumerName : String := "notification-service"

def sent (amb : Ambient) (e : EventEnvelope) : Message :=
  answering consumerName e (amb.uuid 1) (amb.now 1) Topics.notifications .notificationSent "Notification"
    [ ("notification_id", some (.str ("notif_" ++ slice8 (amb.uuid 0)))),
      ("order_id", some (.str e.aggregateId)),
      ("user_id", some (orElse (e.payload.get "user_id") (.str "unknown"))),
      ("channel", some (orElse (e.payload.get "channel") (.str "EMAIL"))),
      ("sent_at", some (.str (amb.now 0))) ]

def answer (amb : Ambient) (e : EventEnvelope) : Except JsError (Option Message) :=
  match e.eventType with
  | .notificationRequested =>
    if amb.shouldFail then .error { message := "Notification mail server unreachable (Chaos Injection)" }
    else .ok (some (sent amb e))
  | _ => .ok none

end NotificationConsumer

def paymentService : Service := ⟨PaymentConsumer.consumerName, Topics.payments, PaymentConsumer.answer⟩

def inventoryService : Service := ⟨InventoryConsumer.consumerName, Topics.inventory, InventoryConsumer.answer⟩

def fraudService : Service := ⟨FraudConsumer.consumerName, Topics.fraud, FraudConsumer.answer⟩

def shippingService : Service := ⟨ShippingConsumer.consumerName, Topics.shipping, ShippingConsumer.answer⟩

def notificationService : Service :=
  ⟨NotificationConsumer.consumerName, Topics.notifications, NotificationConsumer.answer⟩

theorem mapped_returns {x : Except JsError Bool} {f : Bool → Message} {m : Message}
    (h : (x.map fun b => some (f b)) = .ok (some m)) : ∃ b, f b = m := by
  cases x with
  | error err => cases h
  | ok b => exact ⟨b, Option.some.inj (Except.ok.inj h)⟩

namespace Service

def processEvent (s : Service) (amb : Ambient) (e : EventEnvelope) : Program Unit := do
  let answer ← Prog.ofExcept (s.answer amb e)
  match answer with
  | some m => await (.send m)
  | none => pure ()

def consumer (s : Service) : Consumer where
  consumerName := s.consumerName
  processEvent _ := s.processEvent

end Service

end Fulfillment
