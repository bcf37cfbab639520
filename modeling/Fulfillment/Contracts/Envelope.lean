import Fulfillment.Contracts.Zod

namespace Fulfillment

open Js

/-- The names of `EventTypes`, and any other name a message may carry. -/
inductive EventType
  | orderCreated
  | orderCancelled
  | paymentRequested
  | paymentAuthorized
  | paymentRejected
  | paymentRefundRequested
  | paymentRefunded
  | inventoryReservationRequested
  | inventoryReserved
  | inventoryReservationFailed
  | inventoryReleased
  | fraudCheckRequested
  | fraudApproved
  | fraudRejected
  | shipmentRequested
  | shipmentCreated
  | shipmentFailed
  | notificationRequested
  | notificationSent
  | orderCompleted
  | orderFailed
  | other (name : String)
  deriving DecidableEq, Repr

def EventType.name : EventType → String
  | .orderCreated => "OrderCreated"
  | .orderCancelled => "OrderCancelled"
  | .paymentRequested => "PaymentRequested"
  | .paymentAuthorized => "PaymentAuthorized"
  | .paymentRejected => "PaymentRejected"
  | .paymentRefundRequested => "PaymentRefundRequested"
  | .paymentRefunded => "PaymentRefunded"
  | .inventoryReservationRequested => "InventoryReservationRequested"
  | .inventoryReserved => "InventoryReserved"
  | .inventoryReservationFailed => "InventoryReservationFailed"
  | .inventoryReleased => "InventoryReleased"
  | .fraudCheckRequested => "FraudCheckRequested"
  | .fraudApproved => "FraudApproved"
  | .fraudRejected => "FraudRejected"
  | .shipmentRequested => "ShipmentRequested"
  | .shipmentCreated => "ShipmentCreated"
  | .shipmentFailed => "ShipmentFailed"
  | .notificationRequested => "NotificationRequested"
  | .notificationSent => "NotificationSent"
  | .orderCompleted => "OrderCompleted"
  | .orderFailed => "OrderFailed"
  | .other name => name

def EventType.ofName : String → EventType
  | "OrderCreated" => .orderCreated
  | "OrderCancelled" => .orderCancelled
  | "PaymentRequested" => .paymentRequested
  | "PaymentAuthorized" => .paymentAuthorized
  | "PaymentRejected" => .paymentRejected
  | "PaymentRefundRequested" => .paymentRefundRequested
  | "PaymentRefunded" => .paymentRefunded
  | "InventoryReservationRequested" => .inventoryReservationRequested
  | "InventoryReserved" => .inventoryReserved
  | "InventoryReservationFailed" => .inventoryReservationFailed
  | "InventoryReleased" => .inventoryReleased
  | "FraudCheckRequested" => .fraudCheckRequested
  | "FraudApproved" => .fraudApproved
  | "FraudRejected" => .fraudRejected
  | "ShipmentRequested" => .shipmentRequested
  | "ShipmentCreated" => .shipmentCreated
  | "ShipmentFailed" => .shipmentFailed
  | "NotificationRequested" => .notificationRequested
  | "NotificationSent" => .notificationSent
  | "OrderCompleted" => .orderCompleted
  | "OrderFailed" => .orderFailed
  | name => .other name

theorem EventType.name_ofName (s : String) : (EventType.ofName s).name = s := by
  unfold EventType.ofName
  split <;> rfl

structure EventEnvelope where
  eventId : String
  eventType : EventType
  eventVersion : Nat
  sequenceNumber : Option Nat
  aggregateId : String
  aggregateType : String
  occurredAt : String
  producer : String
  correlationId : String
  causationId : String
  schemaVersion : Nat
  payload : Fields
  deriving DecidableEq, Repr

/-- The optional parameters are passed on by no caller, so the defaults are written out. -/
structure EnvelopeParams where
  eventType : EventType
  aggregateId : String
  aggregateType : String
  producer : String
  correlationId : String
  causationId : String
  payload : Fields

def createEventEnvelope (uuid now : String) (params : EnvelopeParams) : EventEnvelope where
  eventId := "evt_" ++ uuid
  eventType := params.eventType
  eventVersion := 1
  sequenceNumber := none
  aggregateId := params.aggregateId
  aggregateType := params.aggregateType
  occurredAt := now
  producer := params.producer
  correlationId := params.correlationId
  causationId := params.causationId
  schemaVersion := 1
  payload := params.payload

/-- The object that `JSON.stringify` writes. -/
def EventEnvelope.toJson (e : EventEnvelope) : Json :=
  .obj (record
    [ ("event_id", some (.str e.eventId)),
      ("event_type", some (.str e.eventType.name)),
      ("event_version", some (.num e.eventVersion)),
      ("sequence_number", e.sequenceNumber.map fun n => .num n),
      ("aggregate_id", some (.str e.aggregateId)),
      ("aggregate_type", some (.str e.aggregateType)),
      ("occurred_at", some (.str e.occurredAt)),
      ("producer", some (.str e.producer)),
      ("correlation_id", some (.str e.correlationId)),
      ("causation_id", some (.str e.causationId)),
      ("schema_version", some (.num e.schemaVersion)),
      ("payload", some (.obj e.payload)) ])

/-- What is left of the event in its text. -/
def EventEnvelope.written (e : EventEnvelope) : EventEnvelope := { e with payload := writtenFields e.payload }

/-! ## The schema of an envelope -/

/-- Digit tests for fixed-width date fields; `d` stands for any digit. -/
def matchesPattern : List Char → List Char → Option (List Char)
  | [], cs => some cs
  | p :: ps, c :: cs =>
    if (if p = 'd' then '0' ≤ c ∧ c ≤ '9' else c = p) then matchesPattern ps cs else none
  | _ :: _, [] => none

/-- `/^\d{4}-\d{2}-\d{2}T\d{2}:\d{2}:\d{2}/`. -/
def startsLikeDatetime (s : String) : Bool :=
  (matchesPattern "dddd-dd-ddTdd:dd:dd".toList s.toList).isSome

def twoDigits (a b : Char) : Nat := (a.toNat - '0'.toNat) * 10 + (b.toNat - '0'.toNat)

def daysInMonth (year month : Nat) : Nat :=
  if month = 2 then if year % 4 = 0 ∧ (year % 100 ≠ 0 ∨ year % 400 = 0) then 29 else 28
  else if month = 4 ∨ month = 6 ∨ month = 9 ∨ month = 11 then 30 else 31

/-- The form `YYYY-MM-DDTHH:MMZ` that `z.string().datetime()` accepts besides
those with seconds, all of which the other alternative accepts as well. -/
def isDatetimeWithoutSeconds (s : String) : Bool :=
  match s.toList with
  | [y1, y2, y3, y4, '-', m1, m2, '-', d1, d2, 'T', h1, h2, ':', n1, n2, 'Z'] =>
    let year := twoDigits y1 y2 * 100 + twoDigits y3 y4
    let month := twoDigits m1 m2
    let day := twoDigits d1 d2
    [y1, y2, y3, y4, m1, m2, d1, d2, h1, h2, n1, n2].all Char.isDigit &&
      decide (1 ≤ month ∧ month ≤ 12 ∧ 1 ≤ day ∧ day ≤ daysInMonth year month ∧
        twoDigits h1 h2 < 24 ∧ twoDigits n1 n2 < 60)
  | _ => false

def nonEmptyString : Option Json → Option String
  | some (.str s) => if s = "" then none else some s
  | _ => none

def positiveIntegerField : Option Json → Option Nat
  | some (.num q) => if 0 < q ∧ q.den = 1 then some q.num.toNat else none
  | _ => none

def positiveIntegerOr (default : Nat) : Option Json → Option Nat
  | none => some default
  | v => positiveIntegerField v

def datetimeField : Option Json → Option String
  | some (.str s) => if startsLikeDatetime s || isDatetimeWithoutSeconds s then some s else none
  | _ => none

/-- `z.record(z.unknown())`, which drops a `__proto__` property. -/
def recordField : Option Json → Option Fields
  | some (.obj fs) => some (fs.filter fun f => f.1 ≠ "__proto__")
  | _ => none

def optionalSequence : Option Json → Option (Option Nat)
  | none => some none
  | v => (positiveIntegerField v).map some

/-- `EventEnvelopeSchema.parse(raw)`; `none` is its `ZodError`. -/
def validateEventEnvelope (raw : Fields) : Option EventEnvelope := do
  let eventId ← nonEmptyString (raw.get "event_id")
  let eventType ← nonEmptyString (raw.get "event_type")
  let eventVersion ← positiveIntegerOr 1 (raw.get "event_version")
  let sequenceNumber ← optionalSequence (raw.get "sequence_number")
  let aggregateId ← nonEmptyString (raw.get "aggregate_id")
  let aggregateType ← nonEmptyString (raw.get "aggregate_type")
  let occurredAt ← datetimeField (raw.get "occurred_at")
  let producer ← nonEmptyString (raw.get "producer")
  let correlationId ← nonEmptyString (raw.get "correlation_id")
  let causationId ← nonEmptyString (raw.get "causation_id")
  let schemaVersion ← positiveIntegerOr 1 (raw.get "schema_version")
  let payload ← recordField (raw.get "payload")
  return { eventId, eventType := .ofName eventType, eventVersion, sequenceNumber, aggregateId,
           aggregateType, occurredAt, producer, correlationId, causationId, schemaVersion, payload }

end Fulfillment
