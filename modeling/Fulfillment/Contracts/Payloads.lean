import Fulfillment.Contracts.Envelope
import Fulfillment.Contracts.Order

/-!
# The payload schemas

One schema for each event type, and what conforming values look like. A field
`z.string().datetime().or(z.string())` takes any string, and a default takes
what is absent.
-/

namespace Fulfillment

open Js

def orderCancelledPayloadSchema : Zod.Schema := Zod.object
  [ ("order_id", Zod.nonEmpty),
    ("user_id", Zod.nonEmpty),
    ("reason", Zod.nonEmpty),
    ("cancelled_at", Zod.string),
    ("compensated_steps", Zod.optional (Zod.array Zod.string)) ]

def paymentRequestedPayloadSchema : Zod.Schema := Zod.object
  [ ("order_id", Zod.nonEmpty),
    ("user_id", Zod.nonEmpty),
    ("amount", Zod.positive),
    ("currency", Zod.optional Zod.string),
    ("payment_method", Zod.optional Zod.string) ]

def paymentAuthorizedPayloadSchema : Zod.Schema := Zod.object
  [ ("payment_id", Zod.nonEmpty),
    ("order_id", Zod.nonEmpty),
    ("user_id", Zod.nonEmpty),
    ("amount", Zod.positive),
    ("authorization_code", Zod.nonEmpty),
    ("authorized_at", Zod.string) ]

def paymentRejectedPayloadSchema : Zod.Schema := Zod.object
  [ ("order_id", Zod.nonEmpty),
    ("user_id", Zod.nonEmpty),
    ("amount", Zod.positive),
    ("reason", Zod.nonEmpty),
    ("rejected_at", Zod.string) ]

def paymentRefundRequestedPayloadSchema : Zod.Schema := Zod.object
  [ ("order_id", Zod.nonEmpty),
    ("payment_id", Zod.optional Zod.string),
    ("amount", Zod.positive),
    ("reason", Zod.nonEmpty) ]

def paymentRefundedPayloadSchema : Zod.Schema := Zod.object
  [ ("refund_id", Zod.nonEmpty),
    ("payment_id", Zod.nonEmpty),
    ("order_id", Zod.nonEmpty),
    ("amount", Zod.positive),
    ("refunded_at", Zod.string) ]

def inventoryReservationRequestedPayloadSchema : Zod.Schema := Zod.object
  [ ("order_id", Zod.nonEmpty),
    ("items", Zod.nonEmptyArray orderItemSchema) ]

def inventoryReservedPayloadSchema : Zod.Schema := Zod.object
  [ ("reservation_id", Zod.nonEmpty),
    ("order_id", Zod.nonEmpty),
    ("items", Zod.nonEmptyArray orderItemSchema),
    ("reserved_at", Zod.string) ]

def inventoryReservationFailedPayloadSchema : Zod.Schema := Zod.object
  [ ("order_id", Zod.nonEmpty),
    ("items", Zod.nonEmptyArray orderItemSchema),
    ("reason", Zod.nonEmpty),
    ("failed_at", Zod.string) ]

def inventoryReleasedPayloadSchema : Zod.Schema := Zod.object
  [ ("reservation_id", Zod.optional Zod.string),
    ("order_id", Zod.nonEmpty),
    ("items", Zod.nonEmptyArray orderItemSchema),
    ("released_at", Zod.string),
    ("reason", Zod.nonEmpty) ]

def fraudCheckRequestedPayloadSchema : Zod.Schema := Zod.object
  [ ("order_id", Zod.nonEmpty),
    ("user_id", Zod.nonEmpty),
    ("amount", Zod.positive),
    ("payment_id", Zod.nonEmpty) ]

def fraudApprovedPayloadSchema : Zod.Schema := Zod.object
  [ ("fraud_check_id", Zod.nonEmpty),
    ("order_id", Zod.nonEmpty),
    ("risk_score", Zod.between 0 100),
    ("approved_at", Zod.string) ]

def fraudRejectedPayloadSchema : Zod.Schema := Zod.object
  [ ("fraud_check_id", Zod.nonEmpty),
    ("order_id", Zod.nonEmpty),
    ("risk_score", Zod.between 0 100),
    ("reason", Zod.nonEmpty),
    ("rejected_at", Zod.string) ]

def shipmentRequestedPayloadSchema : Zod.Schema := Zod.object
  [ ("order_id", Zod.nonEmpty),
    ("user_id", Zod.nonEmpty),
    ("items", Zod.nonEmptyArray orderItemSchema),
    ("shipping_address", Zod.optional Zod.record) ]

def shipmentCreatedPayloadSchema : Zod.Schema := Zod.object
  [ ("shipment_id", Zod.nonEmpty),
    ("order_id", Zod.nonEmpty),
    ("tracking_number", Zod.nonEmpty),
    ("carrier", Zod.optional Zod.string),
    ("estimated_delivery", Zod.string),
    ("created_at", Zod.string) ]

def shipmentFailedPayloadSchema : Zod.Schema := Zod.object
  [ ("order_id", Zod.nonEmpty),
    ("reason", Zod.nonEmpty),
    ("failed_at", Zod.string) ]

def notificationRequestedPayloadSchema : Zod.Schema := Zod.object
  [ ("order_id", Zod.nonEmpty),
    ("user_id", Zod.nonEmpty),
    ("channel", Zod.optional (Zod.oneOf ["EMAIL", "SMS", "PUSH", "WEBHOOK"])),
    ("template", Zod.nonEmpty),
    ("recipient", Zod.nonEmpty),
    ("data", Zod.record) ]

def notificationSentPayloadSchema : Zod.Schema := Zod.object
  [ ("notification_id", Zod.nonEmpty),
    ("order_id", Zod.nonEmpty),
    ("user_id", Zod.nonEmpty),
    ("channel", Zod.nonEmpty),
    ("sent_at", Zod.string) ]

def orderCompletedPayloadSchema : Zod.Schema := Zod.object
  [ ("order_id", Zod.nonEmpty),
    ("user_id", Zod.nonEmpty),
    ("completed_at", Zod.string),
    ("total_amount", Zod.positive),
    ("payment_id", Zod.optional Zod.string),
    ("shipment_id", Zod.optional Zod.string),
    ("tracking_number", Zod.optional Zod.string) ]

def orderFailedPayloadSchema : Zod.Schema := Zod.object
  [ ("order_id", Zod.nonEmpty),
    ("user_id", Zod.nonEmpty),
    ("reason", Zod.nonEmpty),
    ("failed_at", Zod.string),
    ("failed_step", Zod.nonEmpty),
    ("compensation_status", Zod.oneOf ["COMPENSATED", "NO_COMPENSATION_NEEDED", "COMPENSATION_FAILED"]) ]

/-- The schema of an event type; a type that is not among the contracts has none. -/
def payloadSchema : EventType → Zod.Schema
  | .orderCreated => orderCreatedPayloadSchema
  | .orderCancelled => orderCancelledPayloadSchema
  | .paymentRequested => paymentRequestedPayloadSchema
  | .paymentAuthorized => paymentAuthorizedPayloadSchema
  | .paymentRejected => paymentRejectedPayloadSchema
  | .paymentRefundRequested => paymentRefundRequestedPayloadSchema
  | .paymentRefunded => paymentRefundedPayloadSchema
  | .inventoryReservationRequested => inventoryReservationRequestedPayloadSchema
  | .inventoryReserved => inventoryReservedPayloadSchema
  | .inventoryReservationFailed => inventoryReservationFailedPayloadSchema
  | .inventoryReleased => inventoryReleasedPayloadSchema
  | .fraudCheckRequested => fraudCheckRequestedPayloadSchema
  | .fraudApproved => fraudApprovedPayloadSchema
  | .fraudRejected => fraudRejectedPayloadSchema
  | .shipmentRequested => shipmentRequestedPayloadSchema
  | .shipmentCreated => shipmentCreatedPayloadSchema
  | .shipmentFailed => shipmentFailedPayloadSchema
  | .notificationRequested => notificationRequestedPayloadSchema
  | .notificationSent => notificationSentPayloadSchema
  | .orderCompleted => orderCompletedPayloadSchema
  | .orderFailed => orderFailedPayloadSchema
  | .other _ => fun _ => false

/-- Only the event types of the contracts have a schema that accepts anything. -/
theorem listed_of_payloadSchema {t : EventType} {v : Option Json} (h : payloadSchema t v = true) :
    t.name ≠ "" ∧ EventType.ofName t.name = t := by
  cases t with
  | other name => cases h
  | _ => exact ⟨by decide, rfl⟩

/-! ## Conforming values -/

@[simp] theorem Zod.string_str (s : String) : Zod.string (some (.str s)) = true := rfl

@[simp] theorem Zod.optional_string_str (s : String) : Zod.optional Zod.string (some (.str s)) = true := rfl

@[simp] theorem Zod.nonEmpty_str (s : String) : Zod.nonEmpty (some (.str s)) = decide (s ≠ "") := rfl

/-- The properties of an object literal, read from its entries. -/
theorem get_record_lookup {entries : List (String × Option Json)} (nodup : (entries.map Prod.fst).Nodup) (k : String) :
    (record entries).get k = (entries.lookup k).join := by
  cases hk : entries.lookup k with
  | none =>
    apply get_record_of_not_mem
    intro hmem
    obtain ⟨e, he, rfl⟩ := List.mem_map.mp hmem
    exact absurd (beq_self_eq_true e.1) (by simpa using List.lookup_eq_none_iff.mp hk e he)
  | some v =>
    obtain ⟨before, after, split, -⟩ := List.lookup_eq_some_iff.mp hk
    exact get_record nodup (by simp [split])

/-- An object literal conforms if its entries do. -/
theorem Zod.object_record {shape : List (String × Zod.Schema)} {entries : List (String × Option Json)}
    (nodup : (entries.map Prod.fst).Nodup) :
    Zod.object shape (some (.obj (record entries))) =
      shape.all fun field => field.2 ((entries.lookup field.1).join) := by
  simp only [Zod.object, get_record_lookup nodup]

/-- The other properties are read as before. -/
theorem get_filter {k k' : String} (other : k' ≠ k) (fs : Fields) :
    Fields.get (fs.filter fun f => f.1 ≠ k) k' = fs.get k' := by
  induction fs with
  | nil => rfl
  | cons f fs ih =>
    obtain ⟨name, v⟩ := f
    simp only [Fields.get] at ih ⊢
    by_cases dropped : name = k
    · have missed : (k' == name) = false := by simpa [dropped] using other
      rw [List.filter_cons_of_neg (by simp [dropped]), List.lookup_cons, missed, ih]
    · rw [List.filter_cons_of_pos (by simp [dropped]), List.lookup_cons, List.lookup_cons, ih]

/-- A property that the schema does not name may be left out. -/
theorem Zod.object_filter {shape : List (String × Zod.Schema)} {k : String} (h : k ∉ shape.map Prod.fst) (fs : Fields) :
    Zod.object shape (some (.obj (fs.filter fun f => f.1 ≠ k))) = Zod.object shape (some (.obj fs)) := by
  simp only [Zod.object]
  rw [Bool.eq_iff_iff, List.all_eq_true, List.all_eq_true]
  apply forall₂_congr
  intro field hfield
  have other : field.1 ≠ k := by
    rintro rfl
    exact h (List.mem_map_of_mem hfield)
  rw [get_filter other]

/-- The envelope schema drops a property that no payload schema reads. -/
theorem payloadSchema_plain (t : EventType) (fs : Fields) :
    payloadSchema t (some (.obj (fs.filter fun f => f.1 ≠ "__proto__"))) = payloadSchema t (some (.obj fs)) := by
  cases t with
  | other name => rfl
  | _ => exact Zod.object_filter (by decide) fs

theorem Zod.truthy_of_nonEmpty {v : Option Json} (h : Zod.nonEmpty v = true) : truthy v = true := by
  unfold Zod.nonEmpty at h
  split at h
  · simpa [truthy] using h
  · cases h

theorem Zod.truthy_of_positive {v : Option Json} (h : Zod.positive v = true) : truthy v = true := by
  obtain ⟨q, rfl, pos⟩ := Zod.positive_iff.mp h
  simp [truthy, Rat.ne_of_gt pos]

theorem Zod.truthy_of_nonEmptyArray {element : Zod.Schema} {v : Option Json} (h : Zod.nonEmptyArray element v = true) :
    truthy v = true := by
  obtain ⟨xs, rfl, -⟩ := Zod.nonEmptyArray_iff.mp h
  rfl

theorem Zod.truthy_of_record {v : Option Json} (h : Zod.record v = true) : truthy v = true := by
  unfold Zod.record at h
  split at h
  · rfl
  · cases h

/-- A default is not used where a value is there. -/
theorem some_orElse {v : Option Json} (h : truthy v = true) (d : Json) : some (orElse v d) = v := by
  cases v with
  | none => cases h
  | some j => rw [orElse_of_truthy h]

theorem Zod.string_orElse (s d : String) : Zod.string (some (orElse (some (.str s)) (.str d))) = true := by
  by_cases empty : s = "" <;> simp [orElse, truthy, empty]

/-- A text, or the default for an empty or absent one. -/
theorem Zod.orElse_nonEmpty {v : Option Json} (h : Zod.optional Zod.string v = true) {d : String} (hd : d ≠ "") :
    Zod.nonEmpty (some (orElse v (.str d))) = true := by
  cases v with
  | none => simpa [orElse] using hd
  | some j =>
    cases j with
    | str s =>
      by_cases empty : s = ""
      · simpa [orElse, truthy, empty] using hd
      · simp [orElse, truthy, empty]
    | null | bool | num | arr | obj => cases h

/-- An object, or the default for an absent one. -/
theorem Zod.record_orElse {shape : List (String × Zod.Schema)} {v : Option Json}
    (h : Zod.optional (Zod.object shape) v = true) (fs : Fields) : Zod.record (some (orElse v (.obj fs))) = true := by
  cases v with
  | none => rfl
  | some j =>
    cases j with
    | obj => rfl
    | null | bool | num | arr | str => cases h

/-- The names of an enumeration are strings. -/
theorem Zod.string_of_oneOf {names : List String} {v : Option Json} (h : Zod.optional (Zod.oneOf names) v = true) :
    Zod.optional Zod.string v = true := by
  cases v with
  | none => rfl
  | some j =>
    cases j with
    | str s => rfl
    | null | bool | num | arr | obj => cases h

theorem Zod.array_strings (xs : List String) : Zod.array Zod.string (some (.arr (xs.map .str))) = true := by
  simp [Zod.array]

theorem Zod.optional_of {schema : Zod.Schema} {v : Option Json} (h : schema v = true) : Zod.optional schema v = true := by
  cases v with
  | none => rfl
  | some j => exact h

theorem Zod.optional_of_nonEmpty {v : Option Json} (h : Zod.nonEmpty v = true) : Zod.optional Zod.string v = true := by
  unfold Zod.nonEmpty at h
  split at h
  · rfl
  · cases h

end Fulfillment
