import Fulfillment.Consumers.Services
import Fulfillment.Contracts.Payloads
import Fulfillment.Contracts.RoundTrip
import Fulfillment.Contracts.Timestamps
import Fulfillment.Saga.Machine

/-!
# What the handlers emit

An event that conforms is answered with events that conform. What an answer
takes from an earlier event of the order comes from the context of the saga.
-/

namespace Fulfillment

open Js Effects

/-- The envelope is valid, and its payload satisfies the schema of its type. -/
structure EventEnvelope.Conforms (e : EventEnvelope) : Prop where
  valid : e.plain.Valid
  payload : payloadSchema e.eventType (some (.obj e.payload)) = true

/-- An event that conforms, or the letter of a message that could be read. -/
def MessageValue.Conforms : MessageValue → Prop
  | .event e => e.Conforms
  | .deadLetter letter => ∀ raw, letter.content ≠ .malformed raw

def Message.Conforms (m : Message) : Prop := m.value.Conforms

/-- A text that the clock wrote. -/
def ClockReading (s : String) : Prop := ∃ ms, Instant ms ∧ s = toISOString ms

def Ambient.Timely (amb : Ambient) : Prop := ∀ k, ClockReading (amb.now k)

/-- What an order brought with it, and what its steps added. -/
structure SagaContext.Conforms (ctx : SagaContext) : Prop where
  userId : Zod.nonEmpty ctx.userId = true
  totalAmount : Zod.positive ctx.totalAmount = true
  items : Zod.nonEmptyArray orderItemSchema ctx.items = true
  shippingAddress : Zod.record ctx.shippingAddress = true
  paymentId : Zod.optional Zod.string ctx.paymentId = true
  reservationId : Zod.optional Zod.string ctx.reservationId = true

theorem ClockReading.datetime {s : String} (h : ClockReading s) : datetimeField (some (.str s)) = some s := by
  obtain ⟨ms, instant, rfl⟩ := h
  exact datetimeField_toISOString instant

theorem EventEnvelope.Conforms.plain {e : EventEnvelope} (h : e.Conforms) : e.plain.Conforms := by
  constructor
  · rw [h.valid.plain]
    exact h.valid
  · exact (payloadSchema_plain e.eventType e.payload).trans h.payload

section
variable {amb : Ambient} {e : EventEnvelope} {m : Message}

/-- An answer to an event that conforms has to have a payload that does. -/
theorem answering_conforms (handled : e.Conforms) {producer uuid now topic aggregateType : String} {t : EventType}
    {payload : List (String × Option Json)} (time : ClockReading now) (producer_ne : producer ≠ "")
    (aggregateType_ne : aggregateType ≠ "") (conforms : payloadSchema t (some (.obj (record payload))) = true) :
    (answering producer e uuid now topic t aggregateType payload).Conforms := by
  obtain ⟨type_ne, named⟩ := listed_of_payloadSchema conforms
  constructor
  · exact
      { eventId := by simp [EventEnvelope.plain, createEventEnvelope]
        eventType := type_ne
        named := named
        eventVersion := Nat.one_pos
        sequenceNumber := nofun
        aggregateId := handled.valid.aggregateId
        aggregateType := aggregateType_ne
        occurredAt := time.datetime
        producer := producer_ne
        correlationId := handled.valid.correlationId
        causationId := handled.valid.eventId
        schemaVersion := Nat.one_pos
        payload := fun f hf => of_decide_eq_true (List.mem_filter.mp hf).2 }
  · exact conforms

/-! ## The services -/

theorem payment_conforms (handled : e.Conforms) (timely : amb.Timely)
    (h : PaymentConsumer.answer amb e = .ok (some m)) : m.Conforms := by
  have order : e.aggregateId ≠ "" := handled.valid.aggregateId
  have payload := handled.payload
  unfold PaymentConsumer.answer at h
  split at h
  case h_1 type =>
    simp only [type, payloadSchema, paymentRequestedPayloadSchema, Zod.object, List.all_cons, Bool.and_eq_true] at payload
    obtain ⟨-, userId, amount, -⟩ := payload
    rw [← Option.some.inj (Except.ok.inj h)]
    split
    · apply answering_conforms handled (timely 1) (by decide) (by decide)
      rw [payloadSchema, paymentRejectedPayloadSchema, Zod.object_record (by simp)]
      simp [List.lookup, order, userId, amount]
    · apply answering_conforms handled (timely 1) (by decide) (by decide)
      rw [payloadSchema, paymentAuthorizedPayloadSchema, Zod.object_record (by simp)]
      simp [List.lookup, order, userId, amount]
  case h_2 type =>
    simp only [type, payloadSchema, paymentRefundRequestedPayloadSchema, Zod.object, List.all_cons,
      Bool.and_eq_true] at payload
    obtain ⟨-, paymentId, amount, -⟩ := payload
    rw [← Option.some.inj (Except.ok.inj h)]
    apply answering_conforms handled (timely 1) (by decide) (by decide)
    rw [payloadSchema, paymentRefundedPayloadSchema, Zod.object_record (by simp)]
    simp [List.lookup, order, amount, Zod.orElse_nonEmpty paymentId]
  case h_3 => cases h

theorem inventory_conforms (handled : e.Conforms) (timely : amb.Timely)
    (h : InventoryConsumer.answer amb e = .ok (some m)) : m.Conforms := by
  have order : e.aggregateId ≠ "" := handled.valid.aggregateId
  have payload := handled.payload
  unfold InventoryConsumer.answer at h
  split at h
  case h_1 type =>
    simp only [type, payloadSchema, inventoryReservationRequestedPayloadSchema, Zod.object, List.all_cons,
      Bool.and_eq_true] at payload
    obtain ⟨-, items, -⟩ := payload
    have kept : some (orElse (e.payload.get "items") (.arr [])) = e.payload.get "items" :=
      some_orElse (Zod.truthy_of_nonEmptyArray items) _
    obtain ⟨outOfStock, rfl⟩ := mapped_returns h
    split
    · apply answering_conforms handled (timely 1) (by decide) (by decide)
      rw [payloadSchema, inventoryReservationFailedPayloadSchema, Zod.object_record (by simp)]
      simp only [List.lookup, kept]
      cases amb.shouldFail <;> simp [order, items]
    · apply answering_conforms handled (timely 1) (by decide) (by decide)
      rw [payloadSchema, inventoryReservedPayloadSchema, Zod.object_record (by simp)]
      simp [List.lookup, order, kept, items]
  case h_2 => cases h

theorem fraud_conforms (handled : e.Conforms) (timely : amb.Timely)
    (h : FraudConsumer.answer amb e = .ok (some m)) : m.Conforms := by
  have order : e.aggregateId ≠ "" := handled.valid.aggregateId
  unfold FraudConsumer.answer at h
  split at h
  case h_1 =>
    obtain ⟨isHighRisk, rfl⟩ := mapped_returns h
    split
    · apply answering_conforms handled (timely 1) (by decide) (by decide)
      rw [payloadSchema, fraudRejectedPayloadSchema, Zod.object_record (by simp)]
      have scored : Zod.between 0 100 (some (.num 92)) = true := by decide
      cases amb.shouldFail <;> simp [List.lookup, order, scored]
    · apply answering_conforms handled (timely 1) (by decide) (by decide)
      rw [payloadSchema, fraudApprovedPayloadSchema, Zod.object_record (by simp)]
      have scored : Zod.between 0 100 (some (.num ((amb.random 0 % 25 : Nat) + 5))) = true := by
        have high : amb.random 0 % 25 + 5 ≤ 100 := by omega
        simp only [Zod.between, decide_eq_true_eq]
        constructor
        · exact_mod_cast Nat.zero_le (amb.random 0 % 25 + 5)
        · exact_mod_cast high
      simp [List.lookup, order, scored]
  case h_2 => cases h

theorem shipping_conforms (handled : e.Conforms) (timely : amb.Timely)
    (h : ShippingConsumer.answer amb e = .ok (some m)) : m.Conforms := by
  have order : e.aggregateId ≠ "" := handled.valid.aggregateId
  unfold ShippingConsumer.answer at h
  split at h
  case h_1 =>
    rw [← Option.some.inj (Except.ok.inj h)]
    split
    · apply answering_conforms handled (timely 1) (by decide) (by decide)
      rw [payloadSchema, shipmentFailedPayloadSchema, Zod.object_record (by simp)]
      simp [List.lookup, order]
    · apply answering_conforms handled (timely 2) (by decide) (by decide)
      rw [payloadSchema, shipmentCreatedPayloadSchema, Zod.object_record (by simp)]
      simp [List.lookup, order]
  case h_2 => cases h

theorem notification_conforms (handled : e.Conforms) (timely : amb.Timely)
    (h : NotificationConsumer.answer amb e = .ok (some m)) : m.Conforms := by
  have order : e.aggregateId ≠ "" := handled.valid.aggregateId
  have payload := handled.payload
  unfold NotificationConsumer.answer at h
  split at h
  case h_1 type =>
    simp only [type, payloadSchema, notificationRequestedPayloadSchema, Zod.object, List.all_cons,
      Bool.and_eq_true] at payload
    obtain ⟨-, userId, channel, -⟩ := payload
    by_cases chaos : amb.shouldFail = true
    · rw [if_pos chaos] at h
      cases h
    · rw [if_neg chaos] at h
      rw [← Option.some.inj (Except.ok.inj h)]
      apply answering_conforms handled (timely 1) (by decide) (by decide)
      rw [payloadSchema, notificationSentPayloadSchema, Zod.object_record (by simp)]
      simp [List.lookup, order, some_orElse (Zod.truthy_of_nonEmpty userId), userId,
        Zod.orElse_nonEmpty (Zod.string_of_oneOf channel)]
  case h_2 => cases h

theorem services_conform {s : Service}
    (service : s ∈ [paymentService, inventoryService, fraudService, shippingService, notificationService])
    (handled : e.Conforms) (timely : amb.Timely) (h : s.answer amb e = .ok (some m)) : m.Conforms := by
  simp only [List.mem_cons, List.not_mem_nil, or_false] at service
  rcases service with rfl | rfl | rfl | rfl | rfl
  · exact payment_conforms handled timely h
  · exact inventory_conforms handled timely h
  · exact fraud_conforms handled timely h
  · exact shipping_conforms handled timely h
  · exact notification_conforms handled timely h

/-! ## The orchestrator -/

namespace SagaContext.Conforms

variable {ctx : SagaContext} (h : ctx.Conforms)
include h

theorem userId_kept (d : Json) : some (orElse ctx.userId d) = ctx.userId := some_orElse (Zod.truthy_of_nonEmpty h.userId) d

theorem totalAmount_kept (d : Json) : some (orElse ctx.totalAmount d) = ctx.totalAmount :=
  some_orElse (Zod.truthy_of_positive h.totalAmount) d

theorem items_kept (d : Json) : some (orElse ctx.items d) = ctx.items :=
  some_orElse (Zod.truthy_of_nonEmptyArray h.items) d

theorem shippingAddress_kept (d : Json) : some (orElse ctx.shippingAddress d) = ctx.shippingAddress :=
  some_orElse (Zod.truthy_of_record h.shippingAddress) d

end SagaContext.Conforms

namespace SagaOrchestrator

theorem inventoryReleased_conforms (handled : e.Conforms) {ctx : SagaContext} (context : ctx.Conforms)
    {uuid now releasedAt reason : String} (time : ClockReading now) (given : reason ≠ "") :
    (inventoryReleased e uuid now releasedAt ctx reason).Conforms := by
  have order : e.aggregateId ≠ "" := handled.valid.aggregateId
  apply answering_conforms handled time (by decide) (by decide)
  rw [payloadSchema, inventoryReleasedPayloadSchema, Zod.object_record (by simp)]
  simp [List.lookup, order, context.items_kept, context.items, context.reservationId, given]

theorem paymentRefundRequested_conforms (handled : e.Conforms) {ctx : SagaContext} (context : ctx.Conforms)
    {uuid now reason : String} (time : ClockReading now) (given : reason ≠ "") :
    (paymentRefundRequested e uuid now ctx reason).Conforms := by
  have order : e.aggregateId ≠ "" := handled.valid.aggregateId
  apply answering_conforms handled time (by decide) (by decide)
  rw [payloadSchema, paymentRefundRequestedPayloadSchema, Zod.object_record (by simp)]
  simp [List.lookup, order, context.totalAmount_kept, context.totalAmount, context.paymentId, given]

/-- What an advance saves and sends. -/
def Advanced (row : SagaRow) (emissions : List (Except JsError Message)) : Prop :=
  row.context.Conforms ∧ ∀ m, .ok m ∈ emissions → m.Conforms

theorem Advanced.one {row : SagaRow} {m : Message} (context : row.context.Conforms) (conforms : m.Conforms) :
    Advanced row [.ok m] := by
  refine ⟨context, fun m' hm' => ?_⟩
  cases List.mem_singleton.mp hm'
  exact conforms

theorem Advanced.cons {row : SagaRow} {m : Message} {ms : List (Except JsError Message)} (conforms : m.Conforms)
    (rest : Advanced row ms) : Advanced row (.ok m :: ms) := by
  refine ⟨rest.1, fun m' hm' => ?_⟩
  rcases List.mem_cons.mp hm' with same | hm'
  · cases same
    exact conforms
  · exact rest.2 m' hm'

theorem orderCreated_conforms (handled : e.Conforms) (timely : amb.Timely) (type : e.eventType = .orderCreated)
    {saga : Option SagaRow} {row : SagaRow} {emissions : List (Except JsError Message)}
    (h : onOrderCreated amb e saga = .advance row emissions) : Advanced row emissions := by
  have order : e.aggregateId ≠ "" := handled.valid.aggregateId
  have payload := handled.payload
  simp only [type, payloadSchema, orderCreatedPayloadSchema, Zod.object, List.all_cons, Bool.and_eq_true] at payload
  obtain ⟨-, userId, items, amount, currency, address, -⟩ := payload
  unfold onOrderCreated at h
  split at h
  · cases h
  · cases h
    apply Advanced.one
    · exact ⟨userId, amount, items, Zod.record_orElse address _, rfl, rfl⟩
    · apply answering_conforms handled (timely 0) (by decide) (by decide)
      rw [payloadSchema, paymentRequestedPayloadSchema, Zod.object_record (by simp)]
      have given : Zod.optional Zod.string (some (orElse (e.payload.get "currency") (.str "USD"))) = true :=
        Zod.optional_of_nonEmpty (Zod.orElse_nonEmpty currency (by decide))
      simp [List.lookup, order, userId, amount, given]

/-- An order's payment and its reserved items are given back. -/
theorem bothCompensations_advanced (handled : e.Conforms) (timely : amb.Timely) {row : SagaRow} {ctx : SagaContext}
    (saved : row.context = ctx) (context : ctx.Conforms) {reason : String} (given : reason ≠ "") :
    Advanced row [ .ok (inventoryReleased e (amb.uuid 0) (amb.now 1) (amb.now 0) ctx reason),
      .ok (paymentRefundRequested e (amb.uuid 1) (amb.now 2) ctx reason) ] := by
  apply Advanced.cons (inventoryReleased_conforms handled context (timely 1) given)
  exact .one (saved ▸ context) (paymentRefundRequested_conforms handled context (timely 2) given)

theorem shipmentCreated_conforms (handled : e.Conforms) (timely : amb.Timely) (type : e.eventType = .shipmentCreated)
    {s row : SagaRow} (context : s.context.Conforms) {emissions : List (Except JsError Message)}
    (h : onShipmentCreated amb e s = .advance row emissions) : Advanced row emissions := by
  have order : e.aggregateId ≠ "" := handled.valid.aggregateId
  have payload := handled.payload
  simp only [type, payloadSchema, shipmentCreatedPayloadSchema, Zod.object, List.all_cons, Bool.and_eq_true] at payload
  obtain ⟨shipmentId, -, trackingNumber, -⟩ := payload
  obtain ⟨user, named⟩ : ∃ user, text (some (orElse s.context.userId (.str "customer"))) = .ok user := by
    rw [context.userId_kept]
    obtain ⟨user, given, -⟩ := Zod.nonEmpty_iff.mp context.userId
    exact ⟨user, by rw [given, text_str]⟩
  simp only [onShipmentCreated, named, Except.map] at h
  cases h
  apply Advanced.cons
  · apply answering_conforms handled (timely 2) (by decide) (by decide)
    rw [payloadSchema, orderCompletedPayloadSchema, Zod.object_record (by simp)]
    have completed : Zod.string (some (orElse (some (.str (amb.now 0))) (.str (amb.now 1)))) = true :=
      Zod.string_orElse _ _
    simp [List.lookup, order, context.userId_kept, context.userId, completed, context.totalAmount_kept, context.totalAmount,
      context.paymentId, Zod.optional_of_nonEmpty shipmentId, Zod.optional_of_nonEmpty trackingNumber]
  · apply Advanced.one
    · exact { context with }
    · apply answering_conforms handled (timely 3) (by decide) (by decide)
      rw [payloadSchema, notificationRequestedPayloadSchema, Zod.object_record (by simp)]
      have channel : Zod.optional (Zod.oneOf ["EMAIL", "SMS", "PUSH", "WEBHOOK"]) (some (.str "EMAIL")) = true := by decide
      simp [List.lookup, order, context.userId_kept, context.userId, channel, Zod.record]

theorem react_conforms (handled : e.Conforms) (timely : amb.Timely) {saga : Option SagaRow}
    (contexts : ∀ s, saga = some s → s.context.Conforms) {row : SagaRow} {emissions : List (Except JsError Message)}
    (h : react amb e saga = .ok (.advance row emissions)) : Advanced row emissions := by
  have order : e.aggregateId ≠ "" := handled.valid.aggregateId
  have payload := handled.payload
  obtain ⟨reaction, switched, h⟩ := react_switched h
  cases switched with
  | orderCreated saga type => exact orderCreated_conforms handled timely type (Except.ok.inj h)
  | paymentAuthorized s type state =>
    have context := contexts s rfl
    simp only [type, payloadSchema, paymentAuthorizedPayloadSchema, Zod.object, List.all_cons, Bool.and_eq_true] at payload
    cases h
    apply Advanced.one
    · exact { context with paymentId := Zod.optional_of_nonEmpty payload.1 }
    · apply answering_conforms handled (timely 0) (by decide) (by decide)
      rw [payloadSchema, inventoryReservationRequestedPayloadSchema, Zod.object_record (by simp)]
      simp [List.lookup, order, context.items_kept, context.items]
  | paymentRejected s type state =>
    have context := contexts s rfl
    obtain ⟨reason, -, h⟩ := bind_returns h
    cases h
    apply Advanced.one
    · exact { context with }
    · apply answering_conforms handled (timely 1) (by decide) (by decide)
      rw [payloadSchema, orderFailedPayloadSchema, Zod.object_record (by simp)]
      simp [List.lookup, order, context.userId_kept, context.userId, Zod.oneOf]
  | inventoryReserved s type state =>
    have context := contexts s rfl
    simp only [type, payloadSchema, inventoryReservedPayloadSchema, Zod.object, List.all_cons, Bool.and_eq_true] at payload
    cases h
    apply Advanced.one
    · exact { context with reservationId := Zod.optional_of_nonEmpty payload.1 }
    · apply answering_conforms handled (timely 0) (by decide) (by decide)
      rw [payloadSchema, fraudCheckRequestedPayloadSchema, Zod.object_record (by simp)]
      simp [List.lookup, order, context.userId_kept, context.userId, context.totalAmount_kept, context.totalAmount,
        Zod.orElse_nonEmpty context.paymentId]
  | inventoryReservationFailed s type state =>
    have context := contexts s rfl
    obtain ⟨reason, -, h⟩ := bind_returns h
    cases h
    apply Advanced.one
    · exact { context with }
    · apply paymentRefundRequested_conforms handled _ (timely 0) (by simp)
      exact { context with }
  | fraudApproved s type state =>
    have context := contexts s rfl
    cases h
    apply Advanced.one
    · exact { context with }
    · apply answering_conforms handled (timely 0) (by decide) (by decide)
      rw [payloadSchema, shipmentRequestedPayloadSchema, Zod.object_record (by simp)]
      simp [List.lookup, order, context.userId_kept, context.userId, context.items_kept, context.items,
        context.shippingAddress_kept, Zod.optional_of context.shippingAddress]
  | fraudRejected s type state | shipmentFailed s type state =>
    have context := contexts s rfl
    obtain ⟨reason, -, h⟩ := bind_returns h
    cases h
    apply bothCompensations_advanced handled timely rfl _ (by simp)
    exact { context with }
  | shipmentCreated s type state => exact shipmentCreated_conforms handled timely type (contexts s rfl) (Except.ok.inj h)

/-- The notice of a saga whose context conforms has a user and a reason. -/
theorem orderCancelled_conforms (handled : e.Conforms) (timely : amb.Timely) {s : SagaRow} (context : s.context.Conforms)
    {action : String} {notice : CancelNotice} (h : cancelNotice s action = some notice) :
    (orderCancelled amb e e.aggregateId notice).Conforms := by
  have order : e.aggregateId ≠ "" := handled.valid.aggregateId
  unfold cancelNotice at h
  split at h
  · cases h
    apply answering_conforms handled (timely 1) (by decide) (by decide)
    rw [payloadSchema, orderCancelledPayloadSchema, Zod.object_record (by simp)]
    have reason : (orNull s.failureReason).getD "Order cancelled after full compensation" ≠ "" :=
      orNull_getD_ne _ (by decide)
    have steps := Zod.optional_of (Zod.array_strings (withCompleted s.context action))
    simp [List.lookup, order, context.userId_kept, context.userId, reason, steps]
  · cases h

end SagaOrchestrator

end

end Fulfillment
