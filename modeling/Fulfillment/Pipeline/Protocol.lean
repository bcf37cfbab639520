import Fulfillment.Pipeline.Duties
import Fulfillment.Pipeline.Tracing

/-!
# The protocol of an order

What an event may bring about, and who publishes it. However many instances
run and whatever fails, an event is brought about by an earlier one of its
order, and no order skips a stage.
-/

namespace Fulfillment

open Js Relational Effects SagaOrchestrator

/-- The events that the handling of an event may publish. -/
def EventType.effects : EventType → List EventType
  | .orderCreated => [.paymentRequested]
  | .paymentRequested => [.paymentAuthorized, .paymentRejected]
  | .paymentAuthorized => [.inventoryReservationRequested]
  | .paymentRejected => [.orderFailed]
  | .inventoryReservationRequested => [.inventoryReserved, .inventoryReservationFailed]
  | .inventoryReserved => [.fraudCheckRequested]
  | .inventoryReservationFailed => [.paymentRefundRequested]
  | .fraudCheckRequested => [.fraudApproved, .fraudRejected]
  | .fraudApproved => [.shipmentRequested]
  | .fraudRejected | .shipmentFailed => [.inventoryReleased, .paymentRefundRequested]
  | .shipmentRequested => [.shipmentCreated, .shipmentFailed]
  | .shipmentCreated => [.orderCompleted, .notificationRequested]
  | .paymentRefundRequested => [.paymentRefunded]
  | .paymentRefunded | .inventoryReleased => [.orderCancelled]
  | .notificationRequested => [.notificationSent]
  | _ => []

/-- Who publishes the events of the type, apart from the creation of orders. -/
def EventType.producer : EventType → String
  | .paymentAuthorized | .paymentRejected | .paymentRefunded => PaymentConsumer.consumerName
  | .inventoryReserved | .inventoryReservationFailed => InventoryConsumer.consumerName
  | .fraudApproved | .fraudRejected => FraudConsumer.consumerName
  | .shipmentCreated | .shipmentFailed => ShippingConsumer.consumerName
  | .notificationSent => NotificationConsumer.consumerName
  | _ => SagaOrchestrator.consumerName

/-- The stages of an order up to a reserved payment, up to a cleared order and so on. -/
def requestedStages : List EventType := [.orderCreated, .paymentRequested]

def authorizedStages : List EventType := requestedStages ++ [.paymentAuthorized, .inventoryReservationRequested]

def reservedStages : List EventType := authorizedStages ++ [.inventoryReserved, .fraudCheckRequested]

def clearedStages : List EventType := reservedStages ++ [.fraudApproved, .shipmentRequested]

/-- What an order went through before an event of the type. -/
def EventType.stages : EventType → List EventType
  | .paymentRequested => [.orderCreated]
  | .paymentAuthorized | .paymentRejected => requestedStages
  | .inventoryReservationRequested => requestedStages ++ [.paymentAuthorized]
  | .orderFailed => requestedStages ++ [.paymentRejected]
  | .inventoryReserved | .inventoryReservationFailed | .paymentRefundRequested => authorizedStages
  | .paymentRefunded => authorizedStages ++ [.paymentRefundRequested]
  | .orderCancelled => authorizedStages
  | .fraudCheckRequested => authorizedStages ++ [.inventoryReserved]
  | .fraudApproved | .fraudRejected | .inventoryReleased => reservedStages
  | .shipmentRequested => reservedStages ++ [.fraudApproved]
  | .shipmentCreated | .shipmentFailed => clearedStages
  | .orderCompleted | .notificationRequested => clearedStages ++ [.shipmentCreated]
  | .notificationSent => clearedStages ++ [.shipmentCreated, .notificationRequested]
  | .orderCreated | .other _ => []

/-- What an event has behind it, its effects have behind them, and the event itself. -/
theorem EventType.stages_effect {t t' : EventType} (h : t' ∈ t.effects) : ∀ stage ∈ t'.stages, stage = t ∨ stage ∈ t.stages := by
  revert h
  cases t
  case other name => exact fun h => nomatch h
  all_goals
    revert t'
    decide

theorem EventType.known_effect {t t' : EventType} (h : t' ∈ t.effects) : EventType.ofName t'.name = t' ∧ t'.name ≠ "" := by
  revert h
  cases t
  case other name => exact fun h => nomatch h
  all_goals
    revert t'
    decide

/-! ## Answering an event -/

/-- The message is an effect of the event, published by its producer. -/
structure Message.Replies (m : Message) (e : EventEnvelope) : Prop where
  answers : m.Answers e
  effect : ∀ e', m.value = .event e' → e'.eventType ∈ e.eventType.effects
  producer : ∀ e', m.value = .event e' → e'.producer = e'.eventType.producer
  key : ∀ e', m.value = .event e' → m.key = e'.aggregateId

theorem emitted_replies {e : EventEnvelope} {uuid now topic aggregateType : String} {t : EventType} {payload : Fields}
    (effect : t ∈ e.eventType.effects) : (emitted t.producer uuid now
      ⟨topic, t, e.aggregateId, aggregateType, payload, e.correlationId, e.eventId⟩).Replies e := by
  refine ⟨emitted_answers, ?_, ?_, ?_⟩ <;>
  · rintro e' value
    cases value
    first | exact effect | rfl

/-- The orchestrator sent the message about the order. -/
def Message.FromSaga (m : Message) (orderId : String) : Prop :=
  ∃ e, m.value = .event e ∧ e.producer = SagaOrchestrator.consumerName ∧ e.aggregateId = orderId

namespace SagaOrchestrator

variable {amb : Ambient} {e : EventEnvelope} {saga : Option SagaRow}

/-- Every message of a transition is an event of the order. -/
theorem react_emits {row : SagaRow} {emissions : List (Except JsError Message)}
    (h : react amb e saga = .ok (.advance row emissions)) : ∀ m, .ok m ∈ emissions → m.FromSaga e.aggregateId := by
  obtain ⟨reaction, switched, h⟩ := react_switched h
  have own : ∀ {uuid now topic : String} {t : EventType} {aggregateType : String} {payload : List (String × Option Json)},
      (caused e uuid now topic t aggregateType payload).FromSaga e.aggregateId := ⟨_, rfl, rfl, rfl⟩
  have one : ∀ {m m' : Message}, m.FromSaga e.aggregateId → .ok m' ∈ [(.ok m : Except JsError Message)] →
      m'.FromSaga e.aggregateId := by
    intro m m' from_saga hm'
    cases List.mem_singleton.mp hm'
    exact from_saga
  intro m hm
  cases switched with
  | orderCreated saga type =>
    unfold onOrderCreated at h
    split at h
    · cases h
    · cases h
      exact one own hm
  | paymentAuthorized s type state | inventoryReserved s type state | fraudApproved s type state =>
    cases h
    exact one own hm
  | paymentRejected s type state | inventoryReservationFailed s type state =>
    obtain ⟨reason, -, h⟩ := bind_returns h
    cases h
    exact one own hm
  | fraudRejected s type state | shipmentFailed s type state =>
    obtain ⟨reason, -, h⟩ := bind_returns h
    cases h
    rcases List.mem_cons.mp hm with same | hm
    · cases same
      exact own
    · exact one own hm
  | shipmentCreated s type state =>
    cases h
    rcases List.mem_cons.mp hm with same | hm
    · cases same
      exact own
    · have notified := List.mem_singleton.mp hm
      cases user : text (some (orElse s.context.userId (.str "customer"))) with
      | error err =>
        simp only [user, Except.map] at notified
        cases notified
      | ok user =>
        simp only [user, Except.map] at notified
        cases notified
        exact own

theorem transition_effects {t : EventType} {state : Option SagaState} {target : SagaState} {types : List EventType}
    (h : transition t state = some (target, types)) :
    ∀ t' ∈ types, t' ∈ t.effects ∧ t'.producer = SagaOrchestrator.consumerName := by
  unfold transition at h
  split at h <;> cases h
  all_goals decide

theorem carries_of_owes {orderId : String} {emissions : List (Except JsError Message)} {types : List EventType}
    (owes : List.Forall₂ (Owes orderId) emissions types) {m : Message} (hm : .ok m ∈ emissions) :
    ∃ t ∈ types, m.Carries t orderId := by
  induction owes with
  | nil => cases hm
  | cons first _ ih =>
    rcases List.mem_cons.mp hm with rfl | hm
    · exact ⟨_, List.mem_cons_self, first m rfl⟩
    · obtain ⟨t, ht, carries⟩ := ih hm
      exact ⟨t, List.mem_cons_of_mem _ ht, carries⟩

/-- The messages of a transition are the orchestrator's own effects of the event. -/
theorem react_replies {row : SagaRow} {emissions : List (Except JsError Message)}
    (h : react amb e saga = .ok (.advance row emissions)) : ∀ m, .ok m ∈ emissions → m.Replies e := by
  intro m hm
  obtain ⟨target, types, moves, advances⟩ := transition_of_react h
  obtain ⟨t, ht, key, e', value, rfl, about⟩ := carries_of_owes advances.owes hm
  obtain ⟨e'', value', producer, -⟩ := react_emits h m hm
  obtain ⟨effect, own⟩ := transition_effects moves _ ht
  refine ⟨react_answers h m hm, ?_, ?_, ?_⟩
  · intro x hx
    cases value.symm.trans hx
    exact effect
  · intro x hx
    cases value.symm.trans hx
    cases value.symm.trans value'
    exact producer.trans own.symm
  · intro x hx
    cases value.symm.trans hx
    exact key.trans about.symm

theorem orderCancelled_replies {action : String} (reports : reported e.eventType = some action) (notice : CancelNotice) :
    (orderCancelled amb e e.aggregateId notice).Replies e := by
  have effect : .orderCancelled ∈ e.eventType.effects := by
    unfold reported at reports
    split at reports
    case h_1 type | h_2 type => simp [type, EventType.effects]
    case h_3 => cases reports
  exact emitted_replies effect

end SagaOrchestrator

section
variable {amb : Ambient} {e : EventEnvelope} {m : Message}

theorem answering_replies {uuid now topic aggregateType : String} {t : EventType} {payload : List (String × Option Json)}
    (effect : t ∈ e.eventType.effects) : (answering t.producer e uuid now topic t aggregateType payload).Replies e :=
  emitted_replies effect

/-- The message is an answer that the service gives. -/
structure Message.AnswerOf (m : Message) (s : Service) (e : EventEnvelope) : Prop where
  replies : m.Replies e
  producer : ∀ e', m.value = .event e' → e'.producer = s.consumerName

theorem answering_of {s : Service} {uuid now topic aggregateType : String} {t : EventType}
    {payload : List (String × Option Json)} (effect : t ∈ e.eventType.effects) (producer : t.producer = s.consumerName) :
    (answering t.producer e uuid now topic t aggregateType payload).AnswerOf s e := by
  refine ⟨answering_replies effect, ?_⟩
  rintro e' ⟨⟩
  exact producer

/-- A service that answers with one of two events. -/
theorem chosen_of {s : Service} {m' : Message} (h : m.AnswerOf s e) (h' : m'.AnswerOf s e) (b : Bool) :
    (if b then m else m').AnswerOf s e := by
  split
  · exact h
  · exact h'

/-- The events that a service answers. -/
def serviceRequests : List EventType :=
  [.paymentRequested, .paymentRefundRequested, .inventoryReservationRequested, .fraudCheckRequested, .shipmentRequested,
    .notificationRequested]

/-- The orchestrator publishes no answer, and an answer is no answer to a report. -/
theorem serviceRequests_effects : ∀ t ∈ serviceRequests,
    reported t = none ∧ ∀ t' ∈ t.effects, t'.producer ≠ SagaOrchestrator.consumerName := by
  decide

theorem services_reply {s : Service}
    (service : s ∈ [paymentService, inventoryService, fraudService, shippingService, notificationService])
    (h : s.answer amb e = .ok (some m)) : m.AnswerOf s e ∧ e.eventType ∈ serviceRequests := by
  simp only [List.mem_cons, List.not_mem_nil, or_false] at service
  rcases service with rfl | rfl | rfl | rfl | rfl
  · simp only [paymentService, PaymentConsumer.answer] at h
    split at h
    case h_1 type =>
      rw [← Option.some.inj (Except.ok.inj h)]
      refine ⟨?_, by simp [type, serviceRequests]⟩
      apply chosen_of <;> exact answering_of (by simp [type, EventType.effects]) rfl
    case h_2 type =>
      rw [← Option.some.inj (Except.ok.inj h)]
      exact ⟨answering_of (by simp [type, EventType.effects]) rfl, by simp [type, serviceRequests]⟩
    case h_3 => cases h
  · simp only [inventoryService, InventoryConsumer.answer] at h
    split at h
    case h_1 type =>
      obtain ⟨outOfStock, rfl⟩ := mapped_returns h
      refine ⟨?_, by simp [type, serviceRequests]⟩
      apply chosen_of <;> exact answering_of (by simp [type, EventType.effects]) rfl
    case h_2 => cases h
  · simp only [fraudService, FraudConsumer.answer] at h
    split at h
    case h_1 type =>
      obtain ⟨isHighRisk, rfl⟩ := mapped_returns h
      refine ⟨?_, by simp [type, serviceRequests]⟩
      apply chosen_of <;> exact answering_of (by simp [type, EventType.effects]) rfl
    case h_2 => cases h
  · simp only [shippingService, ShippingConsumer.answer] at h
    split at h
    case h_1 type =>
      rw [← Option.some.inj (Except.ok.inj h)]
      refine ⟨?_, by simp [type, serviceRequests]⟩
      apply chosen_of <;> exact answering_of (by simp [type, EventType.effects]) rfl
    case h_2 => cases h
  · simp only [notificationService, NotificationConsumer.answer] at h
    split at h
    case h_1 type =>
      by_cases chaos : amb.shouldFail = true
      · rw [if_pos chaos] at h
        cases h
      · rw [if_neg chaos] at h
        rw [← Option.some.inj (Except.ok.inj h)]
        exact ⟨answering_of (by simp [type, EventType.effects]) rfl, by simp [type, serviceRequests]⟩
    case h_2 => cases h

end

/-- An event whose name is known is read under its own type. -/
theorem parsed_eventType {e e' : EventEnvelope} {uuid now text : String} (parsed : Json.parse text = some e.toJson)
    (read : parseEnvelope uuid now text = some e') (named : EventType.ofName e.eventType.name = e.eventType)
    (given : e.eventType.name ≠ "") : e'.eventType = e.eventType := by
  obtain ⟨fields, written⟩ : ∃ fields, e.toJson = .obj fields := ⟨_, rfl⟩
  rw [parseEnvelope, parsed, written] at read
  simp only at read
  simp only [validateEventEnvelope, Option.bind_eq_bind, Option.bind_eq_some_iff, Option.pure_def, Option.some.injEq] at read
  obtain ⟨-, -, name, hname, -, -, -, -, -, -, -, -, -, -, -, -, -, -, -, -, -, -, -, -, rfl⟩ := read
  have kept : (normalizeLegacy uuid now fields).get "event_type" = some (.str e.eventType.name) :=
    normalizeLegacy_keeps ((get_toJson written "event_type").trans rfl) (by simpa [truthy] using given) uuid now
  rw [kept, nonEmptyString, if_neg given] at hname
  obtain rfl := Option.some.inj hname
  exact named

end Fulfillment
