import Fulfillment.Pipeline.ClosedSystem
import Fulfillment.Pipeline.Duties
import Fulfillment.Saga.Handlers

/-!
# The paths of the components

What a handler or a relay does as long as its calls succeed: the saga saves
regular rows and sends what they wait for, a service answers, and no one marks
an event before acting on it.
-/

namespace Fulfillment

open Js Effects SagaOrchestrator

/-- What the reads of sagas answer. -/
def reading (P : String → Option SagaRow → Prop) (c : Call) (r : Answer c) : Prop :=
  match c, r with
  | .getSagaByAggregateId aggregateId, saga => P aggregateId saga
  | _, _ => True

/-- The calls of the consumer base for an event. -/
inductive OwnCall (eventId consumerName : String) : Call → Prop
  | dedup : OwnCall eventId consumerName (.isEventProcessed eventId consumerName)
  | mark : OwnCall eventId consumerName (.markEventProcessed eventId consumerName)
  | persist (dlq : DlqMessage) (outboxId) (about : dlq.eventId = eventId) (named : dlq.consumerName = consumerName) :
    OwnCall eventId consumerName (.persistDeadLetter dlq true outboxId)
  | send (key p) : OwnCall eventId consumerName (.send ⟨Topics.dlq, key, .deadLetter p⟩)
  | published (id) : OwnCall eventId consumerName (.markDLQOutboxPublished id consumerName)

namespace Consumer

variable {c : Consumer} {env : Surroundings} {message : EachMessagePayload} {e : EventEnvelope}

theorem deadLetter_calls {P : Call → Prop} {dlq : DlqMessage} {marksFailed : Bool} {key : String}
    (persists : P (.persistDeadLetter dlq marksFailed ("outbox_" ++ dlq.id)))
    (sends : P (.send ⟨Topics.dlq, key, .deadLetter dlq.payload⟩))
    (marks : P (.markDLQOutboxPublished ("outbox_" ++ dlq.id) c.consumerName)) :
    (c.publishDeadLetter dlq marksFailed key).Calls P := by
  apply Prog.Calls.bind
  · apply Prog.Calls.settle
    apply Prog.Calls.bind (.await persists)
    intro _
    apply Prog.Calls.bind (.await sends)
    intro _
    exact .await marks
  · intro _
    trivial

theorem letter_calls {P : Call → Prop} (own : ∀ call, OwnCall e.eventId c.consumerName call → P call) {dlq : DlqMessage}
    (about : dlq.eventId = e.eventId) (named : dlq.consumerName = c.consumerName) (key : String) :
    (c.publishDeadLetter dlq true key).Calls P :=
  deadLetter_calls (own _ (.persist _ _ about named)) (own _ (.send _ _)) (own _ (.published _))

theorem handleEnvelope_calls {P : Call → Prop} (own : ∀ call, OwnCall e.eventId c.consumerName call → P call)
    (process : ∀ n amb, (c.processEvent n amb e).Calls P) : (c.handleEnvelope env message e).Calls P := by
  have attempts : ∀ left attempt lastError, (c.retryLoop env message e left attempt lastError).Calls P := by
    intro left
    induction left with
    | zero => exact fun attempt lastError => letter_calls own rfl rfl _
    | succ left ih =>
      intro attempt lastError
      apply Prog.Calls.bind
      · exact (Prog.Calls.bind (process _ _) fun _ => .await (own _ .mark)).settle
      · rintro (err | done)
        · exact ih _ _
        · trivial
  apply Prog.Calls.bind (.await (own _ .dedup))
  intro alreadyProcessed
  cases alreadyProcessed with
  | true => trivial
  | false => exact attempts _ _ _

variable {fits : (call : Call) → Answer call → Prop}

theorem honours_of_calls {α : Type} {sound : Call → Prop} {obliges : (c : Call) → Answer c → (Call → Prop) → Prop} {p : Program α}
    (h : p.Calls fun call => sound call ∧ ∀ r goal, ¬obliges call r goal) : p.Honours fits sound obliges := by
  induction p with
  | pure | throw => trivial
  | call call k ih =>
    obtain ⟨⟨hsound, free⟩, rest⟩ := h
    exact ⟨hsound, fun r _ => ⟨fun goal hgoal => absurd hgoal (free r goal), ih _ (rest _)⟩⟩

theorem handleEnvelope_honours {sound : Call → Prop} {obliges : (c : Call) → Answer c → (Call → Prop) → Prop}
    (own : ∀ call, OwnCall e.eventId c.consumerName call → sound call ∧ ∀ r goal, ¬obliges call r goal)
    (process : ∀ n amb, (c.processEvent n amb e).Honours fits sound obliges) :
    (c.handleEnvelope env message e).Honours fits sound obliges := by
  have attempts : ∀ left attempt lastError, (c.retryLoop env message e left attempt lastError).Honours fits sound obliges := by
    intro left
    induction left with
    | zero => exact fun attempt lastError => honours_of_calls (letter_calls own rfl rfl _)
    | succ left ih =>
      intro attempt lastError
      apply Prog.Honours.bind
      · apply Prog.Honours.settle
        exact .bind (process _ _) fun _ => honours_of_calls (.await (own _ .mark))
      · rintro (err | done)
        · exact ih _ _
        · trivial
  apply Prog.Honours.bind (honours_of_calls (.await (own _ .dedup)))
  intro alreadyProcessed
  cases alreadyProcessed with
  | true => trivial
  | false => exact attempts _ _ _

/-- A handler that is sure to act does so before it marks the event, unless the event is marked already. -/
theorem handleEnvelope_meets {goal bad : Call → Prop} (retries : 0 < c.maxRetries)
    (dedup : ¬bad (.isEventProcessed e.eventId c.consumerName))
    (process : ∀ n, (c.processEvent n (env.attempt n) e).Meets fits goal bad fun _ => False) :
    (c.handleEnvelope env message e).Meets fits goal bad
      fun _ => fits (.isEventProcessed e.eventId c.consumerName) true := by
  obtain ⟨left, left_eq⟩ : ∃ left, c.maxRetries = left + 1 := ⟨c.maxRetries - 1, by omega⟩
  apply Prog.Meets.await_bind dedup
  intro alreadyProcessed answered
  cases alreadyProcessed with
  | true => exact answered
  | false =>
    rw [if_neg Bool.false_ne_true, left_eq]
    apply Prog.Meets.first
    apply Prog.Meets.settle
    exact (process _).first _

end Consumer

/-! ## The orchestrator -/

namespace SagaOrchestrator

variable {amb : Ambient} {e : EventEnvelope} {fits : (call : Call) → Answer call → Prop}

theorem processEvent_honours {sound : Call → Prop} {obliges : (c : Call) → Answer c → (Call → Prop) → Prop}
    (reads : sound (.getSagaByAggregateId e.aggregateId) ∧ ∀ r goal, ¬obliges (.getSagaByAggregateId e.aggregateId) r goal)
    (sends : ∀ m, sound (.send m) ∧ ∀ r goal, ¬obliges (.send m) r goal)
    (advance : ∀ saga row emissions, fits (.getSagaByAggregateId e.aggregateId) saga →
      react amb e saga = .ok (.advance row emissions) → sound (.saveSagaInstance row) ∧
        ∀ r goal, obliges (.saveSagaInstance row) r goal → (sendAll emissions).Owes goal)
    (compensate : ∀ saga s action, fits (.getSagaByAggregateId e.aggregateId) saga →
      react amb e saga = .ok (.compensate s action) → sound (.compensationBarrier s action e.correlationId) ∧
        ∀ r goal, ¬obliges (.compensationBarrier s action e.correlationId) r goal) :
    (processEvent amb e).Honours fits sound obliges := by
  have sending : ∀ emissions : List (Except JsError Message), (sendAll emissions).Honours fits sound obliges := by
    intro emissions
    induction emissions with
    | nil => trivial
    | cons emission emissions ih =>
      cases emission with
      | error err => trivial
      | ok m =>
        rw [sendAll_ok]
        exact .bind (.await (sends m).1 (sends m).2) fun _ => ih
  apply Prog.Honours.await_bind reads.1
  intro saga hsaga
  refine ⟨fun goal hgoal => absurd hgoal (reads.2 saga goal), ?_⟩
  cases hreact : react amb e saga with
  | error err => trivial
  | ok reaction =>
    cases reaction with
    | ignore => trivial
    | advance row emissions =>
      obtain ⟨hsound, owes⟩ := advance saga row emissions hsaga hreact
      exact .await_bind hsound fun r _ => ⟨owes r, sending emissions⟩
    | compensate s action =>
      obtain ⟨hsound, free⟩ := compensate saga s action hsaga hreact
      apply Prog.Honours.bind (.await hsound free)
      rintro (none | notice)
      · trivial
      · exact .await (sends _).1 (sends _).2

/-- A transition of the state read is saved. -/
theorem processEvent_leaves {state : Option SagaState} {bad : Call → Prop} (worded : Worded e)
    (accepts : (transition e.eventType state).isSome) (fine : ¬bad (.getSagaByAggregateId e.aggregateId))
    {goal : Call → Prop} (goes : ∀ target types row, transition e.eventType state = some (target, types) →
      row.state = target → row.aggregateId = e.aggregateId → goal (.saveSagaInstance row)) :
    (processEvent amb e).Meets (reading fun a saga => a = e.aggregateId → saga.map SagaRow.state = state) goal bad
      fun _ => False := by
  obtain ⟨⟨target, types⟩, accepted⟩ := Option.isSome_iff_exists.mp accepts
  apply Prog.Meets.await_bind fine
  intro saga hsaga
  have state_eq : saga.map SagaRow.state = state := hsaga rfl
  have accepted' : transition e.eventType (saga.map SagaRow.state) = some (target, types) := state_eq ▸ accepted
  obtain ⟨row, emissions, hreact, advances⟩ := react_of_transition amb accepted' worded
  rw [hreact]
  exact .inl (goes target types row accepted advances.state advances.aggregateId)

/-- A report is put to the barrier while the saga is compensating. -/
theorem processEvent_reports {bad : Call → Prop} {action : String} (reports : reported e.eventType = some action)
    (fine : ¬bad (.getSagaByAggregateId e.aggregateId)) :
    (processEvent amb e).Meets (reading fun a saga => a = e.aggregateId →
      ∃ s, saga = some s ∧ s.state = .compensating ∧ s.aggregateId = a) (ReportsTo action e.aggregateId) bad
      fun _ => False := by
  apply Prog.Meets.await_bind fine
  intro saga hsaga
  obtain ⟨s, rfl, compensating, about⟩ := hsaga rfl
  rw [react_report compensating reports]
  exact .inl ⟨s, _, rfl, about⟩

end SagaOrchestrator

/-! ## What events that conform leave no doubt about -/

/-- The reasons of an event that conforms are texts. -/
theorem EventEnvelope.Conforms.worded {e : EventEnvelope} (h : e.Conforms) : Worded e := by
  intro names
  have payload := h.payload
  have reason : Zod.nonEmpty (e.payload.get "reason") = true := by
    unfold namesReason at names
    split at names
    case h_1 type | h_2 type | h_3 type | h_4 type =>
      simp only [type, payloadSchema, paymentRejectedPayloadSchema, inventoryReservationFailedPayloadSchema,
        fraudRejectedPayloadSchema, shipmentFailedPayloadSchema, Zod.object, List.all_cons, Bool.and_eq_true] at payload
      grind
    case h_5 => cases names
  obtain ⟨s, hs, -⟩ := Zod.nonEmpty_iff.mp reason
  exact ⟨s, by rw [hs, text_str]⟩

namespace InventoryConsumer

/-- Items that satisfy the schema can all be looked at. -/
theorem hasOutOfStock_of_schema {items : List Json} (h : ∀ item ∈ items, orderItemSchema (some item) = true) :
    ∃ found, someOutOfStock items = .ok found := by
  induction items with
  | nil => exact ⟨false, rfl⟩
  | cons item items ih =>
    obtain ⟨first, rest⟩ := List.forall_mem_cons.mp h
    cases item with
    | obj fs =>
      simp only [orderItemSchema, Zod.object, List.all_cons, Bool.and_eq_true] at first
      obtain ⟨-, -, -, quantity, -⟩ := first
      obtain ⟨q, hq⟩ : ∃ q, Fields.get fs "quantity" = some (.num q) := by
        cases value : Fields.get fs "quantity" with
        | none => simp [value, Zod.positiveInt] at quantity
        | some v => cases v <;> simp_all [Zod.positiveInt]
      simp only [someOutOfStock, property, Except.bind]
      split
      · exact ⟨true, rfl⟩
      · simp only [hq, toNumber_num]
        split
        · exact ⟨true, rfl⟩
        · exact ih rest
    | null | bool | num | str | arr => cases first

end InventoryConsumer

/-- An answer of one of the types, about the order, to its topic. -/
def Answers (answers : List EventType) (orderId : String) (m : Message) : Prop :=
  ∃ t ∈ answers, m.Carries t orderId ∧ m.topic = t.topic

section
variable {amb : Ambient} {e : EventEnvelope}

theorem payment_answers (type : e.eventType = .paymentRequested) :
    ∃ m, PaymentConsumer.answer amb e = .ok (some m) ∧ Answers [.paymentAuthorized, .paymentRejected] e.aggregateId m := by
  refine ⟨if amb.shouldFail then PaymentConsumer.rejected amb e else PaymentConsumer.authorized amb e,
    by simp only [PaymentConsumer.answer, type], ?_⟩
  split
  · exact ⟨.paymentRejected, by simp, ⟨rfl, _, rfl, rfl, rfl⟩, rfl⟩
  · exact ⟨.paymentAuthorized, by simp, ⟨rfl, _, rfl, rfl, rfl⟩, rfl⟩

theorem refund_answers (type : e.eventType = .paymentRefundRequested) :
    ∃ m, PaymentConsumer.answer amb e = .ok (some m) ∧ Answers [.paymentRefunded] e.aggregateId m :=
  ⟨PaymentConsumer.refunded amb e, by simp only [PaymentConsumer.answer, type], .paymentRefunded, by simp,
    ⟨rfl, _, rfl, rfl, rfl⟩, rfl⟩

theorem inventory_answers (handled : e.Conforms) (type : e.eventType = .inventoryReservationRequested) :
    ∃ m, InventoryConsumer.answer amb e = .ok (some m) ∧
      Answers [.inventoryReserved, .inventoryReservationFailed] e.aggregateId m := by
  have payload := handled.payload
  simp only [type, payloadSchema, inventoryReservationRequestedPayloadSchema, Zod.object, List.all_cons,
    Bool.and_eq_true] at payload
  obtain ⟨xs, hxs, nonempty, elements⟩ := Zod.nonEmptyArray_iff.mp payload.2.1
  obtain ⟨found, hfound⟩ := InventoryConsumer.hasOutOfStock_of_schema elements
  have items : orElse (e.payload.get "items") (.arr []) = .arr xs := by
    rw [hxs]
    rfl
  refine ⟨_, by simp only [InventoryConsumer.answer, type, items, InventoryConsumer.hasOutOfStock, hfound]; rfl, ?_⟩
  split
  · exact ⟨.inventoryReservationFailed, by simp, ⟨rfl, _, rfl, rfl, rfl⟩, rfl⟩
  · exact ⟨.inventoryReserved, by simp, ⟨rfl, _, rfl, rfl, rfl⟩, rfl⟩

theorem fraud_answers (handled : e.Conforms) (type : e.eventType = .fraudCheckRequested) :
    ∃ m, FraudConsumer.answer amb e = .ok (some m) ∧ Answers [.fraudApproved, .fraudRejected] e.aggregateId m := by
  have payload := handled.payload
  simp only [type, payloadSchema, fraudCheckRequestedPayloadSchema, Zod.object, List.all_cons, Bool.and_eq_true] at payload
  obtain ⟨-, userId, amount, -⟩ := payload
  obtain ⟨user, huser, -⟩ := Zod.nonEmpty_iff.mp userId
  obtain ⟨q, hq, -⟩ := Zod.positive_iff.mp amount
  obtain ⟨risk, hrisk⟩ : ∃ risk, FraudConsumer.isHighRisk amb e = .ok risk := by
    have text : (orElse (some (.str user)) (.str "")).toText = .ok (if user = "" then "" else user) := by
      unfold orElse
      by_cases empty : user = "" <;> simp [truthy, empty, Json.toText]
    simp only [FraudConsumer.isHighRisk, hq, huser, toNumber_num, Except.bind, text]
    exact ⟨_, rfl⟩
  refine ⟨_, by simp only [FraudConsumer.answer, type, hrisk]; rfl, ?_⟩
  split
  · exact ⟨.fraudRejected, by simp, ⟨rfl, _, rfl, rfl, rfl⟩, rfl⟩
  · exact ⟨.fraudApproved, by simp, ⟨rfl, _, rfl, rfl, rfl⟩, rfl⟩

theorem shipping_answers (type : e.eventType = .shipmentRequested) :
    ∃ m, ShippingConsumer.answer amb e = .ok (some m) ∧ Answers [.shipmentCreated, .shipmentFailed] e.aggregateId m := by
  refine ⟨if amb.shouldFail then ShippingConsumer.failed amb e else ShippingConsumer.created amb e,
    by simp only [ShippingConsumer.answer, type], ?_⟩
  split
  · exact ⟨.shipmentFailed, by simp, ⟨rfl, _, rfl, rfl, rfl⟩, rfl⟩
  · exact ⟨.shipmentCreated, by simp, ⟨rfl, _, rfl, rfl, rfl⟩, rfl⟩

end

/-- The service that a duty names answers its request. -/
theorem SagaRow.answered {row : SagaRow} {d : Duty} (hd : d ∈ row.duties) {s : Service}
    (hs : d.service = some s) {amb : Ambient} {e : EventEnvelope} (handled : e.Conforms) (type : e.eventType = d.request) :
    ∃ m, s.answer amb e = .ok (some m) ∧ Answers d.answers e.aggregateId m := by
  unfold SagaRow.duties at hd
  split at hd
  case h_1 =>
    cases List.mem_singleton.mp hd
    cases hs
    exact payment_answers type
  case h_2 =>
    cases List.mem_singleton.mp hd
    cases hs
    exact inventory_answers handled type
  case h_3 =>
    cases List.mem_singleton.mp hd
    cases hs
    exact fraud_answers handled type
  case h_4 =>
    cases List.mem_singleton.mp hd
    cases hs
    exact shipping_answers type
  case h_5 =>
    obtain ⟨action, -, rfl⟩ := List.mem_map.mp hd
    by_cases refund : action = "PAYMENT_REFUND"
    · simp only [compensation, if_pos refund] at hs type ⊢
      cases hs
      exact refund_answers type
    · simp only [compensation, if_neg refund] at hs
      cases hs
  case h_6 => cases hd

/-- A service that has an answer sends it. -/
theorem Service.processEvent_sends {s : Service} {amb : Ambient} {e : EventEnvelope} {m : Message}
    (answered : s.answer amb e = .ok (some m)) {fits : (call : Call) → Answer call → Prop} {goal bad : Call → Prop}
    (hm : goal (.send m)) : (s.processEvent amb e).Meets fits goal bad fun _ => False := by
  unfold Service.processEvent
  rw [answered]
  exact .inl hm

theorem Service.processEvent_calls {s : Service} {amb : Ambient} {e : EventEnvelope} {P : Call → Prop}
    (sends : ∀ m, s.answer amb e = .ok (some m) → P (.send m)) : (s.processEvent amb e).Calls P := by
  unfold Service.processEvent
  cases answer : s.answer amb e with
  | error err => trivial
  | ok answered =>
    cases answered with
    | none => trivial
    | some m => exact .await (sends m answer)

/-! ## The relay -/

/-- The rows that a claim answers. -/
def claiming (P : OutboxEventRow → Prop) (c : Call) (r : Answer c) : Prop :=
  match c, r with
  | .getPendingOutboxEvents _ _ _, rows => ∀ row ∈ rows, P row
  | _, _ => True

/-- An event with this identifier is sent. -/
def SendsEvent (id : String) (c : Call) : Prop := ∃ m e, c = .send m ∧ m.value = .event e ∧ e.eventId = id

/-- A claimed row is to be sent. -/
def Announces : (c : Call) → Answer c → (Call → Prop) → Prop
  | .getPendingOutboxEvents _ _ _, rows, goal => ∃ row ∈ rows, goal = SendsEvent row.id
  | _, _, _ => False

/-- What is sent carries a known row. -/
def SendsKnown (known : String → OutboxBody → Prop) (c : Call) : Prop :=
  ∀ m, c = .send m → ∃ id body, known id body ∧ m.Publishes id body

namespace OutboxRelay

variable {relay : OutboxRelay}

theorem publishAll_owes {events : List OutboxEventRow} {row : OutboxEventRow} (h : row ∈ events) (n : Nat) :
    (relay.publishAll events n).Owes (SendsEvent row.id) := by
  induction events generalizing n with
  | nil => cases h
  | cons event events ih =>
    by_cases same : event.id = row.id
    · exact .inl ⟨_, _, rfl, rfl, same⟩
    · have later : row ∈ events := (List.mem_cons.mp h).resolve_left fun first => same (first ▸ rfl)
      exact .inr ⟨id, fun _ _ => .inr ⟨id, fun _ _ => ih later (n + 1)⟩⟩

/-- A relay sends the rows that it claims, and nothing else. -/
theorem processBatch_honours (known : String → OutboxBody → Prop) :
    relay.processBatch.Honours (claiming fun row => known row.id row.body) (SendsKnown known) Announces := by
  have silent : ∀ {c : Call}, (∀ m, c ≠ .send m) → SendsKnown known c := fun other m h => absurd h (other m)
  have publishing : ∀ events : List OutboxEventRow, (∀ row ∈ events, known row.id row.body) → ∀ n,
      (relay.publishAll events n).Honours (claiming fun row => known row.id row.body) (SendsKnown known) Announces := by
    intro events
    induction events with
    | nil => exact fun _ n => trivial
    | cons event events ih =>
      intro rows n
      obtain ⟨first, rest⟩ := List.forall_mem_cons.mp rows
      have sends : SendsKnown known (.send (relay.message event)) := by
        rintro m ⟨⟩
        exact ⟨_, _, first, publishes_message relay event⟩
      apply Prog.Honours.bind
      · apply Prog.Honours.bind
        · apply Prog.Honours.settle
          apply Prog.Honours.bind (.await sends fun _ _ => id)
          intro _
          exact .await (silent fun m h => by cases h) fun _ _ => id
        · rintro (err | marked)
          · exact .bind (.await (silent fun m h => by cases h) fun _ _ => id) fun _ => trivial
          · trivial
      · exact fun _ => ih rest (n + 1)
  apply Prog.Honours.await_bind (silent fun m h => by cases h)
  intro events hevents
  refine ⟨?_, publishing events hevents 0⟩
  rintro goal ⟨row, hrow, rfl⟩
  exact publishAll_owes hrow 0

theorem processBatch_calls {P : Call → Prop} (claims : P (.getPendingOutboxEvents relay.batchSize relay.workerId
    relay.leaseDurationSeconds)) (sends : ∀ event, P (.send (relay.message event))) (marks : ∀ id, P (.markOutboxEventPublished id relay.workerId))
    (fails : ∀ id error, P (.markOutboxEventFailed id error relay.workerId)) : relay.processBatch.Calls P := by
  have publishing : ∀ events n, (relay.publishAll events n).Calls P := by
    intro events
    induction events with
    | nil => exact fun n => trivial
    | cons event events ih =>
      intro n
      apply Prog.Calls.bind
      · apply Prog.Calls.bind
        · apply Prog.Calls.settle
          exact .bind (.await (sends _)) fun _ => .await (marks _)
        · rintro (err | marked)
          · exact .bind (.await (fails _ _)) fun _ => trivial
          · trivial
      · exact fun _ => ih (n + 1)
  exact .bind (.await claims) fun events => publishing events 0

end OutboxRelay

end Fulfillment
