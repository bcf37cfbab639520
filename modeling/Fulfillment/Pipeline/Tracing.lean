import Fulfillment.Contracts.RoundTrip
import Fulfillment.Pipeline.HandingOn
import Fulfillment.Saga.Machine

/-!
# Tracing

Every envelope carries the correlation of its order, and names as its cause the
command of the order or an envelope that was published before. So its causes
lead back to the creation of the order.
-/

namespace Fulfillment

open Js Relational Effects

/-- The identifiers that tracing needs are there. -/
structure EventEnvelope.Named (e : EventEnvelope) : Prop where
  eventId : e.eventId ≠ ""
  aggregateId : e.aggregateId ≠ ""
  correlationId : e.correlationId ≠ ""

/-- An earlier envelope of the same order and the same correlation is the cause. -/
structure CausedBy (e cause : EventEnvelope) : Prop where
  aggregateId : cause.aggregateId = e.aggregateId
  correlationId : cause.correlationId = e.correlationId
  causationId : e.causationId = cause.eventId

/-- Where an envelope comes from, given what was published before it. -/
inductive TracedBack (t : OutboxTable) (earlier : List Entry) (e : EventEnvelope) : Prop
  | created (row : OutboxEventRow) (stored : row ∈ t.rows) (eventType : e.eventType = .orderCreated)
      (aggregateId : e.aggregateId = row.body.aggregateId) (correlationId : e.correlationId = row.body.correlationId)
      (causationId : e.causationId = row.body.causationId)
  | caused (cause : EventEnvelope) (published : PublishedIn earlier cause) (causes : CausedBy e cause)

structure Tracing (w : World) : Prop where
  rows : ∀ row ∈ w.db.outboxEvents.rows, row.id ≠ "" ∧ row.body.aggregateId ≠ "" ∧ row.body.correlationId ≠ "" ∧
    row.body.eventType = .orderCreated
  events : ∀ newer m acked earlier e, w.journal = newer ++ .sent m acked :: earlier → m.value = .event e →
    e.Named ∧ TracedBack w.db.outboxEvents earlier e

def Message.Traceable (m : Message) (w : World) : Prop :=
  ∀ e, m.value = .event e → e.Named ∧ TracedBack w.db.outboxEvents w.journal e

theorem TracedBack.evolves {t t' : OutboxTable} {earlier earlier' : List Entry} {e : EventEnvelope}
    (h : TracedBack t earlier e) (rows : RowsFollow t t') (journal : earlier <:+ earlier') : TracedBack t' earlier' e := by
  cases h with
  | created row stored eventType aggregateId correlationId causationId =>
    obtain ⟨row', hrow', follows⟩ := rows row stored
    rw [← follows.body] at aggregateId correlationId causationId
    exact .created row' hrow' eventType aggregateId correlationId causationId
  | caused cause published causes =>
    obtain ⟨m, acked, sent, value⟩ := published
    exact .caused cause ⟨m, acked, journal.subset sent, value⟩ causes

def tracing : Regime World where
  Inv := Tracing
  Grows := Evolves
  refl := Evolves.refl
  trans := Evolves.trans

/-! ## One call -/

/-- No call adds a row to the outbox. -/
theorem exec_rows_back (c : Call) (o : Outcome JsError) (w : World) :
    ∀ row' ∈ ((platform .none).exec c o w).2.db.outboxEvents.rows,
      ∃ row ∈ w.db.outboxEvents.rows, row.id = row'.id ∧ row.body = row'.body ∧ row.createdAt = row'.createdAt := by
  have updated : ∀ {p : OutboxEventRow → Bool} (f : OutboxEventRow → OutboxEventRow) (keeps : ∀ r, (f r).id = r.id),
      (∀ r, (f r).body = r.body) → (∀ r, (f r).createdAt = r.createdAt) →
      ∀ row' ∈ (w.db.outboxEvents.update p f keeps).rows,
      ∃ row ∈ w.db.outboxEvents.rows, row.id = row'.id ∧ row.body = row'.body ∧ row.createdAt = row'.createdAt := by
    intro p f keeps body createdAt row' hrow'
    obtain ⟨row, hrow, rfl⟩ := (Table.mem_update keeps).mp hrow'
    refine ⟨row, hrow, ?_⟩
    split
    · exact ⟨(keeps row).symm, (body row).symm, (createdAt row).symm⟩
    · exact ⟨rfl, rfl, rfl⟩
  intro row' hrow'
  rw [platform_exec_state] at hrow'
  split at hrow'
  · cases c with
    | getPendingOutboxEvents limit workerId d =>
      exact updated (Leased.claim workerId (d * 1000) w.clock) (fun _ => rfl) (fun _ => rfl) (fun _ => rfl) row' hrow'
    | markOutboxEventPublished id workerId =>
      exact updated (Leased.publish w.clock) (fun _ => rfl) (fun _ => rfl) (fun _ => rfl) row' hrow'
    | markOutboxEventFailed id error workerId =>
      exact updated (Leased.fail error) (fun _ => rfl) (fun _ => rfl) (fun _ => rfl) row' hrow'
    | compensationBarrier sagaParam completedAction correlationId =>
      rcases h : executeBarrierUpdate sagaParam completedAction correlationId w.db with ⟨_ | row, notice⟩
      · simp only [carryOut, h] at hrow'
        exact ⟨row', hrow', rfl, rfl, rfl⟩
      · simp only [carryOut, h] at hrow'
        exact ⟨row', hrow', rfl, rfl, rfl⟩
    | persistDeadLetter dlq marksFailed outboxId =>
      cases marksFailed <;> exact ⟨row', hrow', rfl, rfl, rfl⟩
    | _ => exact ⟨row', hrow', rfl, rfl, rfl⟩
  · exact ⟨row', hrow', rfl, rfl, rfl⟩

/-- What a call adds to the journal. -/
theorem exec_journal (c : Call) (o : Outcome JsError) (w : World) :
    ((platform .none).exec c o w).2.journal = w.journal ∨
    (∃ saga, ((platform .none).exec c o w).2.journal = .saved saga :: w.journal) ∨
    ∃ m acked, c = .send m ∧ ((platform .none).exec c o w).2.journal = .sent m acked :: w.journal := by
  rw [platform_exec_state]
  split
  · cases c with
    | send m => exact .inr (.inr ⟨m, _, rfl, rfl⟩)
    | saveSagaInstance saga => exact .inr (.inl ⟨saga, rfl⟩)
    | compensationBarrier sagaParam completedAction correlationId =>
      rcases h : executeBarrierUpdate sagaParam completedAction correlationId w.db with ⟨_ | row, notice⟩
      · left
        simp only [carryOut, h]
      · simp only [carryOut, h]
        exact .inr (.inl ⟨row, rfl⟩)
    | persistDeadLetter dlq marksFailed outboxId => cases marksFailed <;> exact .inl rfl
    | _ => exact .inl rfl
  · exact .inl rfl

/-- A message in a longer journal is the newest one, or it stood there before. -/
theorem split_cons {entry : Entry} {journal newer earlier : List Entry} {m : Message} {acked : Bool}
    (h : entry :: journal = newer ++ .sent m acked :: earlier) :
    (entry = .sent m acked ∧ earlier = journal) ∨ ∃ newer', journal = newer' ++ .sent m acked :: earlier := by
  cases newer with
  | nil =>
    cases h
    exact .inl ⟨rfl, rfl⟩
  | cons first newer' =>
    cases h
    exact .inr ⟨newer', rfl⟩

/-- A call keeps the trace, provided that what it sends can be traced. -/
theorem tracing_exec {c : Call} {o : Outcome JsError} {w : World} (inv : Tracing w)
    (traceable : ∀ m, c = .send m → m.Traceable w) : Tracing ((platform .none).exec c o w).2 := by
  have evolves := exec_evolves c o w
  constructor
  · intro row' hrow'
    obtain ⟨row, hrow, hid, hbody, -⟩ := exec_rows_back c o w row' hrow'
    rw [← hid, ← hbody]
    exact inv.rows row hrow
  · intro newer m acked earlier e hjournal value
    have old : ∀ newer', w.journal = newer' ++ .sent m acked :: earlier →
        e.Named ∧ TracedBack ((platform .none).exec c o w).2.db.outboxEvents earlier e := by
      intro newer' hold
      obtain ⟨named, traced⟩ := inv.events newer' m acked earlier e hold value
      exact ⟨named, traced.evolves evolves.rows (List.suffix_refl _)⟩
    rcases exec_journal c o w with same | ⟨saga, saved⟩ | ⟨m', acked', sends, sent⟩
    · exact old newer (same ▸ hjournal)
    · rw [saved] at hjournal
      rcases split_cons hjournal with ⟨newest, -⟩ | ⟨newer', hold⟩
      · cases newest
      · exact old newer' hold
    · rw [sent] at hjournal
      rcases split_cons hjournal with ⟨newest, rfl⟩ | ⟨newer', hold⟩
      · cases newest
        obtain ⟨named, traced⟩ := traceable m sends e value
        exact ⟨named, traced.evolves evolves.rows (List.suffix_refl _)⟩
      · exact old newer' hold

theorem keeps_tracing {c : Call} {w : World}
    (traceable : ∀ w', Evolves w w' → Tracing w' → ∀ m, c = .send m → m.Traceable w') :
    Effects.Keeps (platform .none) tracing c w :=
  fun w' grows inv o => ⟨exec_evolves c o w', tracing_exec inv (traceable w' grows inv)⟩

/-- The call sends no event. -/
def Call.isQuiet : Call → Bool
  | .send ⟨_, _, .event _⟩ => false
  | _ => true

theorem quiet_keeps {c : Call} {w : World} (quiet : c.isQuiet = true) : Effects.Keeps (platform .none) tracing c w := by
  apply keeps_tracing
  intro _ _ _ m sends e value
  obtain ⟨topic, key, content⟩ := m
  cases sends
  cases value
  cases quiet

/-! ## The components -/

/-- An envelope that the broker took has the identifiers of the event at hand. -/
def AtHand (e : EventEnvelope) (w : World) : Prop :=
  e.Named ∧ ∃ published, PublishedIn w.journal published ∧ published.eventId = e.eventId ∧
    published.aggregateId = e.aggregateId ∧ published.correlationId = e.correlationId

/-- The message is an event of the same order, caused by `e`. -/
def Message.Answers (m : Message) (e : EventEnvelope) : Prop :=
  ∀ e', m.value = .event e' → e'.eventId ≠ "" ∧ e'.aggregateId = e.aggregateId ∧
    e'.correlationId = e.correlationId ∧ e'.causationId = e.eventId

theorem Message.Answers.traceable {m : Message} {e : EventEnvelope} {w : World} (h : m.Answers e) (handled : AtHand e w) :
    m.Traceable w := by
  intro e' value
  obtain ⟨eventId, aggregateId, correlationId, causationId⟩ := h e' value
  obtain ⟨named, published, taken, sameId, sameOrder, sameTrace⟩ := handled
  constructor
  · exact ⟨eventId, aggregateId ▸ named.aggregateId, correlationId ▸ named.correlationId⟩
  · exact .caused published taken ⟨sameOrder.trans aggregateId.symm, sameTrace.trans correlationId.symm,
      causationId.trans sameId.symm⟩

theorem AtHand.evolves {e : EventEnvelope} {w w' : World} (h : AtHand e w) (grows : Evolves w w') : AtHand e w' := by
  obtain ⟨named, published, ⟨m, acked, sent, value⟩, same⟩ := h
  exact ⟨named, published, ⟨m, acked, grows.journal.subset sent, value⟩, same⟩

theorem answer_keeps {m : Message} {e : EventEnvelope} {w : World} (handled : AtHand e w) (answers : m.Answers e) :
    Effects.Keeps (platform .none) tracing (.send m) w := by
  apply keeps_tracing
  intro w' grows _ m' sends
  cases sends
  exact answers.traceable (handled.evolves grows)

theorem emitted_answers {e : EventEnvelope} {producer uuid now topic aggregateType : String} {t : EventType}
    {payload : Fields} : (emitted producer uuid now
      ⟨topic, t, e.aggregateId, aggregateType, payload, e.correlationId, e.eventId⟩).Answers e := by
  intro e' value
  cases value
  exact ⟨by simp [createEventEnvelope, String.ext_iff], rfl, rfl, rfl⟩

namespace SagaOrchestrator

theorem react_answers {amb : Ambient} {e : EventEnvelope} {saga : Option SagaRow} {row : SagaRow}
    {emissions : List (Except JsError Message)} (h : react amb e saga = .ok (.advance row emissions)) :
    ∀ m, .ok m ∈ emissions → m.Answers e := by
  obtain ⟨reaction, switched, h⟩ := react_switched h
  have one : ∀ {m m' : Message}, m.Answers e → .ok m' ∈ [(.ok m : Except JsError Message)] → m'.Answers e := by
    intro m m' answers hm'
    cases List.mem_singleton.mp hm'
    exact answers
  have two : ∀ {m₁ m₂ m' : Message}, m₁.Answers e → m₂.Answers e →
      .ok m' ∈ [(.ok m₁ : Except JsError Message), .ok m₂] → m'.Answers e := by
    intro m₁ m₂ m' first second hm'
    rcases List.mem_cons.mp hm' with same | hm'
    · cases same
      exact first
    · exact one second hm'
  intro m hm
  cases switched with
  | orderCreated saga type =>
    unfold onOrderCreated at h
    split at h
    · cases h
    · cases h
      exact one emitted_answers hm
  | paymentAuthorized s type state | inventoryReserved s type state | fraudApproved s type state =>
    cases h
    exact one emitted_answers hm
  | paymentRejected s type state | inventoryReservationFailed s type state =>
    obtain ⟨reason, -, h⟩ := bind_returns h
    cases h
    exact one emitted_answers hm
  | fraudRejected s type state | shipmentFailed s type state =>
    obtain ⟨reason, -, h⟩ := bind_returns h
    cases h
    exact two emitted_answers emitted_answers hm
  | shipmentCreated s type state =>
    cases h
    rcases List.mem_cons.mp hm with same | hm
    · cases same
      exact emitted_answers
    · -- the customer's address may fail to be built
      have notified := List.mem_singleton.mp hm
      cases user : text (some (orElse s.context.userId (.str "customer"))) with
      | error err =>
        simp only [user, Except.map] at notified
        cases notified
      | ok name =>
        simp only [user, Except.map] at notified
        cases notified
        exact emitted_answers

/-- The orchestrator answers an event with events caused by it. -/
theorem processEvent_tracing {amb : Ambient} {e : EventEnvelope} {w : World} (handled : AtHand e w) :
    Steady (platform .none) tracing (processEvent amb e) w := by
  have sends : ∀ {ms : List (Except JsError Message)} {v : World}, AtHand e v → (∀ m, .ok m ∈ ms → m.Answers e) →
      Steady (platform .none) tracing (sendAll ms) v := by
    intro ms
    induction ms with
    | nil => exact fun _ _ => .pure () _
    | cons m ms ih =>
      intro v handled answers
      cases m with
      | error err => exact .throw err v
      | ok m =>
        apply Steady.bind (.await (answer_keeps handled (answers m List.mem_cons_self)))
        intro _
        exact ih handled fun m' hm' => answers m' (List.mem_cons_of_mem _ hm')
  apply Steady.await_bind
  · exact quiet_keeps rfl
  · intro v o saga grows _ read
    have handled := (handled.evolves grows).evolves (exec_evolves (.getSagaByAggregateId e.aggregateId) o v)
    generalize ((platform .none).exec (.getSagaByAggregateId e.aggregateId) o v).2 = u at handled
    have own : ∀ s, saga = some s → s.aggregateId = e.aggregateId := by
      intro s hs
      rw [platform_exec_value] at read
      cases o with
      | rejected err | unacked err => cases read
      | ok =>
        simp only at read
        split at read
        · have found : v.db.getSagaByAggregateId e.aggregateId = some s := (Except.ok.inj read).trans hs
          simpa using List.find?_some found
        · cases read
    cases hreact : react amb e saga with
    | error err => exact .throw err u
    | ok reaction =>
      cases reaction with
      | ignore => exact .pure () u
      | advance row emissions =>
        apply Steady.bind (.await (quiet_keeps rfl))
        intro _
        exact sends handled (react_answers hreact)
      | compensate s completedAction =>
        have order := own s (report_of_react hreact).1
        apply Steady.bind (.await (quiet_keeps rfl))
        intro notice
        cases notice with
        | none => exact .pure () u
        | some notice =>
          apply Steady.await
          apply answer_keeps handled
          rw [orderCancelled, order]
          exact emitted_answers

end SagaOrchestrator

theorem answering_answers {e : EventEnvelope} {producer uuid now topic aggregateType : String} {t : EventType}
    {payload : List (String × Option Json)} :
    (answering producer e uuid now topic t aggregateType payload).Answers e := emitted_answers

theorem either_answers {e : EventEnvelope} {m m' : Message} (h : m.Answers e) (h' : m'.Answers e) (b : Bool) :
    (if b then m else m').Answers e := by
  split
  · exact h
  · exact h'

theorem services_answer {s : Service}
    (service : s ∈ [paymentService, inventoryService, fraudService, shippingService, notificationService])
    {amb : Ambient} {e : EventEnvelope} {m : Message} (h : s.answer amb e = .ok (some m)) : m.Answers e := by
  simp only [List.mem_cons, List.not_mem_nil, or_false] at service
  rcases service with rfl | rfl | rfl | rfl | rfl
  · simp only [paymentService, PaymentConsumer.answer] at h
    split at h
    · rw [← Option.some.inj (Except.ok.inj h)]
      exact either_answers answering_answers answering_answers _
    · rw [← Option.some.inj (Except.ok.inj h)]
      exact answering_answers
    · cases h
  · simp only [inventoryService, InventoryConsumer.answer] at h
    split at h
    · obtain ⟨outOfStock, rfl⟩ := mapped_returns h
      exact either_answers answering_answers answering_answers _
    · cases h
  · simp only [fraudService, FraudConsumer.answer] at h
    split at h
    · obtain ⟨isHighRisk, rfl⟩ := mapped_returns h
      exact either_answers answering_answers answering_answers _
    · cases h
  · simp only [shippingService, ShippingConsumer.answer] at h
    split at h
    · rw [← Option.some.inj (Except.ok.inj h)]
      exact either_answers answering_answers answering_answers _
    · cases h
  · simp only [notificationService, NotificationConsumer.answer] at h
    split at h
    · split at h
      · cases h
      · rw [← Option.some.inj (Except.ok.inj h)]
        exact answering_answers
    · cases h

theorem Service.processEvent_tracing {s : Service}
    (service : s ∈ [paymentService, inventoryService, fraudService, shippingService, notificationService])
    {amb : Ambient} {e : EventEnvelope} {w : World} (handled : AtHand e w) :
    Steady (platform .none) tracing (s.processEvent amb e) w := by
  unfold Service.processEvent
  cases answer : s.answer amb e with
  | error err => exact .throw err w
  | ok answered =>
    cases answered with
    | none => exact .pure () w
    | some m => exact .await (answer_keeps handled (services_answer service answer))

theorem Component.processEvent_tracing {component : Component} {c : Consumer} (hc : component.consumer = some c)
    {e : EventEnvelope} {w : World} (handled : AtHand e w) (attempt : Nat) (amb : Ambient) :
    Steady (platform .none) tracing (c.processEvent attempt amb e) w := by
  cases component with
  | outboxRelay relay => cases hc
  | saga =>
    cases hc
    exact SagaOrchestrator.processEvent_tracing handled
  | payment | inventory | fraud | shipping | notification =>
    cases hc
    exact Service.processEvent_tracing (by simp) handled

theorem handleMessage_tracing {component : Component} {c : Consumer} (hc : component.consumer = some c)
    {env : Surroundings} {message : EachMessagePayload} {published : EventEnvelope} {w : World} (inv : Tracing w)
    (delivers : Delivers w message published) : Steady (platform .none) tracing (c.handleMessage env message) w := by
  obtain ⟨m, acked, raw, sent, topic, value, text, parsed⟩ := delivers
  obtain ⟨newer, earlier, journal⟩ := List.append_of_mem sent
  obtain ⟨named, -⟩ := inv.events newer m acked earlier published journal value
  simp only [Consumer.handleMessage, text, Option.getD_some]
  cases read : parseEnvelope env.uuid env.now raw with
  | none => exact publishDeadLetter_steady (quiet_keeps rfl) (quiet_keeps rfl) (quiet_keeps rfl)
  | some e =>
    obtain ⟨eventId, aggregateId, correlationId⟩ :=
      parsed_identifiers parsed read named.eventId named.aggregateId named.correlationId
    have handled : AtHand e w := by
      constructor
      · exact ⟨eventId ▸ named.eventId, aggregateId ▸ named.aggregateId, correlationId ▸ named.correlationId⟩
      · exact ⟨published, ⟨m, acked, sent, value⟩, eventId.symm, aggregateId.symm, correlationId.symm⟩
    apply handleEnvelope_steady
    · exact
        { isEventProcessed := quiet_keeps rfl
          markEventProcessed := quiet_keeps rfl
          persistDeadLetter := fun _ _ _ _ => quiet_keeps rfl
          send := fun _ _ _ _ => quiet_keeps rfl
          markDLQOutboxPublished := fun _ => quiet_keeps rfl }
    · exact fun attempt => Component.processEvent_tracing hc handled attempt (env.attempt attempt)

namespace OutboxRelay

variable (relay : OutboxRelay)

/-- The envelope of a row is the creation of its order. -/
theorem message_traceable {event : OutboxEventRow} {w : World} (known : Known event w) (inv : Tracing w) :
    (relay.message event).Traceable w := by
  obtain ⟨row, hrow, hid, hbody⟩ := known
  obtain ⟨id, aggregateId, correlationId, eventType⟩ := inv.rows row hrow
  rw [hid] at id
  rw [hbody] at aggregateId correlationId eventType
  intro e value
  cases value
  constructor
  · exact ⟨id, aggregateId, correlationId⟩
  · exact .created row hrow eventType (by rw [hbody]; rfl) (by rw [hbody]; rfl) (by rw [hbody]; rfl)

theorem publishEvent_tracing {event : OutboxEventRow} {w : World} (known : Known event w) :
    Steady (platform .none) tracing (relay.publishEvent event) w := by
  apply Steady.bind
  · apply Steady.settle
    apply Steady.bind
    · apply Steady.await
      apply keeps_tracing
      intro w' grows inv m sends
      cases sends
      exact relay.message_traceable (known.evolves grows) inv
    · intro _
      exact .await (quiet_keeps rfl)
  · rintro (err | marked)
    · apply Steady.bind (.await (quiet_keeps rfl))
      intro _
      exact .pure () w
    · exact .pure () w

theorem publishAll_tracing {events : List OutboxEventRow} {n : Nat} {w : World} (known : ∀ event ∈ events, Known event w) :
    Steady (platform .none) tracing (relay.publishAll events n) w := by
  induction events generalizing n with
  | nil => exact .pure n w
  | cons event events ih =>
    obtain ⟨hevent, hevents⟩ := List.forall_mem_cons.mp known
    apply Steady.bind (relay.publishEvent_tracing hevent)
    intro _
    exact ih hevents

theorem processBatch_tracing (w : World) : Steady (platform .none) tracing relay.processBatch w := by
  apply Steady.await_bind (quiet_keeps rfl)
  intro v o rows _ _ claimed
  exact relay.publishAll_tracing (claimed_known claimed)

end OutboxRelay

theorem Component.perform_tracing (component : Component) {work : Work} {w : World} (inv : Tracing w)
    (startable : ∀ env message, work = .deliver env message → ∃ e, Delivers w message e) :
    Steady (platform .none) tracing (component.perform work) w := by
  cases work with
  | sweep =>
    cases component with
    | outboxRelay relay =>
      apply Steady.bind (relay.processBatch_tracing w)
      intro _
      exact .pure () w
    | saga | payment | inventory | fraud | shipping | notification => exact .pure () w
  | deliver env message =>
    obtain ⟨e, delivers⟩ := startable env message rfl
    cases hc : component.consumer with
    | none =>
      simp only [Component.perform, hc]
      exact .pure () w
    | some c =>
      simp only [Component.perform, hc]
      exact handleMessage_tracing hc inv delivers

/-! ## Every run -/

/-- A new order is traced by the identifiers it comes with. -/
theorem outside_tracing {w w' : World} (inv : Tracing w) (outside : Outside w w') : Evolves w w' ∧ Tracing w' := by
  cases outside with
  | time clock locked => exact ⟨.of_outboxEvents rfl (List.suffix_refl _), inv.rows, inv.events⟩
  | createOrder c f =>
    have unchanged : ∀ db : Db, db = w.db → Evolves w { w with db } ∧ Tracing { w with db } := by
      rintro db rfl
      exact ⟨.of_outboxEvents rfl (List.suffix_refl _), inv.rows, inv.events⟩
    have written : Evolves w { w with db := c.written w.clock w.db } ∧ Tracing { w with db := c.written w.clock w.db } := by
      have rows : RowsFollow w.db.outboxEvents (c.written w.clock w.db).outboxEvents :=
        rowsFollow_insert _ _ _ _
      refine ⟨⟨rows, List.suffix_refl _⟩, ?_, ?_⟩
      · intro row hrow
        rcases Table.mem_insertOrIgnore.mp hrow with hrow | ⟨rfl, -⟩
        · exact inv.rows row hrow
        · refine ⟨?_, ?_, ?_, rfl⟩
          · simp [Leased.fresh, CreateOrder.eventId, String.ext_iff]
          · simp [Leased.fresh, CreateOrder.outboxBody, CreateOrder.orderId, String.ext_iff]
          · exact orNull_getD_ne _ (by simp)
      · intro newer m acked earlier e journal value
        obtain ⟨named, traced⟩ := inv.events newer m acked earlier e journal value
        exact ⟨named, traced.evolves rows (List.suffix_refl _)⟩
    rcases c.createOrder_run w.clock f w.db with ⟨-, -, run⟩ | ⟨err, -, -, run⟩ | ⟨-, err, run⟩
    · rw [run]
      exact written
    · rw [run]
      exact written
    · rw [run]
      exact unchanged _ rfl

/-- Nothing is published, and no order waits. -/
def Unpublished (w : World) : Prop := w.journal = [] ∧ w.db.outboxEvents.rows = []

theorem reachable_tracing {ι : Type} [DecidableEq ι] {components : ι → Component}
    {p : Pool JsError World Answer ι Work Unit} (h : Reachable (closedSystem components Unpublished Outside).system p) :
    Tracing p.shared := by
  refine (closedSystem components Unpublished Outside).steady tracing ?_ ?_ ?_ h
  · rintro w ⟨journal, rows⟩
    constructor
    · intro row hrow
      rw [rows] at hrow
      cases hrow
    · intro newer m acked earlier e split _
      rw [journal] at split
      cases newer <;> cases split
  · intro w i work inv startable
    apply (components i).perform_tracing inv
    rintro env message rfl
    exact startable.2
  · exact fun w w' inv outside => outside_tracing inv outside

/-- `cause` was published before `e`, which names it as its cause. -/
def Precedes (journal : List Entry) (cause e : EventEnvelope) : Prop :=
  ∃ newer m acked earlier, journal = newer ++ .sent m acked :: earlier ∧ m.value = .event e ∧
    PublishedIn earlier cause ∧ CausedBy e cause

/-- The causes of an envelope lead back to the creation of its order. -/
theorem Tracing.origin {w : World} (inv : Tracing w) {newer earlier : List Entry} {m : Message} {acked : Bool}
    {e : EventEnvelope} (journal : w.journal = newer ++ .sent m acked :: earlier) (value : m.value = .event e) :
    ∃ row ∈ w.db.outboxEvents.rows, e.aggregateId = row.body.aggregateId ∧ e.correlationId = row.body.correlationId ∧
      ∃ origin, PublishedIn w.journal origin ∧ origin.eventType = .orderCreated ∧
        origin.aggregateId = row.body.aggregateId ∧ origin.causationId = row.body.causationId ∧
        Relation.ReflTransGen (Precedes w.journal) origin e := by
  -- the causes of an envelope stand further back in the journal
  induction hn : earlier.length using Nat.strong_induction_on generalizing newer m acked earlier e with
  | _ n ih =>
    obtain ⟨-, traced⟩ := inv.events newer m acked earlier e journal value
    cases traced with
    | created row stored eventType aggregateId correlationId causationId =>
      have published : PublishedIn w.journal e := ⟨m, acked, by simp [journal], value⟩
      exact ⟨row, stored, aggregateId, correlationId, e, published, eventType, aggregateId, causationId, .refl⟩
    | caused cause published causes =>
      have step : Precedes w.journal cause e := ⟨newer, m, acked, earlier, journal, value, published, causes⟩
      obtain ⟨m', acked', sent, value'⟩ := published
      obtain ⟨newer', earlier', split⟩ := List.append_of_mem sent
      have journal' : w.journal = (newer ++ .sent m acked :: newer') ++ .sent m' acked' :: earlier' := by
        rw [journal, split, List.append_assoc, List.cons_append]
      have shorter : earlier'.length < n := by
        rw [← hn, split, List.length_append, List.length_cons]
        omega
      obtain ⟨row, stored, aggregateId, correlationId, origin, first, created, order, command, path⟩ :=
        ih _ shorter journal' value' rfl
      exact ⟨row, stored, causes.aggregateId ▸ aggregateId, causes.correlationId ▸ correlationId, origin, first, created,
        order, command, path.tail step⟩

/-- Every published envelope carries the correlation of its order's outbox row.
It is the creation of the order, caused by the command of the row, or an
envelope published before is its cause; and its causes lead back to the creation. -/
theorem tracing_unbroken {ι : Type} [DecidableEq ι] (components : ι → Component)
    (p : Pool JsError World Answer ι Work Unit) (h : Reachable (closedSystem components Unpublished Outside).system p)
    (newer earlier : List Entry) (m : Message) (acked : Bool) (e : EventEnvelope)
    (published : p.shared.journal = newer ++ .sent m acked :: earlier) (event : m.value = .event e) :
    ∃ row ∈ p.shared.db.outboxEvents.rows, e.aggregateId = row.body.aggregateId ∧
      e.correlationId = row.body.correlationId ∧
      ((e.eventType = .orderCreated ∧ e.causationId = row.body.causationId) ∨
        ∃ cause, PublishedIn earlier cause ∧ cause.aggregateId = e.aggregateId ∧ e.causationId = cause.eventId) ∧
      ∃ origin, PublishedIn p.shared.journal origin ∧ origin.eventType = .orderCreated ∧
        origin.aggregateId = row.body.aggregateId ∧ origin.causationId = row.body.causationId ∧
        Relation.ReflTransGen (Precedes p.shared.journal) origin e := by
  have inv := reachable_tracing h
  obtain ⟨-, traced⟩ := inv.events newer m acked earlier e published event
  cases traced with
  | created row stored eventType aggregateId correlationId causationId =>
    have taken : PublishedIn p.shared.journal e := ⟨m, acked, by simp [published], event⟩
    exact ⟨row, stored, aggregateId, correlationId, .inl ⟨eventType, causationId⟩, e, taken, eventType, aggregateId,
      causationId, .refl⟩
  | caused cause before causes =>
    obtain ⟨row, stored, aggregateId, correlationId, origin⟩ := inv.origin published event
    exact ⟨row, stored, aggregateId, correlationId,
      .inr ⟨cause, before, causes.aggregateId, causes.causationId⟩, origin⟩

/-! ## An order that is cancelled -/

theorem runs_closed {init : World → Prop} : Runs (closedSystem fourComponents init Outside) fourComponents fun _ => True where
  semantics := rfl
  body _ _ := rfl
  sweeps _ _ := trivial
  delivers _ _ _ e _ _ topic delivers := ⟨topic, e, delivers⟩
  relays _ _ _ _ _ _ _ := trivial
  consumers _ _ _ _ _ _ := trivial
  leaves _ _ _ := trivial

/-- The cancellation goes back to the creation over the events between them. -/
theorem tracing_unbroken_cancelled : ∃ origin e, origin.eventType = .orderCreated ∧ e.eventType = .orderCancelled ∧
    Relation.TransGen (Precedes cancelledOrder.journal) origin e := by
  have start : Reachable (closedSystem fourComponents Unpublished Outside).system ⟨World.empty, fun _ => none⟩ :=
    .start ⟨⟨rfl, rfl⟩, fun _ => rfl⟩
  have ordered := start.next (.environment _ (.createOrder aliceCreates .allOk))
  have reached : Reachable (closedSystem fourComponents Unpublished Outside).system ⟨cancelledOrder, fun _ => none⟩ :=
    ordered.steps (((announced_steps runs_closed).trans
      (handOn_getD runs_closed fun _ _ => trivial)).trans (handOn_getD runs_closed fun _ _ => trivial))
  obtain ⟨newer, m, acked, earlier, e, journal, value, cancelled, -⟩ := cancelledOrder_published
  obtain ⟨row, -, -, -, -, origin, -, created, -, -, path⟩ :=
    tracing_unbroken fourComponents _ reached newer earlier m acked e journal value
  refine ⟨origin, e, created, cancelled, ?_⟩
  rcases Relation.reflTransGen_iff_eq_or_transGen.mp path with same | path
  · rw [same, created] at cancelled
    cases cancelled
  · exact path

end Fulfillment
