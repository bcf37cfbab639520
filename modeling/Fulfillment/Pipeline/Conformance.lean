import Fulfillment.Pipeline.Emissions
import Fulfillment.Pipeline.Tracing

/-!
# No contract is broken

If the orders conform, then so does every event of the closed system, and no
message is dead-lettered as malformed.
-/

namespace Fulfillment

open Js Relational Effects

/-- What a relay makes of the row conforms. -/
def RowConforms (row : OutboxEventRow) : Prop := ∀ relay : OutboxRelay, (relay.envelope row).Conforms

structure Conforming (w : World) : Prop where
  clock : Instant w.clock
  rows : ∀ row ∈ w.db.outboxEvents.rows, RowConforms row
  sagas : ∀ saga ∈ w.db.sagaInstances.rows, saga.context.Conforms
  messages : ∀ m acked, .sent m acked ∈ w.journal → m.Conforms
  dlqMessages : ∀ row ∈ w.db.dlqMessages.rows, ∀ raw, row.payload.content ≠ .malformed raw
  dlqOutbox : ∀ row ∈ w.db.dlqOutbox.rows, ∀ raw, row.body.payload.content ≠ .malformed raw

def conforming : Regime World where
  Inv := Conforming
  Grows _ _ := True
  refl _ := trivial
  trans _ _ := trivial

/-! ## One call -/

/-- What a call writes or sends. -/
def Call.Conforms : Call → Prop
  | .send m => m.Conforms
  | .saveSagaInstance saga => saga.context.Conforms
  | .compensationBarrier saga _ _ => saga.context.Conforms
  | .persistDeadLetter dlq _ _ => ∀ raw, dlq.payload.content ≠ .malformed raw
  | _ => True

theorem rowConforms_of_same {row row' : OutboxEventRow} (h : RowConforms row) (id : row.id = row'.id)
    (body : row.body = row'.body) (createdAt : row.createdAt = row'.createdAt) : RowConforms row' := by
  intro relay
  have same : relay.envelope row' = relay.envelope row := by
    simp only [OutboxRelay.envelope, id, body, createdAt]
  rw [same]
  exact h relay

theorem Conforming.saveSaga {w : World} (inv : Conforming w) {saga : SagaRow} (context : saga.context.Conforms) :
    Conforming (w.saveSaga saga) where
  clock := inv.clock
  rows := inv.rows
  sagas row hrow := by
    rcases Table.of_mem_upsert hrow with rfl | hrow | ⟨old, -, -, rfl⟩
    · exact context
    · exact inv.sagas row hrow
    · exact context
  messages m acked hm := by
    rcases List.mem_cons.mp hm with saved | hm
    · cases saved
    · exact inv.messages m acked hm
  dlqMessages := inv.dlqMessages
  dlqOutbox := inv.dlqOutbox

/-- The barrier works on the stored saga, or on the one it is given. -/
theorem Conforming.barrier {w : World} (inv : Conforming w) {saga : SagaRow} (context : saga.context.Conforms)
    {action correlationId : String} {saved : Option SagaRow} {notice : Option CancelNotice}
    (h : executeBarrierUpdate saga action correlationId w.db = (saved, notice)) :
    (∀ row, saved = some row → row.context.Conforms) ∧
    ∀ n, notice = some n → ∃ s : SagaRow, s.context.Conforms ∧ cancelNotice s action = some n := by
  have current : ((w.db.getSagaByAggregateId saga.aggregateId).getD saga).context.Conforms := by
    cases found : w.db.getSagaByAggregateId saga.aggregateId with
    | none => exact context
    | some s => exact inv.sagas s (List.mem_of_find?_eq_some found)
  simp only [executeBarrierUpdate] at h
  split at h
  · cases h
    constructor
    · rintro row ⟨⟩
      exact { current with }
    · exact fun n hn => ⟨_, current, hn⟩
  · cases h
    constructor <;> intro _ none <;> cases none

/-- The notice that a barrier answers with comes from a saga that conforms. -/
theorem Conforming.notified {w : World} (inv : Conforming w) {saga : SagaRow} (context : saga.context.Conforms)
    {action correlationId : String} {o : Outcome JsError} {notice : CancelNotice}
    (answered : ((platform .none).exec (.compensationBarrier saga action correlationId) o w).1 = .ok (some notice)) :
    ∃ s : SagaRow, s.context.Conforms ∧ cancelNotice s action = some notice := by
  rw [platform_exec_value] at answered
  cases o with
  | rejected err | unacked err => cases answered
  | ok =>
    simp only at answered
    split at answered
    · have answered := Except.ok.inj answered
      rcases h : executeBarrierUpdate saga action correlationId w.db with ⟨_ | row, told⟩
      · simp only [carryOut, h] at answered
        exact (inv.barrier context h).2 notice answered
      · simp only [carryOut, h] at answered
        exact (inv.barrier context h).2 notice answered
    · cases answered

theorem written_exhausted {p : DlqPayload} (h : ∀ raw, p.content ≠ .malformed raw) :
    ∀ raw, p.written.content ≠ .malformed raw := by
  intro raw
  rw [DlqPayload.written]
  cases hp : p.content with
  | malformed raw' => exact absurd hp (h raw')
  | exhausted e attempts => nofun

theorem conforming_exec {c : Call} {o : Outcome JsError} {w : World} (inv : Conforming w) (asks : c.Conforms) :
    Conforming ((platform .none).exec c o w).2 := by
  have rows : ∀ row ∈ ((platform .none).exec c o w).2.db.outboxEvents.rows, RowConforms row := by
    intro row' hrow'
    obtain ⟨row, hrow, id, body, createdAt⟩ := exec_rows_back c o w row' hrow'
    exact rowConforms_of_same (inv.rows row hrow) id body createdAt
  rw [platform_exec_state] at rows ⊢
  split at rows
  · rename_i acted
    rw [if_pos acted]
    cases c with
    | isEventProcessed | getSagaByAggregateId | processEvent => exact inv
    | markEventProcessed | getPendingOutboxEvents | markOutboxEventPublished | markOutboxEventFailed =>
      exact ⟨inv.clock, rows, inv.sagas, inv.messages, inv.dlqMessages, inv.dlqOutbox⟩
    | markDLQOutboxPublished id workerId =>
      refine ⟨inv.clock, rows, inv.sagas, inv.messages, inv.dlqMessages, ?_⟩
      intro row' hrow'
      have keeps : ∀ r : Leased DlqOutboxBody, (r.publish w.clock).id = r.id := fun _ => rfl
      obtain ⟨row, hrow, rfl⟩ := (Table.mem_update keeps).mp hrow'
      have kept := inv.dlqOutbox row hrow
      split <;> exact kept
    | persistDeadLetter dlq marksFailed outboxId =>
      have letters : ∀ row ∈ (w.db.recordDLQMessage dlq w.clock).dlqMessages.rows,
          ∀ raw, row.payload.content ≠ .malformed raw := by
        intro row hrow
        rcases Table.of_mem_upsert hrow with rfl | hrow | ⟨old, hold, -, rfl⟩
        · exact written_exhausted asks
        · exact inv.dlqMessages row hrow
        · exact inv.dlqMessages old hold
      have waiting : ∀ row ∈ (insertPending outboxId ⟨dlq.id, Topics.dlq, dlq.payload.written⟩ w.clock w.db.dlqOutbox).rows,
          ∀ raw, row.body.payload.content ≠ .malformed raw := by
        intro row hrow
        rcases Table.mem_insertOrIgnore.mp hrow with hrow | ⟨rfl, -⟩
        · exact inv.dlqOutbox row hrow
        · exact written_exhausted asks
      cases marksFailed <;> exact ⟨inv.clock, rows, inv.sagas, inv.messages, letters, waiting⟩
    | saveSagaInstance saga => exact inv.saveSaga asks
    | compensationBarrier saga action correlationId =>
      rcases h : executeBarrierUpdate saga action correlationId w.db with ⟨_ | row, notice⟩
      · simp only [carryOut, h]
        exact inv
      · simp only [carryOut, h]
        exact inv.saveSaga ((inv.barrier asks h).1 row rfl)
    | send m =>
      refine ⟨inv.clock, rows, inv.sagas, ?_, inv.dlqMessages, inv.dlqOutbox⟩
      intro m' acked hm'
      rcases List.mem_cons.mp hm' with sent | hm'
      · cases sent
        exact asks
      · exact inv.messages m' acked hm'
  · rename_i refused
    rwa [if_neg refused]

theorem keeps_conforming {c : Call} {w : World} (asks : c.Conforms) : Effects.Keeps (platform .none) conforming c w :=
  fun _ _ inv _ => ⟨trivial, conforming_exec inv asks⟩

/-! ## The components -/

namespace SagaOrchestrator

theorem processEvent_conforming {amb : Ambient} {e : EventEnvelope} (handled : e.Conforms) (timely : amb.Timely)
    (w : World) : Steady (platform .none) conforming (processEvent amb e) w := by
  have sends : ∀ {ms : List (Except JsError Message)} (v : World), (∀ m, .ok m ∈ ms → m.Conforms) →
      Steady (platform .none) conforming (sendAll ms) v := by
    intro ms
    induction ms with
    | nil => exact fun v _ => .pure () v
    | cons m ms ih =>
      intro v conform
      cases m with
      | error err => exact .throw err v
      | ok m =>
        apply Steady.bind (.await (keeps_conforming (c := .send m) (conform m List.mem_cons_self)))
        intro _
        exact ih v fun m' hm' => conform m' (List.mem_cons_of_mem _ hm')
  apply Steady.await_bind
  · exact keeps_conforming trivial
  · intro v o saga _ inv read
    generalize ((platform .none).exec (.getSagaByAggregateId e.aggregateId) o v).2 = u
    have own : ∀ s, saga = some s → s.context.Conforms ∧ s.aggregateId = e.aggregateId := by
      intro s hs
      rw [platform_exec_value] at read
      cases o with
      | rejected err | unacked err => cases read
      | ok =>
        simp only at read
        split at read
        · have found : v.db.getSagaByAggregateId e.aggregateId = some s := (Except.ok.inj read).trans hs
          exact ⟨inv.sagas s (List.mem_of_find?_eq_some found), by simpa using List.find?_some found⟩
        · cases read
    cases hreact : react amb e saga with
    | error err => exact .throw err u
    | ok reaction =>
      cases reaction with
      | ignore => exact .pure () u
      | advance row emissions =>
        obtain ⟨context, conform⟩ := react_conforms handled timely (fun s hs => (own s hs).1) hreact
        apply Steady.bind (.await (keeps_conforming (c := .saveSagaInstance row) context))
        intro _
        exact sends u conform
      | compensate s completedAction =>
        obtain ⟨context, order⟩ := own s (report_of_react hreact).1
        apply Steady.await_bind
        · exact keeps_conforming (c := .compensationBarrier s completedAction e.correlationId) context
        · intro v' o' notice _ inv' answered
          cases notice with
          | none => exact .pure () _
          | some notice =>
            obtain ⟨t, conforms, noticed⟩ := inv'.notified context answered
            apply Steady.await
            rw [order]
            exact keeps_conforming (c := .send _) (orderCancelled_conforms handled timely conforms noticed)

end SagaOrchestrator

theorem Service.processEvent_conforming {s : Service}
    (service : s ∈ [paymentService, inventoryService, fraudService, shippingService, notificationService])
    {amb : Ambient} {e : EventEnvelope} (handled : e.Conforms) (timely : amb.Timely) (w : World) :
    Steady (platform .none) conforming (s.processEvent amb e) w := by
  unfold Service.processEvent
  cases answer : s.answer amb e with
  | error err => exact .throw err w
  | ok answered =>
    cases answered with
    | none => exact .pure () w
    | some m =>
      apply Steady.await
      exact keeps_conforming (c := .send m) (services_conform service handled timely answer)

theorem Component.processEvent_conforming {component : Component} {c : Consumer} (hc : component.consumer = some c)
    {e : EventEnvelope} (handled : e.Conforms) (attempt : Nat) {amb : Ambient} (timely : amb.Timely) (w : World) :
    Steady (platform .none) conforming (c.processEvent attempt amb e) w := by
  cases component with
  | outboxRelay relay => cases hc
  | saga =>
    cases hc
    exact SagaOrchestrator.processEvent_conforming handled timely w
  | payment | inventory | fraud | shipping | notification =>
    cases hc
    exact Service.processEvent_conforming (by simp) handled timely w

/-- The clocks that a delivery reads. -/
def Surroundings.Timely (env : Surroundings) : Prop := ∀ attempt, (env.attempt attempt).Timely

/-- A message that was delivered is read, so it is not malformed. -/
theorem handleMessage_conforming {component : Component} {c : Consumer} (hc : component.consumer = some c)
    {env : Surroundings} (timely : env.Timely) {message : EachMessagePayload} {published : EventEnvelope} {w : World}
    (inv : Conforming w) (delivers : Delivers w message published) :
    Steady (platform .none) conforming (c.handleMessage env message) w := by
  obtain ⟨m, acked, raw, sent, topic, value, text, parsed⟩ := delivers
  have conforms : m.Conforms := inv.messages m acked sent
  rw [Message.Conforms, value] at conforms
  have conforms : published.Conforms := conforms
  have read : parseEnvelope env.uuid env.now raw = some published.plain :=
    parseEnvelope_toJson conforms.valid parsed env.uuid env.now
  simp only [Consumer.handleMessage, text, Option.getD_some, read]
  have letter : ∀ {content : DeadLetterContent} {attempts : Nat}, content = .exhausted published.plain attempts →
      ∀ raw, content ≠ .malformed raw := by
    rintro content attempts rfl raw malformed
    cases malformed
  apply handleEnvelope_steady
  · exact
      { isEventProcessed := keeps_conforming trivial
        markEventProcessed := keeps_conforming trivial
        persistDeadLetter := fun dlq attempts outboxId exhausted =>
          keeps_conforming (c := .persistDeadLetter dlq true outboxId) (letter exhausted)
        send := fun key p attempts exhausted =>
          keeps_conforming (c := .send ⟨Topics.dlq, key, .deadLetter p⟩) (letter exhausted)
        markDLQOutboxPublished := fun _ => keeps_conforming trivial }
  · exact fun attempt => Component.processEvent_conforming hc conforms.plain attempt (timely attempt) w

namespace OutboxRelay

variable (relay : OutboxRelay)

theorem publishEvent_conforming {event : OutboxEventRow} (row : RowConforms event) (w : World) :
    Steady (platform .none) conforming (relay.publishEvent event) w := by
  apply Steady.bind
  · apply Steady.settle
    apply Steady.bind (.await (keeps_conforming (c := .send (relay.message event)) (row relay)))
    intro _
    apply Steady.await
    exact keeps_conforming (c := .markOutboxEventPublished event.id relay.workerId) trivial
  · rintro (err | marked)
    · apply Steady.bind
      · apply Steady.await
        exact keeps_conforming (c := .markOutboxEventFailed event.id err.message relay.workerId) trivial
      · exact fun _ => .pure () w
    · exact .pure () w

theorem publishAll_conforming {events : List OutboxEventRow} (rows : ∀ event ∈ events, RowConforms event) (n : Nat)
    (w : World) : Steady (platform .none) conforming (relay.publishAll events n) w := by
  induction events generalizing n with
  | nil => exact .pure n w
  | cons event events ih =>
    obtain ⟨hevent, hevents⟩ := List.forall_mem_cons.mp rows
    apply Steady.bind (relay.publishEvent_conforming hevent w)
    intro _
    exact ih hevents (n + 1)

theorem processBatch_conforming (w : World) : Steady (platform .none) conforming relay.processBatch w := by
  have claims : Call.Conforms (.getPendingOutboxEvents relay.batchSize relay.workerId relay.leaseDurationSeconds) := trivial
  apply Steady.await_bind (keeps_conforming claims)
  intro v o rows _ inv claimed
  have kept := conforming_exec (o := o) inv claims
  exact relay.publishAll_conforming (fun event hevent => kept.rows event (claimed_stored claimed event hevent)) 0 _

end OutboxRelay

theorem Component.perform_conforming (component : Component) {work : Work} {w : World} (inv : Conforming w)
    (startable : ∀ env message, work = .deliver env message → env.Timely ∧ ∃ e, Delivers w message e) :
    Steady (platform .none) conforming (component.perform work) w := by
  cases work with
  | sweep =>
    cases component with
    | outboxRelay relay =>
      apply Steady.bind (relay.processBatch_conforming w)
      intro _
      exact .pure () w
    | saga | payment | inventory | fraud | shipping | notification => exact .pure () w
  | deliver env message =>
    obtain ⟨timely, e, delivers⟩ := startable env message rfl
    cases hc : component.consumer with
    | none =>
      simp only [Component.perform, hc]
      exact .pure () w
    | some c =>
      simp only [Component.perform, hc]
      exact handleMessage_conforming hc timely inv delivers

/-! ## Every run -/

/-- Orders whose first payload satisfies its schema are created, and time passes. -/
inductive ConformingOrders (w : World) : World → Prop
  | createOrder (c : CreateOrder) (f : TxOutcomes JsError OrderStatement)
    (conforms : orderCreatedPayloadSchema (some (.obj c.outboxBody.payload)) = true) :
    ConformingOrders w { w with db := (c.createOrder w.clock f w.db).2 }
  | time (clock : Int) (locked : String → Bool) (instant : Instant clock) :
    ConformingOrders w { w with clock := clock, locked := locked }

/-- Some orders wait in the outbox or were announced. Nothing else has happened. -/
structure Opening (w : World) : Prop where
  clock : Instant w.clock
  rows : ∀ row ∈ w.db.outboxEvents.rows, row.body.eventType = .orderCreated ∧ RowConforms row
  journal : ∀ entry ∈ w.journal, ∃ m acked e, entry = .sent m acked ∧ m.value = .event e ∧
    e.eventType = .orderCreated ∧ e.Conforms
  sagas : w.db.sagaInstances.rows = []
  dlqMessages : w.db.dlqMessages.rows = []
  dlqOutbox : w.db.dlqOutbox.rows = []

/-- The closed system, with its clocks. -/
def timelySystem {ι : Type} (components : ι → Component) : Machine JsError World Answer ι Work Unit :=
  let system := closedSystem components Opening ConformingOrders
  { system with startable := fun i work w =>
      system.startable i work w ∧ ∀ env message, work = .deliver env message → env.Timely }

theorem Opening.conforming {w : World} (h : Opening w) : Conforming w where
  clock := h.clock
  rows row hrow := (h.rows row hrow).2
  sagas saga hsaga := by
    rw [h.sagas] at hsaga
    cases hsaga
  messages m acked hm := by
    obtain ⟨m', acked', e, same, value, -, conforms⟩ := h.journal _ hm
    cases same
    rw [Message.Conforms, value]
    exact conforms
  dlqMessages row hrow := by
    rw [h.dlqMessages] at hrow
    cases hrow
  dlqOutbox row hrow := by
    rw [h.dlqOutbox] at hrow
    cases hrow

/-- The row that an order leaves is published as an event that conforms. -/
theorem fresh_conforms {c : CreateOrder} {clock : Int} (instant : Instant clock)
    (conforms : orderCreatedPayloadSchema (some (.obj c.outboxBody.payload)) = true) :
    RowConforms (Leased.fresh c.eventId c.outboxBody clock) := by
  intro relay
  constructor
  · exact
      { eventId := by simp [EventEnvelope.plain, OutboxRelay.envelope, Leased.fresh, CreateOrder.eventId]
        eventType := (by decide : EventType.orderCreated.name ≠ "")
        named := rfl
        eventVersion := Nat.one_pos
        sequenceNumber := nofun
        aggregateId := by
          simp [EventEnvelope.plain, OutboxRelay.envelope, Leased.fresh, CreateOrder.outboxBody, CreateOrder.orderId]
        aggregateType := (by decide : "Order" ≠ "")
        occurredAt := datetimeField_toISOString instant
        producer := by simp [EventEnvelope.plain, OutboxRelay.envelope]
        correlationId := orNull_getD_ne _ (by simp)
        causationId := orNull_getD_ne _ (by simp)
        schemaVersion := Nat.one_pos
        payload := fun f hf => of_decide_eq_true (List.mem_filter.mp hf).2 }
  · exact conforms

theorem orders_conforming {w w' : World} (inv : Conforming w) (outside : ConformingOrders w w') : Conforming w' := by
  cases outside with
  | time clock locked instant =>
    exact ⟨instant, inv.rows, inv.sagas, inv.messages, inv.dlqMessages, inv.dlqOutbox⟩
  | createOrder c f conforms =>
    have written : Conforming { w with db := c.written w.clock w.db } := by
      refine ⟨inv.clock, ?_, inv.sagas, inv.messages, inv.dlqMessages, inv.dlqOutbox⟩
      intro row hrow
      rcases Table.mem_insertOrIgnore.mp hrow with hrow | ⟨rfl, -⟩
      · exact inv.rows row hrow
      · exact fresh_conforms inv.clock conforms
    rcases c.createOrder_run w.clock f w.db with ⟨-, -, run⟩ | ⟨err, -, -, run⟩ | ⟨-, err, run⟩
    · rw [run]
      exact written
    · rw [run]
      exact written
    · rw [run]
      exact inv

theorem reachable_conforming {ι : Type} [DecidableEq ι] {components : ι → Component}
    {p : Pool JsError World Answer ι Work Unit} (h : Reachable (timelySystem components).system p) :
    Conforming p.shared := by
  refine (timelySystem components).steady conforming (fun w => Opening.conforming) ?_ ?_ h
  · intro w i work inv startable
    apply (components i).perform_conforming inv
    rintro env message rfl
    exact ⟨startable.2 env message rfl, startable.1.2⟩
  · exact fun w w' inv outside => ⟨trivial, orders_conforming inv outside⟩

theorem turnEnv_timely (turn : Nat) (i : Fin 4) : (turnEnv turn i).Timely := by
  have reading : ClockReading "2026-01-05T10:00:00.000Z" := ⟨1767607200000, ⟨by decide, by decide⟩, by decide⟩
  intro attempt k
  exact reading

theorem runs_timely : Runs (timelySystem fourComponents) fourComponents Surroundings.Timely where
  semantics := rfl
  body _ _ := rfl
  sweeps i w := ⟨trivial, by simp⟩
  delivers i env message e w timely topic delivers := by
    refine ⟨⟨topic, e, delivers⟩, ?_⟩
    intro env' message' same
    cases same
    exact timely
  relays _ _ _ _ _ _ _ := trivial
  consumers _ _ _ _ _ _ := trivial
  leaves _ _ _ := trivial

end Fulfillment
