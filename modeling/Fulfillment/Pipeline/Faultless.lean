import Fulfillment.Pipeline.Conformance
import Fulfillment.Pipeline.Paths

/-!
# The closed system without faults

Every call succeeds and every event is new, but handlers run side by side, also
several of one message. `KeepsTo` is what each worker keeps to from wherever it
is, and `Backed` what the shared world has to show for it.
-/

namespace Fulfillment

open Js Relational Effects SagaOrchestrator

/-- No event has the identifier, published or waiting in the outbox. -/
structure FreshId (w : World) (id : String) : Prop where
  published : ∀ e, PublishedIn w.journal e → e.eventId ≠ id
  waiting : ∀ row ∈ w.db.outboxEvents.rows, row.id ≠ id

/-- Orders are created under fresh event identifiers, and time passes. -/
inductive FreshOrders (w : World) : World → Prop
  | createOrder (c : CreateOrder) (f : TxOutcomes JsError OrderStatement)
    (conforms : orderCreatedPayloadSchema (some (.obj c.outboxBody.payload)) = true) (fresh : FreshId w c.eventId) :
    FreshOrders w { w with db := (c.createOrder w.clock f w.db).2 }
  | time (clock : Int) (locked : String → Bool) (instant : Instant clock) :
    FreshOrders w { w with clock := clock, locked := locked }

/-- Nothing has happened yet. -/
structure Blank (w : World) : Prop where
  clock : Instant w.clock
  db : w.db = .empty
  journal : w.journal = []

/-- The closed system with calls that succeed and handlers that finish. What a handler sends is a new event. -/
def faultless {ι : Type} (components : ι → Component) : Machine JsError World Answer ι Work Unit :=
  { timelySystem components with
    init := Blank
    allowed := fun i _ c o w => o = .ok ∧ columnsFit c w = true ∧
      ∀ m e, c = .send m → m.value = .event e → (components i).consumer ≠ none → FreshId w e.eventId
    environment := FreshOrders
    leaves := fun _ w => w.rest.Finished }

abbrev Crew (ι : Type) := Pool JsError World Answer ι Work Unit

section
variable {ι : Type} [DecidableEq ι] {components : ι → Component}

/-- Nothing but the closed system's own steps. -/
theorem timely_of_faultless {p : Crew ι} (h : Reachable (faultless components).system p) :
    Reachable (timelySystem components).system p := by
  induction h with
  | @start p init =>
    obtain ⟨⟨instant, db, journal⟩, free⟩ := init
    have empty : ∀ {β : Type} (rows : World → List β), rows p.shared = [] → ∀ x ∈ rows p.shared, False := by
      intro β rows none x hx
      rw [none] at hx
      cases hx
    refine .start ⟨⟨instant, ?_, ?_, ?_, ?_, ?_⟩, free⟩
    · intro row hrow
      exact (empty (fun w => w.db.outboxEvents.rows) (by simp only [db]; rfl) row hrow).elim
    · intro entry hentry
      exact (empty World.journal journal entry hentry).elim
    all_goals rw [db]; rfl
  | @next p q _ step ih =>
    refine ih.next ?_
    have step : PoolStep (faultless components) p q := step
    cases step with
    | start i job free startable => exact .start i job free startable
    | call i w c k o busy next allowed => exact .call i w c k o busy next trivial
    | leave i w busy finished => exact .leave i w busy trivial
    | environment s moves =>
      refine .environment s ?_
      cases moves with
      | createOrder c f conforms fresh => exact .createOrder c f conforms
      | time clock locked instant => exact .time clock locked instant

end

/-! ## What every worker keeps to -/

/-- The calls of a handler. -/
def HandlerCall (c : Call) : Prop :=
  match c with
  | .getPendingOutboxEvents _ _ _ | .markOutboxEventPublished _ _ | .markOutboxEventFailed _ _ _ | .processEvent _ _ => False
  | _ => True

/-- The calls of a relay. -/
def RelayCall (c : Call) : Prop :=
  match c with
  | .send _ | .getPendingOutboxEvents _ _ _ | .markOutboxEventPublished _ _ | .markOutboxEventFailed _ _ _ => True
  | _ => False

/-- A saga that is read is the order's own. -/
def OwnSaga (aggregateId : String) (saga : Option SagaRow) : Prop :=
  ∀ s, saga = some s → s.aggregateId = aggregateId ∧ s.sagaId = sagaIdOf aggregateId

def SavesRegular (c : Call) : Prop := ∀ row, c = .saveSagaInstance row → row.Keyed ∧ row.Regular

/-- A save obliges to the requests that the saved saga waits for. -/
def Obliges (c : Call) (_ : Answer c) (goal : Call → Prop) : Prop :=
  ∃ row d, c = .saveSagaInstance row ∧ d ∈ row.duties ∧ goal = Publishes d.request row.aggregateId

/-- The barrier of the order is put to work. -/
def UsesBarrier (orderId : String) (c : Call) : Prop :=
  ∃ copy action correlationId, c = .compensationBarrier copy action correlationId ∧ copy.aggregateId = orderId

/-- There is no saga of the order to be read. -/
def UnreadSaga (orderId aggregateId : String) (saga : Option SagaRow) : Prop :=
  OwnSaga aggregateId saga ∧ (aggregateId = orderId → saga = none)

structure KeepsTo (component : Component) (w : World) (rest : Program Unit) : Prop where
  handler : component.consumer ≠ none → rest.Calls HandlerCall
  relay : component.consumer = none → rest.Calls RelayCall
  marks : ∀ id, (∀ e, PublishedIn w.journal e → e.eventId ≠ id) → rest.Calls fun c => ∀ name, c ≠ .markEventProcessed id name
  saves : rest.Honours (reading OwnSaga) SavesRegular Obliges
  barrier : ∀ orderId, stored orderId w = none →
    rest.Honours (reading (UnreadSaga orderId)) (fun c => ¬UsesBarrier orderId c) fun _ _ _ => False
  known : component.consumer = none → ∀ known : String → OutboxBody → Prop,
    (∀ row ∈ w.db.outboxEvents.rows, known row.id row.body) →
    rest.Honours (claiming fun row => known row.id row.body) (SendsKnown known) Announces

/-- The calls that neither save a saga nor ask the barrier. -/
def Quiet (c : Call) : Prop :=
  match c with
  | .saveSagaInstance _ | .compensationBarrier _ _ _ => False
  | _ => True

section
variable {c : Call} (quiet : Quiet c)
include quiet

theorem Quiet.saves : SavesRegular c ∧ ∀ r goal, ¬Obliges c r goal := by
  constructor
  · rintro row rfl
    exact quiet.elim
  · rintro r goal ⟨row, d, rfl, -⟩
    exact quiet

theorem Quiet.barrier (orderId : String) : ¬UsesBarrier orderId c ∧ ∀ (_ : Answer c) (_ : Call → Prop), ¬False := by
  refine ⟨?_, fun _ _ => id⟩
  rintro ⟨copy, action, correlationId, rfl, -⟩
  exact quiet

end

theorem saves_of_quiet {p : Program Unit} (h : p.Calls Quiet) : p.Honours (reading OwnSaga) SavesRegular Obliges := by
  apply Consumer.honours_of_calls
  exact h.mono fun c quiet => quiet.saves

theorem barrier_of_quiet {p : Program Unit} (h : p.Calls Quiet) (orderId : String) :
    p.Honours (reading (UnreadSaga orderId)) (fun c => ¬UsesBarrier orderId c) fun _ _ _ => False := by
  apply Consumer.honours_of_calls
  exact h.mono fun c quiet => quiet.barrier orderId

namespace SagaOrchestrator

variable (amb : Ambient) (e : EventEnvelope)

theorem processEvent_saves : (processEvent amb e).Honours (reading OwnSaga) SavesRegular Obliges := by
  apply processEvent_honours
  · exact Quiet.saves trivial
  · exact fun m => Quiet.saves trivial
  · intro saga row emissions own hreact
    obtain ⟨target, types, -, advances⟩ := transition_of_react hreact
    obtain ⟨regular, includes⟩ := react_regular hreact
    constructor
    · rintro row' ⟨⟩
      exact ⟨advances.keyed fun s hs => (own s hs).2, regular⟩
    · rintro r goal ⟨row', d, ⟨⟩, hd, rfl⟩
      exact sendAll_owes (includes d hd)
  · intro saga s action own hreact
    constructor
    · rintro row ⟨⟩
    · rintro r goal ⟨row, d, ⟨⟩, -⟩

/-- An order without a saga has nothing to report to the barrier. -/
theorem processEvent_barrier (orderId : String) : (processEvent amb e).Honours (reading (UnreadSaga orderId))
    (fun c => ¬UsesBarrier orderId c) fun _ _ _ => False := by
  apply processEvent_honours
  · exact Quiet.barrier (c := .getSagaByAggregateId _) trivial orderId
  · exact fun m => Quiet.barrier (c := .send m) trivial orderId
  · intro saga row emissions _ _
    refine ⟨?_, fun _ _ => False.elim⟩
    rintro ⟨copy, action, correlationId, ⟨⟩, -⟩
  · intro saga s action own hreact
    refine ⟨?_, fun _ _ => id⟩
    rintro ⟨copy, action', correlationId, ⟨⟩, about⟩
    obtain ⟨hs, -⟩ := report_of_react hreact
    have none := own.2 ((own.1 s hs).1.symm.trans about)
    rw [hs] at none
    cases none

end SagaOrchestrator

/-- A call of `processEvent` in a consumer. -/
def ProcessCall (c : Call) : Prop :=
  match c with
  | .getSagaByAggregateId _ | .saveSagaInstance _ | .compensationBarrier _ _ _ | .send _ => True
  | _ => False

theorem Component.processEvent_calls {component : Component} {c : Consumer} (hc : component.consumer = some c) (n : Nat)
    (amb : Ambient) (e : EventEnvelope) : (c.processEvent n amb e).Calls ProcessCall ∧
      (c.processEvent n amb e).Honours (reading OwnSaga) SavesRegular Obliges ∧
      ∀ orderId, (c.processEvent n amb e).Honours (reading (UnreadSaga orderId)) (fun c => ¬UsesBarrier orderId c)
        fun _ _ _ => False := by
  have service : ∀ s : Service, (s.processEvent amb e).Calls ProcessCall ∧ (s.processEvent amb e).Calls Quiet :=
    fun s => ⟨s.processEvent_calls fun _ _ => trivial, s.processEvent_calls fun _ _ => trivial⟩
  cases component with
  | outboxRelay relay => cases hc
  | saga =>
    cases hc
    exact ⟨SagaOrchestrator.processEvent_calls trivial (fun _ => trivial) (fun _ _ => trivial) fun _ _ => trivial,
      processEvent_saves amb e, processEvent_barrier amb e⟩
  | payment | inventory | fraud | shipping | notification =>
    cases hc
    exact ⟨(service _).1, saves_of_quiet (service _).2, barrier_of_quiet (service _).2⟩

theorem OwnCall.handler {eventId consumerName : String} {call : Call} (h : OwnCall eventId consumerName call) :
    HandlerCall call ∧ Quiet call ∧ ∀ id name, call = .markEventProcessed id name → id = eventId ∧ name = consumerName := by
  cases h with
  | mark =>
    refine ⟨trivial, trivial, ?_⟩
    rintro id name ⟨⟩
    exact ⟨rfl, rfl⟩
  | dedup | persist | send | published => exact ⟨trivial, trivial, fun id name h => by cases h⟩

/-- A handler marks no event but its own. -/
theorem Component.handleEnvelope_marks {component : Component} {c : Consumer} (hc : component.consumer = some c)
    (env : Surroundings) (message : EachMessagePayload) (e : EventEnvelope) : (c.handleEnvelope env message e).Calls
      fun call => ∀ id name, call = .markEventProcessed id name → id = e.eventId ∧ name = c.consumerName := by
  apply Consumer.handleEnvelope_calls
  · exact fun call own => own.handler.2.2
  · intro n amb
    refine (component.processEvent_calls hc n amb e).1.mono ?_
    rintro call process id name rfl
    exact process.elim

/-- A delivered message is read, and it is an event that conforms. -/
theorem Conforming.reads {w : World} (inv : Conforming w) {message : EachMessagePayload} {e : EventEnvelope}
    (delivers : Delivers w message e) : e.Conforms ∧ PublishedIn w.journal e ∧
      ∀ (c : Consumer) env, c.handleMessage env message = c.handleEnvelope env message e.plain := by
  obtain ⟨m, acked, raw, sent, topic, value, text, parsed⟩ := delivers
  have conforms : m.Conforms := inv.messages m acked sent
  rw [Message.Conforms, value] at conforms
  have conforms : e.Conforms := conforms
  refine ⟨conforms, ⟨m, acked, sent, value⟩, fun c env => ?_⟩
  have read : parseEnvelope env.uuid env.now raw = some e.plain :=
    parseEnvelope_toJson conforms.valid parsed env.uuid env.now
  simp only [Consumer.handleMessage, text, Option.getD_some, read]

theorem Component.perform_keepsTo (component : Component) {w : World} (inv : Conforming w) {work : Work}
    (startable : ∀ env message, work = .deliver env message → ∃ e, Delivers w message e) :
    KeepsTo component w (component.perform work) := by
  have idle : KeepsTo component w (Prog.pure () : Program Unit) :=
    ⟨fun _ => trivial, fun _ => trivial, fun _ _ => trivial, trivial, fun _ _ => trivial, fun _ _ _ => trivial⟩
  cases work with
  | sweep =>
    cases component with
    | saga | payment | inventory | fraud | shipping | notification => exact idle
    | outboxRelay relay =>
      have quiet : relay.processBatch.Calls Quiet :=
        relay.processBatch_calls trivial (fun _ => trivial) (fun _ => trivial) fun _ _ => trivial
      have quiet' : (Component.perform (.outboxRelay relay) .sweep).Calls Quiet := quiet.bind fun _ => trivial
      have calls : relay.processBatch.Calls RelayCall :=
        relay.processBatch_calls trivial (fun _ => trivial) (fun _ => trivial) fun _ _ => trivial
      have unmarked : relay.processBatch.Calls fun c => ∀ id name, c ≠ .markEventProcessed id name :=
        relay.processBatch_calls (fun _ _ h => by cases h) (fun _ _ _ h => by cases h) (fun _ _ _ h => by cases h)
          fun _ _ _ _ h => by cases h
      constructor
      · exact fun handler => absurd rfl handler
      · exact fun _ => calls.bind fun _ => trivial
      · exact fun id _ => (unmarked.mono fun c other name => other id name).bind fun _ => trivial
      · exact saves_of_quiet quiet'
      · exact fun orderId _ => barrier_of_quiet quiet' orderId
      · exact fun _ known _ => (relay.processBatch_honours known).bind fun _ => trivial
  | deliver env message =>
    obtain ⟨e, delivers⟩ := startable env message rfl
    obtain ⟨-, published, reads⟩ := inv.reads delivers
    cases hc : component.consumer with
    | none =>
      simp only [Component.perform, hc]
      exact idle
    | some c =>
      simp only [Component.perform, hc, reads]
      have process := fun n amb => component.processEvent_calls hc n amb e.plain
      constructor
      · intro _
        apply Consumer.handleEnvelope_calls (fun call own => own.handler.1)
        intro n amb
        refine (process n amb).1.mono ?_
        intro call hcall
        cases call <;> trivial
      · intro none
        rw [hc] at none
        cases none
      · intro id unpublished
        refine (component.handleEnvelope_marks hc env message e.plain).mono ?_
        rintro call marks name rfl
        exact unpublished e published (marks id name rfl).1.symm
      · exact Consumer.handleEnvelope_honours (fun call own => own.handler.2.1.saves) fun n amb => (process n amb).2.1
      · exact fun orderId _ => Consumer.handleEnvelope_honours (fun call own => own.handler.2.1.barrier orderId)
          fun n amb => (process n amb).2.2 orderId
      · intro none
        rw [hc] at none
        cases none

end Fulfillment
