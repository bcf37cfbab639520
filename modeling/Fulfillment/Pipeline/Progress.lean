import Fulfillment.Pipeline.Pursuit

/-!
# No order is stuck

Once every worker is done, the next step of an order is not owed by anyone. So
its saga has ended, or its outbox row is to be claimed, or a message is to be
handled that takes it on.
-/

namespace Fulfillment

open Js Relational Effects SagaOrchestrator

/-! ## When everyone is done -/

/-- A call that takes the order on. -/
def Furthers (w : World) (orderId : String) (c : Call) : Prop :=
  match stored orderId w with
  | none => Starts orderId c
  | some s => ∃ d ∈ s.duties, d.acts orderId c ∨ SendsAnswer d.answers orderId c

/-- A message about the order was published that its consumer did not process yet. Whoever
handles it takes the order on, as long as the calls succeed and nobody is in between. -/
def Deliverable (w : World) (orderId : String) : Prop :=
  ∃ (component : Component) (consumer : Consumer) (m : Message) (acked : Bool) (e : EventEnvelope),
    component.consumer = some consumer ∧ .sent m acked ∈ w.journal ∧ m.value = .event e ∧ e.aggregateId = orderId ∧
    m.topic ∈ component.topics ∧ w.db.isEventProcessed e.eventId consumer.consumerName = false ∧
    ∀ env message raw, message.topic = m.topic → message.value = some raw → Json.parse raw = some e.toJson →
      ∃ call ∈ ((consumer.handleMessage env message).run roomyPlatform (fun _ _ => .ok) [] w).past, Furthers w orderId call

section
variable {ι : Type} {p : Crew ι} {name : String} {state : Option SagaState} {t : EventType} {orderId : String}
  {goal : Call → Prop}

/-- The calls that only read. -/
def IsRead (c : Call) : Prop :=
  match c with
  | .isEventProcessed _ _ | .getSagaByAggregateId _ => True
  | _ => False

theorem InTransit.deliverable (h : InTransit p name state t orderId goal) (inv : Conforming p.shared)
    (shows : Shows state orderId (stored orderId p.shared)) {component : Component} {consumer : Consumer}
    (hc : component.consumer = some consumer) (named : consumer.consumerName = name) (topic : t.topic ∈ component.topics)
    (furthers : ∀ c, goal c → Furthers p.shared orderId c) : Deliverable p.shared orderId := by
  obtain ⟨m, e, waits⟩ := h
  obtain ⟨acked, sent⟩ := waits.sent
  refine ⟨component, consumer, m, acked, e, hc, sent, waits.value, waits.aggregateId, waits.topic ▸ topic,
    named ▸ waits.unprocessed, fun env message raw same text parsed => ?_⟩
  obtain ⟨conforms, -, reads⟩ := inv.reads ⟨m, acked, raw, sent, same.symm, waits.value, text, parsed⟩
  rw [reads]
  have retries : 0 < consumer.maxRetries := by
    cases component <;> cases hc <;> decide
  have process : ∀ n, (consumer.processEvent n (env.attempt n) e.plain).Meets
      (fun c r => r = (carryOut .none c true p.shared).1) goal (fun c => ¬IsRead c) fun _ => False := by
    intro n
    refine (waits.resolves component consumer hc named n _ _ conforms.plain waits.eventType waits.aggregateId
      (fun c => ¬IsRead c) fun _ bad => bad trivial).mono ?_ (fun _ h => h) (fun _ => .inr) fun _ => id
    rintro c r rfl
    apply reading_answer
    rintro aggregateId rfl
    exact shows
  have meets : (consumer.handleEnvelope env message e.plain).Meets _ goal _ _ :=
    Consumer.handleEnvelope_meets retries (fun bad => bad trivial) process
  have runs : ∀ c, ¬¬IsRead c → ∃ r, roomyPlatform.exec c .ok p.shared = (.ok r, p.shared) ∧
      r = (carryOut .none c true p.shared).1 := by
    intro c reads
    cases c <;> first | exact ⟨_, rfl, rfl⟩ | exact absurd id reads
  rcases meets.run runs [] with ⟨call, past, reached⟩ | processed
  · exact ⟨call, past, furthers call reached⟩
  · have processed : true = p.shared.db.isEventProcessed e.eventId consumer.consumerName := processed
    rw [named, waits.unprocessed] at processed
    cases processed

end

/-- While no call fails, no order is stuck: once every worker is done, the saga of the order has ended, or
its outbox row was never claimed, or a message takes it on. -/
theorem no_order_stuck {ι : Type} [DecidableEq ι] (components : ι → Component) (p : Crew ι)
    (h : Reachable (faultless components).system p) (done : ∀ i w, p.workers i = some w → w.rest.Finished)
    (order : OrderRow) (placed : order ∈ p.shared.db.orders.rows) :
    (∃ s, stored order.id p.shared = some s ∧ s.state.terminal = true) ∨
    (∃ row ∈ p.shared.db.outboxEvents.rows, row.body.aggregateId = order.id ∧ row.body.eventType = .orderCreated ∧
      row.status = .pending ∧ row.attempts = 0) ∨
    Deliverable p.shared order.id := by
  have live := reachable_live h
  have inv := reachable_conforming (timely_of_faultless h)
  have none_owes : ∀ goal, ¬SomeoneOwes p goal := by
    rintro goal ⟨i, w, busy, owes⟩
    exact owes.not_finished (done i w busy)
  have own : OwnSaga order.id (stored order.id p.shared) := fun s found => getSaga_eq_some live.backed.keyed found
  have saga : Component.saga.consumer = some sagaOrchestrator := rfl
  cases live.orders order.id (.inl ⟨order, placed, rfl⟩) with
  | unsent unread row waiting about unsent =>
    right
    left
    refine ⟨row, waiting, about, (live.backed.rows row waiting).1, ?_⟩
    rcases live.rows row waiting with sent | pending | owes
    · exact absurd unsent sent
    · exact pending
    · exact absurd owes (none_owes _)
  | created unread transit =>
    right
    right
    apply transit.deliverable inv ⟨by rw [unread]; rfl, own⟩ saga rfl (by decide)
    intro c starts
    rw [Furthers, unread]
    exact starts
  | started s found upheld =>
    by_cases unfinished : s.state.terminal = false
    · right
      right
      obtain ⟨d, hd⟩ := List.exists_mem_of_ne_nil _ ((live.backed.regular order.id s found).waits unfinished)
      have shows : Shows (some s.state) order.id (stored order.id p.shared) := ⟨by rw [found]; rfl, own⟩
      have furthers : ∀ c, d.acts order.id c ∨ SendsAnswer d.answers order.id c → Furthers p.shared order.id c := by
        intro c goal
        rw [Furthers, found]
        exact ⟨d, hd, goal⟩
      obtain ⟨requested, answered⟩ := SagaRow.duties_topics hd
      cases upheld d hd with
      | owed owes => exact absurd owes (none_owes _)
      | requested service serves transit =>
        obtain ⟨component, hc, topic⟩ := requested service serves
        exact transit.deliverable inv shows hc rfl topic fun c goal => furthers c (.inr goal)
      | answered t ht transit =>
        exact transit.deliverable inv shows saga rfl (answered t ht) fun c goal => furthers c (.inl goal)
    · left
      exact ⟨s, found, by simpa using unfinished⟩

/-! ## An order whose stock is to be reserved -/

theorem freshId_of_sendsNew {m : Message} {e : EventEnvelope} {w : World} (h : (Call.send m).sendsNew w = true)
    (value : m.value = .event e) : FreshId w e.eventId := by
  obtain ⟨topic, key, v⟩ := m
  have value : v = .event e := value
  subst value
  simp only [Call.sendsNew, Bool.and_eq_true, List.all_eq_true, bne_iff_ne] at h
  obtain ⟨published, waiting⟩ := h
  constructor
  · rintro e' ⟨⟨topic', key', v'⟩, acked, sent, value⟩
    have value : v' = .event e' := value
    subst value
    simpa using published _ sent
  · exact waiting

theorem runs_faultless : Runs (faultless fourComponents) fourComponents Surroundings.Timely where
  semantics := rfl
  body _ _ := rfl
  sweeps := runs_timely.sweeps
  delivers := runs_timely.delivers
  relays _ _ _ _ _ relay fitting := ⟨fitting.1, fitting.2, fun _ _ _ _ handler => absurd relay handler⟩
  consumers i w c o s careful := by
    refine ⟨careful.1.1, careful.1.2, ?_⟩
    rintro m e rfl value -
    exact freshId_of_sendsNew careful.2 value
  leaves _ _ finished := finished

theorem no_order_stuck_reserving : Deliverable reservingOrder aliceCreates.orderId := by
  have start : Reachable (faultless fourComponents).system ⟨World.empty, fun _ => none⟩ :=
    .start ⟨⟨⟨le_refl 0, by decide⟩, rfl, rfl⟩, fun _ => rfl⟩
  have fresh : FreshId World.empty aliceCreates.eventId := by
    constructor
    · rintro e ⟨m, acked, sent, -⟩
      cases sent
    · intro row hrow
      cases hrow
  have ordered := start.next (.environment _ (.createOrder aliceCreates .allOk (by decide +kernel) fresh))
  have reached : Reachable (faultless fourComponents).system ⟨reservingOrder, fun _ => none⟩ :=
    ordered.steps (((announced_steps runs_faultless).trans
      (handOn_getD runs_faultless turnEnv_timely)).trans (handOn_getD runs_faultless turnEnv_timely))
  have idle : ∀ (i : Fin 4) w, (fun _ => none : Fin 4 → Option (Worker JsError Answer Work Unit)) i = some w →
      w.rest.Finished := by
    intro i w busy
    cases busy
  rcases no_order_stuck fourComponents _ reached idle aliceCreates.order.row.stored (by decide +kernel) with
    ⟨s, found, ended⟩ | ⟨row, hrow, -, -, pending, -⟩ | deliverable
  · have state : (stored aliceCreates.orderId reservingOrder).map (fun s => s.state.terminal) = some false := by
      decide +kernel
    have found : stored aliceCreates.orderId reservingOrder = some s := found
    rw [found, Option.map_some, ended] at state
    cases state
  · have published : ∀ row ∈ reservingOrder.db.outboxEvents.rows, row.status = .published := by decide +kernel
    rw [published row hrow] at pending
    cases pending
  · exact deliverable

end Fulfillment
