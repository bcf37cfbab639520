import Fulfillment.Projection.Delivery
import Fulfillment.Projection.OrderFold

/-!
# The live row and the event store

An event that failed and was dead-lettered keeps its sequence number, so later
events overtake it. The row agrees with the store as long as no event is
delivered again after one that overtook it was applied.
-/

namespace Fulfillment

open Js Effects

variable (pg : Postgres) (orderId : String)

/-- The order is not known yet; there may be other orders. -/
structure Unknown (w : ProjectionWorld) : Prop where
  noRow : w.projection.models (.order orderId) = none
  noEvent : ∀ s ∈ w.store.events, s.aggregateId ≠ orderId
  stored : ∀ eventId, w.projection.isProjectionEventApplied eventId = true → eventId ∈ w.store.events.map StoredEvent.eventId

/-- An event that is stored already is that event; and it is marked, or it does not
write the row, or no event that does and is marked comes after it. -/
def InOrder (w : ProjectionWorld) (e : EventEnvelope) : Prop :=
  ∀ s ∈ w.store.events, s.eventId = e.eventId → s.IsOf e ∧
    (w.projection.isProjectionEventApplied e.eventId = true ∨ orderWrite pg e = none ∨ InPlace pg s w.store w.projection)

/-- Deliveries of events of the order, each meeting the condition when it starts. What
happens in between, a `replayDLQ` included, touches neither store nor projection. -/
inductive LiveRun (meets : ProjectionWorld → EventEnvelope → Prop) (start : ProjectionWorld) : ProjectionWorld → Prop
  | start : LiveRun meets start start
  | deliver {w} (run : LiveRun meets start w) (d : ProjectionDelivery)
      (about : ∀ e, d.envelope = some e → e.aggregateId = orderId ∧ sequenceParam e.sequenceNumber = none)
      (each : ∀ e, d.envelope = some e → meets w e) : LiveRun meets start (d.handled pg w)
  | elsewhere {w w'} (run : LiveRun meets start w) (store : w'.store = w.store) (projection : w'.projection = w.projection) :
    LiveRun meets start w'

/-- What every delivery keeps. -/
structure StoreAgrees (w : ProjectionWorld) : Prop where
  reflects : Reflects pg orderId w.store w.projection
  stored : ∀ eventId, w.projection.isProjectionEventApplied eventId = true → eventId ∈ w.store.events.map StoredEvent.eventId
  readable : ∀ s ∈ w.store.events, s.aggregateId = orderId → (pg.readTimestamp (pg.isoString s.occurredAt)).isOk = true
  applies : ∀ s ∈ w.store.events, s.aggregateId = orderId → w.projection.isProjectionEventApplied s.eventId = true →
    Applies pg (s.envelope pg)

variable {pg orderId}

theorem Unknown.agrees {w : ProjectionWorld} (h : Unknown orderId w) : StoreAgrees pg orderId w := by
  constructor
  · have none : appliedEvents orderId w.store w.projection = [] := by
      rw [appliedEvents, List.filter_eq_nil_iff]
      intro s hs
      obtain ⟨hmem, hown⟩ := mem_inOrder.mp hs
      exact absurd hown (h.noEvent s hmem)
    rw [Reflects, none, orderRow, h.noRow]
    rfl
  · exact h.stored
  · intro s hs hown
    exact absurd hown (h.noEvent s hs)
  · intro s hs hown
    exact absurd hown (h.noEvent s hs)

/-! ## One delivery -/

/-- While an event of the order is handled. -/
structure InHand (pg : Postgres) (orderId : String) (e : EventEnvelope) (w : ProjectionWorld) : Prop where
  agrees : StoreAgrees pg orderId w
  inOrder : InOrder pg w e

theorem StoreAgrees.frame (w w' : ProjectionWorld) (store : w'.store = w.store)
    (projection : w'.projection = w.projection) (h : StoreAgrees pg orderId w) : StoreAgrees pg orderId w' := by
  obtain ⟨reflects, stored, readable, applies⟩ := h
  rw [← store, ← projection] at reflects
  refine ⟨reflects, ?_, ?_, ?_⟩
  · rwa [store, projection]
  · rwa [store]
  · rwa [store, projection]

theorem InHand.frame {e : EventEnvelope} (w w' : ProjectionWorld) (store : w'.store = w.store)
    (projection : w'.projection = w.projection) (h : InHand pg orderId e w) : InHand pg orderId e w' := by
  refine ⟨h.agrees.frame w w' store projection, ?_⟩
  have inOrder := h.inOrder
  unfold InOrder at inOrder ⊢
  rwa [store, projection]

theorem InHand.append {e : EventEnvelope} {w : ProjectionWorld} (h : InHand pg orderId e w)
    (unnumbered : sequenceParam e.sequenceNumber = none) {store : EventStore}
    (appended : appendToEventStore pg e w.store = .ok store) :
    InHand pg orderId e { w with store } ∧ e.eventId ∈ store.events.map StoredEvent.eventId := by
  have unmarked : e.eventId ∉ w.store.events.map StoredEvent.eventId →
      w.projection.isProjectionEventApplied e.eventId = false := by
    intro fresh
    by_contra marked
    exact fresh (h.agrees.stored _ (Bool.not_eq_false _ ▸ marked))
  have reflects := h.agrees.reflects.append appended unmarked
  obtain ⟨-, time, htime, ⟨known, rfl⟩ | ⟨fresh, hevents⟩⟩ := appendToEventStore_returns appended
  · exact ⟨h, known⟩
  · rw [unnumbered, Option.getD_none] at hevents
    refine ⟨⟨⟨reflects, ?_, ?_, ?_⟩, ?_⟩, ?_⟩
    · intro eventId marked
      rw [hevents, List.map_cons]
      exact List.mem_cons_of_mem _ (h.agrees.stored eventId marked)
    · rw [hevents, List.forall_mem_cons]
      exact ⟨fun _ => readTimestamp_isoString htime, h.agrees.readable⟩
    · rw [hevents, List.forall_mem_cons]
      refine ⟨fun _ marked => ?_, h.agrees.applies⟩
      change w.projection.isProjectionEventApplied e.eventId = true at marked
      rw [unmarked fresh] at marked
      cases marked
    · intro s hs hid
      rw [hevents] at hs
      rcases List.mem_cons.mp hs with rfl | hs
      · refine ⟨⟨rfl, rfl, rfl, rfl⟩, .inr (.inr ?_)⟩
        intro t ht hown hlater
        rw [hevents] at ht
        rcases List.mem_cons.mp ht with rfl | ht
        · exact absurd hlater (Nat.lt_irrefl _)
        · have hlt := lt_nextSequence ht
          rw [hown] at hlt
          change w.store.nextSequence e.aggregateId < t.sequenceNumber at hlater
          change t.sequenceNumber < w.store.nextSequence e.aggregateId at hlt
          omega
      · exact absurd (hid ▸ List.mem_map_of_mem hs) fresh
    · rw [hevents]
      exact List.mem_cons_self

theorem InHand.apply {e : EventEnvelope} {w : ProjectionWorld} (h : InHand pg orderId e w)
    (about : e.aggregateId = orderId) (known : e.eventId ∈ w.store.events.map StoredEvent.eventId) {clock : Int}
    {db' : ProjectionDb} (once : applyOnce pg clock e w.projection = .ok db') :
    InHand pg orderId e { w with projection := db' } := by
  obtain ⟨s, hs, hid⟩ := List.mem_map.mp known
  obtain ⟨isOf, inPlace⟩ := h.inOrder s hs hid
  have reflects := h.agrees.reflects.apply once about hs isOf inPlace
  cases marked : w.projection.isProjectionEventApplied e.eventId with
  | true =>
    have same := applyOnce_marked once marked
    subst same
    exact h
  | false =>
    have marks := marked_update (applyOnce_unmarked once marked).2
    have only : ∀ s' ∈ w.store.events, s'.eventId = e.eventId → s' = s :=
      fun s' hs' hid' => stored_eq hs' hs (hid'.trans hid.symm)
    refine ⟨⟨reflects, ?_, h.agrees.readable, ?_⟩, ?_⟩
    · intro eventId hmarked
      rcases Bool.or_eq_true_iff.mp ((congrFun marks eventId).symm.trans hmarked) with hmarked | same
      · exact h.agrees.stored eventId hmarked
      · exact of_decide_eq_true same ▸ known
    · intro s' hs' hown hmarked
      rcases Bool.or_eq_true_iff.mp ((congrFun marks s'.eventId).symm.trans hmarked) with hmarked | same
      · exact h.agrees.applies s' hs' hown hmarked
      · obtain rfl := only s' hs' (of_decide_eq_true same)
        have applies : Applies pg e := (applies_iff marked).mpr ⟨_, once⟩
        exact applies_retime applies isOf.eventId isOf.eventType isOf.aggregateId isOf.payload
          (h.agrees.readable s' hs hown)
    · intro s' hs' hid'
      obtain rfl := only s' hs' hid'
      refine ⟨isOf, .inl ?_⟩
      rw [congrFun marks e.eventId]
      simp

/-! ## A run -/

/-- A call of `processEvent` that does what is expected of it when it takes effect. -/
theorem call_keeps {e : EventEnvelope} {c : ProjectionCall} {Q : ProjectionWorld → Prop} {w : ProjectionWorld}
    (h : InHand pg orderId e w)
    (effect : ∀ {acked r t}, (projectionPlatform pg).effect c acked w = .ok (r, t) → InHand pg orderId e t ∧ Q t)
    {α : Type} {f : ProjectionAnswer c → ProjectionProgram α}
    (rest : ∀ r t, InHand pg orderId e t → Q t →
      Safe (projectionPlatform pg) (.alone _ _ _) (fun _ w => InHand pg orderId e w) (f r) t) :
    Safe (projectionPlatform pg) (.alone _ _ _) (fun _ w => InHand pg orderId e w) (perform c >>= f) w := by
  apply Safe.bind
  apply Safe.await
  rintro _ rfl o -
  refine ⟨trivial, ?_⟩
  rcases exec_cases (projectionPlatform pg) c o w with ⟨err, hexec⟩ | ⟨r, t, -, heffect, hexec⟩ |
    ⟨err, r, t, -, heffect, hexec⟩
  · rw [hexec]
    exact h
  · rw [hexec]
    obtain ⟨kept, after⟩ := effect heffect
    exact rest r t kept after
  · rw [hexec]
    exact (effect heffect).1

/-- Whatever fails in it, `processEvent` keeps the agreement. -/
theorem InHand.processEvent {e : EventEnvelope} (about : e.aggregateId = orderId)
    (unnumbered : sequenceParam e.sequenceNumber = none) {w : ProjectionWorld} (h : InHand pg orderId e w) :
    Safe (projectionPlatform pg) (.alone _ _ _) (fun _ w => InHand pg orderId e w) (ProjectionConsumer.processEvent e) w := by
  have appending : ∀ {acked r t}, (projectionPlatform pg).effect (.appendToEventStore e) acked w = .ok (r, t) →
      InHand pg orderId e t ∧ e.eventId ∈ t.store.events.map StoredEvent.eventId := by
    intro acked r t heffect
    obtain ⟨store, appended, rfl⟩ := append_returns heffect
    exact h.append unnumbered appended
  apply call_keeps h appending
  intro _ w₁ h₁ known₁
  have recording : ∀ {acked r t}, (projectionPlatform pg).effect
      (.recordEvent e.aggregateId e.eventType.name (orString e.producer "system")) acked w₁ = .ok (r, t) →
      InHand pg orderId e t ∧ e.eventId ∈ t.store.events.map StoredEvent.eventId := by
    intro acked r t heffect
    cases guarded_returns heffect
    exact ⟨h₁.frame w₁ _ rfl rfl, known₁⟩
  apply call_keeps h₁ recording
  intro _ w₂ h₂ known₂
  rw [← bind_pure (perform (.applyHistoricalEvent e))]
  have applying : ∀ {acked r t}, (projectionPlatform pg).effect (.applyHistoricalEvent e) acked w₂ = .ok (r, t) →
      InHand pg orderId e t ∧ True := by
    intro acked r t heffect
    obtain ⟨db', once, rfl⟩ := application_returns heffect
    exact ⟨h₂.apply about known₂ once, trivial⟩
  apply call_keeps h₂ applying
  intro _ w₃ h₃ _
  exact h₃

theorem live_agrees {w₀ w : ProjectionWorld} (unknown : Unknown orderId w₀)
    (run : LiveRun pg orderId (InOrder pg) w₀ w) : StoreAgrees pg orderId w := by
  induction run with
  | start => exact unknown.agrees
  | @deliver w run d about inOrder ih =>
    cases henvelope : d.envelope with
    | none =>
      apply d.handled_keeps StoreAgrees.frame ?_ ih
      intro e he
      rw [henvelope] at he
      cases he
    | some e =>
      obtain ⟨habout, unnumbered⟩ := about e henvelope
      have start : InHand pg orderId e w := ⟨ih, inOrder e henvelope⟩
      have process : ∀ e', d.envelope = some e' → ∀ w, InHand pg orderId e w →
          Safe (projectionPlatform pg) (.alone _ _ _) (fun _ w => InHand pg orderId e w) (ProjectionConsumer.processEvent e') w := by
        intro e' he' w hw
        rw [henvelope] at he'
        cases he'
        exact hw.processEvent habout unnumbered
      exact (d.handled_keeps InHand.frame process start).agrees
  | elsewhere run store projection ih => exact ih.frame _ _ store projection

def projectionEnvironment : Surroundings where
  now := "2026-01-01T10:00:00.000Z"
  uuid := "00000000-0000-4000-8000-000000000000"
  parseError := { message := "Unexpected token" }
  attempt _ := ⟨fun _ => "2026-01-01T10:00:00.000Z", fun _ => "00000000-0000-4000-8000-000000000000", fun _ => 0, false⟩
  dlqUuid := "11111111-0000-4000-8000-000000000000"
  failedAt := "2026-01-01T10:00:00.000Z"

def projectedText (eventId eventType payload : String) : String :=
  "\x7b\"event_id\":\"" ++ eventId ++ "\",\"event_type\":\"" ++ eventType ++
    "\",\"aggregate_id\":\"ord_1\",\"payload\":" ++ payload ++ "\x7d"

/-- The application fails in every attempt, or nothing fails. -/
def projected (topic eventId eventType payload : String) (fails : Bool) : ProjectionDelivery where
  env := projectionEnvironment
  message := ⟨topic, 0, "0", some (projectedText eventId eventType payload)⟩
  clock := 0
  oracle
    | _, .applyHistoricalEvent _ => if fails then .rejected { message := "Connection terminated" } else .ok
    | _, _ => .ok

def orderCreated : ProjectionDelivery :=
  projected Topics.orders "evt_1" "OrderCreated" "\x7b\"user_id\":\"usr_1\",\"total_amount\":100\x7d" false

def paymentRequested (fails : Bool) : ProjectionDelivery :=
  projected Topics.payments "evt_2" "PaymentRequested" "\x7b\x7d" fails

def paymentAuthorized : ProjectionDelivery :=
  projected Topics.payments "evt_3" "PaymentAuthorized" "\x7b\"payment_id\":\"pay_1\",\"amount\":100\x7d" false

def projectedEvent (eventId : String) (eventType : EventType) (payload : Fields) : EventEnvelope where
  eventId := eventId
  eventType := eventType
  eventVersion := 1
  sequenceNumber := none
  aggregateId := "ord_1"
  aggregateType := "Order"
  occurredAt := "2026-01-01T10:00:00.000Z"
  producer := "legacy-producer"
  correlationId := "ord_1"
  causationId := eventId
  schemaVersion := 1
  payload := payload

def createdEvent : EventEnvelope :=
  projectedEvent "evt_1" .orderCreated [("user_id", .str "usr_1"), ("total_amount", .num 100)]

def requestedEvent : EventEnvelope := projectedEvent "evt_2" .paymentRequested []

def authorizedEvent : EventEnvelope :=
  projectedEvent "evt_3" .paymentAuthorized [("payment_id", .str "pay_1"), ("amount", .num 100)]

theorem orderCreated_read : orderCreated.envelope = some createdEvent := by decide +kernel

theorem paymentRequested_read (fails : Bool) : (paymentRequested fails).envelope = some requestedEvent := by
  change (paymentRequested true).envelope = some requestedEvent
  decide +kernel

theorem paymentAuthorized_read : paymentAuthorized.envelope = some authorizedEvent := by decide +kernel

def unprojected : ProjectionWorld := ⟨.empty, ⟨.empty, fun _ => none⟩, .empty, []⟩

def createdOnly : ProjectionWorld := orderCreated.handledAs .sample createdEvent unprojected

/-- The payment request is dead-lettered. -/
def requestLost : ProjectionWorld := (paymentRequested true).handledAs .sample requestedEvent createdOnly

def overtaken : ProjectionWorld := paymentAuthorized.handledAs .sample authorizedEvent requestLost

def requestedLate : ProjectionWorld := (paymentRequested false).handledAs .sample requestedEvent overtaken

/-- A sample event is delivered. -/
theorem LiveRun.delivered {meets : ProjectionWorld → EventEnvelope → Prop} {start w : ProjectionWorld}
    (run : LiveRun .sample "ord_1" meets start w) {d : ProjectionDelivery} {e : EventEnvelope} (read : d.envelope = some e)
    (about : e.aggregateId = "ord_1" ∧ sequenceParam e.sequenceNumber = none) (each : meets w e) :
    LiveRun .sample "ord_1" meets start (d.handledAs .sample e w) := by
  rw [← ProjectionDelivery.handled_eq .sample read]
  apply run.deliver
  all_goals
    intro e' he'
    rw [read] at he'
    cases he'
    assumption

theorem overtaken_run {meets : ProjectionWorld → EventEnvelope → Prop} (created : meets unprojected createdEvent)
    (requested : meets createdOnly requestedEvent) (authorized : meets requestLost authorizedEvent) :
    LiveRun .sample "ord_1" meets unprojected overtaken := by
  have run₁ : LiveRun .sample "ord_1" meets unprojected createdOnly :=
    LiveRun.start.delivered orderCreated_read ⟨rfl, rfl⟩ created
  have run₂ := run₁.delivered (paymentRequested_read true) ⟨rfl, rfl⟩ requested
  exact run₂.delivered paymentAuthorized_read ⟨rfl, rfl⟩ authorized

end Fulfillment
