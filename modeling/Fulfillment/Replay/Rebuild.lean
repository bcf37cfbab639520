import Fulfillment.Relational.Rebuild
import Fulfillment.Replay.Reached

/-!
# A replay rebuilds its aggregate

From any rows, a replay that applies every stored event ends with the fold of
these events from no rows, as far as the rows are those of the aggregate, and
with the rows of all others as they were.
-/

namespace Fulfillment

open Js Effects Relational

/-- The rows of the order `orderId` as a fold from no rows has them, all other
orders' rows as before. Stock is no part of it. -/
structure Rebuilding (orderId : String) (before folded current : ReadModels) : Prop where
  order : current (.order orderId) = folded (.order orderId)
  otherOrders : ∀ other, other ≠ orderId → current (.order other) = before (.order other)
  payments : Rebuilds PaymentView.orderId orderId (fun k => before (.payment k)) (fun k => folded (.payment k))
    (fun k => current (.payment k))
  shipments : Rebuilds ShipmentView.orderId orderId (fun k => before (.shipment k)) (fun k => folded (.shipment k))
    (fun k => current (.shipment k))

/-- No payment or shipment that the event names is a row of another order. -/
structure NamesNoOther (pg : Postgres) (m : ReadModels) (e : EventEnvelope) : Prop where
  payment : ∀ paymentId, pg.paramText (e.payload.get "payment_id") = some paymentId →
    ∀ row, m (.payment paymentId) = some row → row.orderId = e.aggregateId
  shipment : ∀ shipmentId, pg.paramText (e.payload.get "shipment_id") = some shipmentId →
    ∀ row, m (.shipment shipmentId) = some row → row.orderId = e.aggregateId

/-! ## One change -/

theorem payments_update (m : ReadModels) (paymentId : String) (x : Option PaymentView) :
    (fun k => Function.update m (.payment paymentId) x (.payment k)) =
      Function.update (fun k => m (.payment k)) paymentId x := by
  funext k
  by_cases same : k = paymentId
  · subst same
    rw [Function.update_self, Function.update_self]
  · rw [Function.update_of_ne same, Function.update_of_ne fun h => same (ModelKey.payment.inj h)]

theorem shipments_update (m : ReadModels) (shipmentId : String) (x : Option ShipmentView) :
    (fun k => Function.update m (.shipment shipmentId) x (.shipment k)) =
      Function.update (fun k => m (.shipment k)) shipmentId x := by
  funext k
  by_cases same : k = shipmentId
  · subst same
    rw [Function.update_self, Function.update_self]
  · rw [Function.update_of_ne same, Function.update_of_ne fun h => same (ModelKey.shipment.inj h)]

variable {pg : Postgres} {orderId : String} {before folded current : ReadModels}

/-- A change of the order's own row. -/
theorem Rebuilding.setOrder (h : Rebuilding orderId before folded current) {f : Option OrderView → Option OrderView} :
    Rebuilding orderId before (Function.update folded (.order orderId) (f (folded (.order orderId))))
      (Function.update current (.order orderId) (f (current (.order orderId)))) := by
  constructor
  · rw [Function.update_self, Function.update_self, h.order]
  · intro other hne
    rw [Function.update_of_ne fun same => hne (ModelKey.order.inj same)]
    exact h.otherOrders other hne
  · exact h.payments
  · exact h.shipments

theorem Rebuilding.change (h : Rebuilding orderId before folded current) {e : EventEnvelope} {change : Change}
    (concerns : change.Concerns pg e) (own : e.aggregateId = orderId) (names : NamesNoOther pg before e) :
    Rebuilding orderId before (change.apply folded) (change.apply current) := by
  subst own
  cases concerns with
  | nothing => exact h
  | insertOrder row merge => exact h.setOrder (f := fun old => some (old.elim row merge))
  | updateOrder f => exact h.setOrder (f := fun old => old.map f)
  | insertPayment paymentId row merge named owner keeps =>
    refine ⟨h.order, h.otherOrders, ?_, h.shipments⟩
    simp only [Change.apply, ReadModels.upsert, payments_update]
    exact h.payments.upsert (names.payment paymentId named) owner keeps
  | refundPayments f keeps => exact ⟨h.order, h.otherOrders, h.payments.updateOwned keeps, h.shipments⟩
  | stock sku f => exact ⟨h.order, h.otherOrders, h.payments, h.shipments⟩
  | insertShipment shipmentId row merge named owner keeps =>
    refine ⟨h.order, h.otherOrders, h.payments, ?_⟩
    simp only [Change.apply, ReadModels.upsert, shipments_update]
    exact h.shipments.upsert (names.shipment shipmentId named) owner keeps

theorem Rebuilding.changes (h : Rebuilding orderId before folded current) {e : EventEnvelope} {changes : List Change}
    (concern : ∀ change ∈ changes, change.Concerns pg e) (own : e.aggregateId = orderId)
    (names : NamesNoOther pg before e) :
    Rebuilding orderId before (applyChanges changes folded) (applyChanges changes current) := by
  induction changes generalizing folded current with
  | nil => exact h
  | cons change changes ih =>
    apply ih (h.change (concern change List.mem_cons_self) own names)
    intro change' hchange'
    exact concern change' (List.mem_cons_of_mem _ hchange')

/-! ## One replay -/

/-- No stored event of the aggregate names a payment or a shipment of another order. -/
def NamesOwned (pg : Postgres) (orderId : String) (w : ProjectionWorld) : Prop :=
  ∀ e ∈ getEventsByAggregateId pg orderId w.store, NamesNoOther pg w.projection.models e

/-- The events of an aggregate, one after another, on the tables and on the fold. -/
theorem foldEvents_rebuilding {events : List EventEnvelope} {current' : ReadModels}
    (own : ∀ e ∈ events, e.aggregateId = orderId) (named : ∀ e ∈ events, NamesNoOther pg before e)
    (folds : foldEvents pg events current = .ok current') (h : Rebuilding orderId before folded current) :
    ∃ rebuilt, foldEvents pg events folded = .ok rebuilt ∧ Rebuilding orderId before rebuilt current' := by
  induction events generalizing folded current with
  | nil =>
    cases folds
    exact ⟨folded, rfl, h⟩
  | cons e events ih =>
    obtain ⟨changes, hchanges, hrest⟩ := foldEvents_cons folds
    have hstep : Rebuilding orderId before (applyChanges changes folded) (applyChanges changes current) :=
      h.changes (changesOfEvent_concern hchanges) (own e List.mem_cons_self) (named e List.mem_cons_self)
    obtain ⟨rebuilt, hfold, hrebuilt⟩ := ih (fun e' he' => own e' (List.mem_cons_of_mem _ he'))
      (fun e' he' => named e' (List.mem_cons_of_mem _ he')) hrest hstep
    refine ⟨rebuilt, ?_, hrebuilt⟩
    rw [foldEvents, mutate_eq, hchanges]
    exact hfold

theorem reset_rebuilding (db : ProjectionDb) :
    Rebuilding orderId db.models .empty (resetProjection orderId db).models := by
  constructor
  · simp [resetProjection, ProjectionWorld.deleteAppliedEvents, ReadModels.deleteShipments, ReadModels.deletePayments,
      ReadModels.deleteOrder, ReadModels.empty]
  · intro other hne
    have hkey : ModelKey.order other ≠ .order orderId := fun same => hne (ModelKey.order.inj same)
    simp [resetProjection, ProjectionWorld.deleteAppliedEvents, ReadModels.deleteShipments, ReadModels.deletePayments,
      ReadModels.deleteOrder, Function.update_of_ne hkey]
  · exact Rebuilds.start
  · exact Rebuilds.start

/-! ## Replays -/

/-- The rows of others stay those of others. -/
theorem Rebuilding.namesNoOther {e : EventEnvelope} (h : Rebuilding orderId before folded current)
    (own : e.aggregateId = orderId) (names : NamesNoOther pg before e) : NamesNoOther pg current e := by
  subst own
  constructor
  · intro paymentId named row hrow
    by_contra other
    exact other (names.payment paymentId named row ((h.payments.others paymentId row other).mp hrow))
  · intro shipmentId named row hrow
    by_contra other
    exact other (names.shipment shipmentId named row ((h.shipments.others shipmentId row other).mp hrow))

theorem Replayable.rebuilds {w : ProjectionWorld} (h : Replayable pg orderId w) (named : NamesOwned pg orderId w) :
    NamesOwned pg orderId (replayed pg orderId w).state ∧
    ∃ rebuilt, foldEvents pg (reached pg orderId w) .empty = .ok rebuilt ∧
      Rebuilding orderId w.projection.models rebuilt (replayed pg orderId w).state.projection.models := by
  obtain ⟨rebuilt, hfold, hrebuilt⟩ := foldEvents_rebuilding (fun e he => getEvents_own e (mem_untilOverflow he))
    (fun e he => named e (mem_untilOverflow he)) h.folds (reset_rebuilding w.projection)
  refine ⟨?_, rebuilt, hfold, hrebuilt⟩
  rw [NamesOwned, h.store]
  intro e he
  exact hrebuilt.namesNoOther (getEvents_own e he) (named e he)

/-- A replay that changed the rows of others in nothing can be forgotten. -/
theorem Rebuilding.trans {folded' current' : ReadModels} (first : Rebuilding orderId before folded current)
    (second : Rebuilding orderId current folded' current') : Rebuilding orderId before folded' current' := by
  constructor
  · exact second.order
  · intro other hne
    exact (second.otherOrders other hne).trans (first.otherOrders other hne)
  · refine ⟨second.payments.own, ?_⟩
    intro k row other
    exact (second.payments.others k row other).trans (first.payments.others k row other)
  · refine ⟨second.shipments.own, ?_⟩
    intro k row other
    exact (second.shipments.others k row other).trans (first.shipments.others k row other)

/-- The last of some replays decides the rows: they are the fold of the events that it reaches. -/
theorem replays_rebuild (n : Nat) {w : ProjectionWorld} (h : Replayable pg orderId w) (named : NamesOwned pg orderId w) :
    (replays pg orderId (n + 1) w).store = w.store ∧
    ∃ rebuilt, foldEvents pg (untilOverflow pg (getEventsByAggregateId pg orderId w.store)
        (stockAfter pg (getEventsByAggregateId pg orderId w.store) n (stockLevel w.projection.models))) .empty = .ok rebuilt ∧
      Rebuilding orderId w.projection.models rebuilt (replays pg orderId (n + 1) w).projection.models := by
  obtain ⟨hnamed, rebuilt, hfold, hrebuilt⟩ := h.rebuilds named
  induction n generalizing w rebuilt with
  | zero => exact ⟨h.store, rebuilt, hfold, hrebuilt⟩
  | succ n ih =>
    obtain ⟨hnamed', rebuilt', hfold', hrebuilt'⟩ := h.again.rebuilds hnamed
    obtain ⟨hstores, rebuilts, hfolds, hrebuilts⟩ := ih h.again hnamed hnamed' rebuilt' hfold' hrebuilt'
    rw [h.store, h.stock] at hfolds
    exact ⟨hstores.trans h.store, rebuilts, hfolds, hrebuilt.trans hrebuilts⟩

/-- A fold of the order's events from no rows makes no other row. -/
theorem folded_only {events : List EventEnvelope} {m : ReadModels} (own : ∀ e ∈ events, e.aggregateId = orderId)
    (folds : foldEvents pg events .empty = .ok m) :
    (∀ other, other ≠ orderId → m (.order other) = none) ∧ ∀ sku, m (.inventory sku) = none := by
  have start : Rebuilding orderId .empty .empty .empty :=
    ⟨rfl, fun _ _ => rfl, ⟨by simp [ReadModels.empty], by simp⟩, ⟨by simp [ReadModels.empty], by simp⟩⟩
  have named : ∀ e ∈ events, NamesNoOther pg .empty e := by
    intro e _
    constructor
    · intro paymentId _ row hrow
      cases hrow
    · intro shipmentId _ row hrow
      cases hrow
  obtain ⟨m', hfold, rebuilding⟩ := foldEvents_rebuilding own named folds start
  rw [folds] at hfold
  cases hfold
  refine ⟨rebuilding.otherOrders, ?_⟩
  intro sku
  have level : stockLevel m sku = none := congrFun (foldEvents_stock folds) sku
  exact Option.map_eq_none_iff.mp level

/-- Rows are rebuilt from one fold only. -/
theorem Rebuilding.unique {folded' : ReadModels} (h : Rebuilding orderId before folded current)
    (h' : Rebuilding orderId before folded' current)
    (only : (∀ other, other ≠ orderId → folded (.order other) = none) ∧ ∀ sku, folded (.inventory sku) = none)
    (only' : (∀ other, other ≠ orderId → folded' (.order other) = none) ∧ ∀ sku, folded' (.inventory sku) = none) :
    folded = folded' := by
  funext k
  cases k with
  | order id =>
    by_cases same : id = orderId
    · subst same
      rw [← h.order, h'.order]
    · rw [only.1 id same, only'.1 id same]
  | payment id =>
    apply Option.ext
    intro row
    rw [← h.payments.own id row, h'.payments.own id row]
  | inventory sku => rw [only.2 sku, only'.2 sku]
  | shipment id =>
    apply Option.ext
    intro row
    rw [← h.shipments.own id row, h'.shipments.own id row]

/-- Whatever the tables held, a replay that succeeds folds the stored events of
its aggregate from no rows. Any number of further ones leave the aggregate's
rows as that fold, those of other orders and the event store as they were, just
when the events that the last of them reaches fold to the same rows. -/
theorem replays_rebuild_iff (orderId : String) (w : ProjectionWorld) (marked : MarkersOwned pg orderId w)
    (named : NamesOwned pg orderId w)
    (success : ∃ r, (replayed pg orderId w).value = .ok r ∧ r.status = .success) :
    ∃ rebuilt, foldEvents pg (getEventsByAggregateId pg orderId w.store) .empty = .ok rebuilt ∧
      ∀ n, ((replays pg orderId (n + 1) w).store = w.store ∧
          Rebuilding orderId w.projection.models rebuilt (replays pg orderId (n + 1) w).projection.models) ↔
        foldEvents pg (untilOverflow pg (getEventsByAggregateId pg orderId w.store)
          (stockAfter pg (getEventsByAggregateId pg orderId w.store) n (stockLevel w.projection.models))) .empty =
            .ok rebuilt := by
  have h := replayable_of_success marked success
  have all := ((success_iff marked h.fits).mp success).2
  obtain ⟨-, rebuilt, hfold, -⟩ := h.rebuilds named
  rw [all] at hfold
  refine ⟨rebuilt, hfold, ?_⟩
  intro n
  obtain ⟨hstore, last, hlast, hrebuilt⟩ := replays_rebuild n h named
  rw [hlast, Except.ok.injEq]
  constructor
  · rintro ⟨-, hrebuilt'⟩
    exact hrebuilt.unique hrebuilt' (folded_only (fun e he => getEvents_own e (mem_untilOverflow he)) hlast)
      (folded_only getEvents_own hfold)
  · rintro rfl
    exact ⟨hstore, hrebuilt⟩

/-! ## A corrupted order -/

def sampleStored (eventId : String) (eventType : EventType) (sequenceNumber : Nat) (payload : Fields) : StoredEvent where
  eventId := eventId
  aggregateId := "ord_1"
  aggregateType := "Order"
  eventType := eventType
  eventVersion := 1
  sequenceNumber := sequenceNumber
  payload := payload
  correlationId := "corr_1"
  causationId := "cause_1"
  producer := "api"
  occurredAt := 1767261600000

def corruptedWorld : ProjectionWorld where
  world := .empty
  projection :=
    { models := ReadModels.upsert (.order "ord_1")
        { userId := "usr_x", status := "corrupt", totalAmount := 1, currency := "EUR", items := .null,
          paymentId := some "pay_x", reservationId := none, fraudCheckId := none, shipmentId := none,
          trackingNumber := none, failureReason := none, createdAt := 0, updatedAt := 0, version := 7 } id .empty
      applied := fun key => if key = markerOf "evt_1" then some ⟨"ord_1", 0⟩ else none }
  store :=
    { events :=
        [ sampleStored "evt_2" .paymentRequested 2 [],
          sampleStored "evt_1" .orderCreated 1 [("user_id", .str "usr_1"), ("total_amount", .num 100)] ]
      uniqueId := by decide
      uniquePosition := by decide }
  orderEvents := []

/-- An event of the corrupted order is the request or the creation. -/
theorem corruptedWorld_events (P : EventEnvelope → Prop)
    (requested : P ((sampleStored "evt_2" .paymentRequested 2 []).envelope .sample))
    (created : P ((sampleStored "evt_1" .orderCreated 1
      [("user_id", .str "usr_1"), ("total_amount", .num 100)]).envelope .sample)) :
    ∀ e ∈ getEventsByAggregateId .sample "ord_1" corruptedWorld.store, P e := by
  intro e he
  obtain ⟨stored, hstored, rfl⟩ := List.mem_map.mp he
  have hmem := (mem_inOrder.mp hstored).1
  simp only [corruptedWorld, List.mem_cons, List.not_mem_nil, or_false] at hmem
  rcases hmem with rfl | rfl
  · exact requested
  · exact created

theorem corruptedWorld_marked : MarkersOwned .sample "ord_1" corruptedWorld := by
  intro e _ row hrow
  simp only [corruptedWorld] at hrow
  split at hrow
  · cases hrow
    rfl
  · cases hrow

/-- Replays of a corrupted order leave what its two events make. -/
theorem corrupted_order_rebuilt :
    ∃ rebuilt, foldEvents .sample (getEventsByAggregateId .sample "ord_1" corruptedWorld.store) .empty = .ok rebuilt ∧
      ∀ n, (replays .sample "ord_1" (n + 1) corruptedWorld).store = corruptedWorld.store ∧
        Rebuilding "ord_1" corruptedWorld.projection.models rebuilt
          (replays .sample "ord_1" (n + 1) corruptedWorld).projection.models := by
  have named : NamesOwned .sample "ord_1" corruptedWorld := by
    intro e _
    constructor
    · intro paymentId _ row hrow
      cases hrow
    · intro shipmentId _ row hrow
      cases hrow
  have unmoved : ∀ levels, untilOverflow .sample (getEventsByAggregateId .sample "ord_1" corruptedWorld.store) levels =
      getEventsByAggregateId .sample "ord_1" corruptedWorld.store := by
    intro levels
    apply untilOverflow_unmoved
    apply corruptedWorld_events
    · intro sku
      rfl
    · intro sku
      rfl
  obtain ⟨rebuilt, hfold, hiff⟩ := replays_rebuild_iff "ord_1" corruptedWorld corruptedWorld_marked named <| by
    rw [success_iff corruptedWorld_marked (by decide)]
    refine ⟨?_, unmoved _⟩
    apply corruptedWorld_events
    · decide
    · decide +kernel
  refine ⟨rebuilt, hfold, ?_⟩
  intro n
  apply (hiff n).mpr
  rw [unmoved]
  exact hfold

/-! ## An order of negative quantity -/

/-- An order of -800000000 laptops, as the live events left it. -/
def negativeWorld : ProjectionWorld where
  world := .empty
  projection :=
    { models := ReadModels.upsert (.inventory "LAPTOP-001")
        { name := "Workstation", totalStock := 100, reservedStock := -800000000, availableStock := 800000100,
          updatedAt := 0 } id
        (ReadModels.upsert (.order "ord_1")
          { userId := "usr_1", status := "completed", totalAmount := -8000000, currency := "USD", items := .arr [],
            paymentId := none, reservationId := some "res_1", fraudCheckId := none, shipmentId := none,
            trackingNumber := none, failureReason := none, createdAt := 0, updatedAt := 0, version := 1 } id .empty)
      applied := fun key =>
        if key ∈ [markerOf "evt_1", markerOf "evt_2", markerOf "evt_3"] then some ⟨"ord_1", 0⟩ else none }
  store :=
    { events :=
        [ sampleStored "evt_3" .orderCompleted 3 [],
          sampleStored "evt_2" .inventoryReserved 2
            [ ("reservation_id", .str "res_1"),
              ("items", .arr [.obj [("sku", .str "LAPTOP-001"), ("quantity", .num (-800000000))]]) ],
          sampleStored "evt_1" .orderCreated 1 [("user_id", .str "usr_1"), ("total_amount", .num (-8000000))] ]
      uniqueId := by decide
      uniquePosition := by decide }
  orderEvents := []

/-- The first replay succeeds. The second finds -1600000000 reserved, is refused
there and leaves the order pending. -/
theorem half_rebuilt :
    MarkersOwned .sample "ord_1" negativeWorld ∧ NamesOwned .sample "ord_1" negativeWorld ∧
    (∃ r, (replayed .sample "ord_1" negativeWorld).value = .ok r ∧ r.status = .success) ∧
    ∀ rebuilt, foldEvents .sample (getEventsByAggregateId .sample "ord_1" negativeWorld.store) .empty = .ok rebuilt →
      ¬Rebuilding "ord_1" negativeWorld.projection.models rebuilt
        (replays .sample "ord_1" 2 negativeWorld).projection.models := by
  refine ⟨?_, ?_, status_of_toOption (by decide +kernel), ?_⟩
  · intro e _ row hrow
    simp only [negativeWorld] at hrow
    split at hrow
    · cases hrow
      rfl
    · cases hrow
  · intro e _
    constructor
    · intro paymentId _ row hrow
      cases hrow
    · intro shipmentId _ row hrow
      cases hrow
  · intro rebuilt hfold rebuilding
    have completed : (foldEvents .sample (getEventsByAggregateId .sample "ord_1" negativeWorld.store) .empty).toOption.bind
        (fun m => (m (.order "ord_1")).map OrderView.status) = some "completed" := by
      decide +kernel
    have pending : ((replays .sample "ord_1" 2 negativeWorld).projection.models (.order "ord_1")).map OrderView.status =
        some "pending" := by
      decide +kernel
    rw [rebuilding.order] at pending
    rw [hfold] at completed
    exact absurd (completed.symm.trans pending) (by decide)

end Fulfillment
