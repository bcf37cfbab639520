import Fulfillment.Projection.Conservation
import Fulfillment.Projection.Rows
import Fulfillment.Projection.StockRange
import Fulfillment.Relational.ClampedShift

/-!
# Events of different orders

Two events of unrelated orders write no order, payment or shipment row in
common. They meet in the stock, where their moves commute at some counters and
not at others, and where one event can take a counter so far that the other is
refused.
-/

namespace Fulfillment

open Js Effects Relational

variable {pg : Postgres} {clock : Int}

/-! ## Rows that an event is not about -/

/-- The row is not the event's: neither its order's nor one that its payload names. -/
def Foreign (pg : Postgres) (e : EventEnvelope) : (k : ModelKey) → Option (ModelRow k) → Prop
  | .order orderId, _ => orderId ≠ e.aggregateId
  | .payment paymentId, row =>
    pg.paramText (e.payload.get "payment_id") ≠ some paymentId ∧
      ∀ view : PaymentView, row = some view → view.orderId ≠ e.aggregateId
  | .shipment shipmentId, _ => pg.paramText (e.payload.get "shipment_id") ≠ some shipmentId
  | .inventory _, _ => False

theorem foreign_frame {e : EventEnvelope} {change : Change} (h : change.Concerns pg e) {m : ReadModels} {k : ModelKey}
    (foreign : Foreign pg e k (m k)) : change.apply m k = m k := by
  apply change_unlocked
  cases h with
  | nothing => rfl
  | insertOrder row merge =>
    apply decide_eq_false
    rintro rfl
    exact foreign rfl
  | updateOrder f =>
    rw [Change.locks, Bool.and_eq_false_iff]
    left
    apply decide_eq_false
    rintro rfl
    exact foreign rfl
  | insertPayment paymentId row merge named owner keeps =>
    apply decide_eq_false
    rintro rfl
    exact foreign.1 named
  | refundPayments f keeps =>
    cases k with
    | payment paymentId =>
      cases hrow : m (.payment paymentId) with
      | none => rfl
      | some view => exact decide_eq_false (foreign.2 view hrow)
    | order _ | inventory _ | shipment _ => rfl
  | stock sku f =>
    rw [Change.locks, Bool.and_eq_false_iff]
    left
    apply decide_eq_false
    rintro rfl
    exact foreign
  | insertShipment shipmentId row merge named owner keeps =>
    apply decide_eq_false
    rintro rfl
    exact foreign named

/-- A row stays foreign when events of other orders write it. -/
theorem foreign_kept {e e' : EventEnvelope} (other : e'.aggregateId ≠ e.aggregateId) {change : Change}
    (h : change.Concerns pg e') {m : ReadModels} {k : ModelKey} (foreign : Foreign pg e k (m k)) :
    Foreign pg e k (change.apply m k) := by
  cases k with
  | order _ | shipment _ | inventory _ => exact foreign
  | payment paymentId =>
    obtain ⟨unnamed, owner⟩ := foreign
    refine ⟨unnamed, ?_⟩
    intro view hview
    cases h with
    | nothing | insertOrder | updateOrder | stock | insertShipment =>
      rw [change_unlocked (by simp [Change.locks])] at hview
      exact owner view hview
    | insertPayment paymentId' row merge named owned keeps =>
      by_cases same : ModelKey.payment paymentId = .payment paymentId'
      · cases same
        rw [Change.apply, ReadModels.upsert_self] at hview
        cases hrow : m (.payment paymentId) with
        | none =>
          rw [hrow] at hview
          cases hview
          exact owned ▸ other
        | some old =>
          rw [hrow] at hview
          cases hview
          exact (keeps old).symm ▸ owner old hrow
      · rw [Change.apply, ReadModels.upsert_of_ne m same] at hview
        exact owner view hview
    | refundPayments f keeps =>
      simp only [Change.apply, ReadModels.updatePayments] at hview
      obtain ⟨old, hrow, hview⟩ := Option.map_eq_some_iff.mp hview
      have owned : view.orderId = old.orderId := by
        split at hview <;> cases hview
        · exact keeps old
        · rfl
      exact owned ▸ owner old hrow

theorem foreign_frame_all {e : EventEnvelope} {changes : List Change} (h : ∀ change ∈ changes, change.Concerns pg e)
    {m : ReadModels} {k : ModelKey} (foreign : Foreign pg e k (m k)) : applyChanges changes m k = m k := by
  induction changes generalizing m with
  | nil => rfl
  | cons change changes ih =>
    obtain ⟨first, others⟩ := List.forall_mem_cons.mp h
    have frame := foreign_frame first foreign
    have foreign' : Foreign pg e k (change.apply m k) := by rwa [frame]
    exact (ih others foreign').trans frame

theorem foreign_kept_all {e e' : EventEnvelope} (other : e'.aggregateId ≠ e.aggregateId) {changes : List Change}
    (h : ∀ change ∈ changes, change.Concerns pg e') {m : ReadModels} {k : ModelKey} (foreign : Foreign pg e k (m k)) :
    Foreign pg e k (applyChanges changes m k) := by
  induction changes generalizing m with
  | nil => exact foreign
  | cons change changes ih =>
    obtain ⟨first, others⟩ := List.forall_mem_cons.mp h
    exact ih others (foreign_kept other first foreign)

/-- Where a row is foreign to the first of two events, only the second counts. -/
theorem foreign_rows {e e' : EventEnvelope} (other : e'.aggregateId ≠ e.aggregateId) {changes changes' : List Change}
    (h : ∀ change ∈ changes, change.Concerns pg e) (h' : ∀ change ∈ changes', change.Concerns pg e') {m : ReadModels}
    {k : ModelKey} (foreign : Foreign pg e k (m k)) :
    applyChanges changes' (applyChanges changes m) k = applyChanges changes' m k ∧
      applyChanges changes (applyChanges changes' m) k = applyChanges changes' m k :=
  ⟨applyChanges_congr changes' (foreign_frame_all h foreign), foreign_frame_all h (foreign_kept_all other h' foreign)⟩

/-- The two events are of different orders, name different payments and
shipments, and neither names a payment of the other's order. -/
structure Unrelated (pg : Postgres) (e e' : EventEnvelope) (m : ReadModels) : Prop where
  orders : e.aggregateId ≠ e'.aggregateId
  payments : ∀ paymentId, pg.paramText (e.payload.get "payment_id") = some paymentId →
    pg.paramText (e'.payload.get "payment_id") ≠ some paymentId
  shipments : ∀ shipmentId, pg.paramText (e.payload.get "shipment_id") = some shipmentId →
    pg.paramText (e'.payload.get "shipment_id") ≠ some shipmentId
  owned : ∀ paymentId view, pg.paramText (e.payload.get "payment_id") = some paymentId →
    m (.payment paymentId) = some view → view.orderId ≠ e'.aggregateId
  owned' : ∀ paymentId view, pg.paramText (e'.payload.get "payment_id") = some paymentId →
    m (.payment paymentId) = some view → view.orderId ≠ e.aggregateId

theorem Unrelated.foreign {e e' : EventEnvelope} {m : ReadModels} (h : Unrelated pg e e' m) {k : ModelKey}
    (noStock : k.table ≠ .inventory) : Foreign pg e k (m k) ∨ Foreign pg e' k (m k) := by
  cases k with
  | inventory _ => exact absurd rfl noStock
  | order orderId =>
    by_cases own : orderId = e.aggregateId
    · exact .inr (own ▸ h.orders)
    · exact .inl own
  | shipment shipmentId =>
    by_cases named : pg.paramText (e.payload.get "shipment_id") = some shipmentId
    · exact .inr (h.shipments shipmentId named)
    · exact .inl named
  | payment paymentId =>
    by_cases named : pg.paramText (e.payload.get "payment_id") = some paymentId
    · exact .inr ⟨h.payments paymentId named, fun view hview => h.owned paymentId view named hview⟩
    · by_cases named' : pg.paramText (e'.payload.get "payment_id") = some paymentId
      · exact .inl ⟨named, fun view hview => h.owned' paymentId view named' hview⟩
      · -- neither names the payment, and its row has one owner
        by_cases own : ∃ view, m (.payment paymentId) = some view ∧ view.orderId = e.aggregateId
        · obtain ⟨view, hview, owner⟩ := own
          right
          refine ⟨named', ?_⟩
          intro view' hview'
          rw [hview] at hview'
          cases hview'
          exact owner ▸ h.orders
        · left
          exact ⟨named, fun view hview owner => own ⟨view, hview, owner⟩⟩

/-! ## Moves of stock as shifts of its counters -/

namespace StockMove

def onReserved : StockMove → ClampedShift
  | .reserve quantity => ⟨none, quantity⟩
  | .release quantity => ⟨some 0, -quantity⟩

def onAvailable : StockMove → ClampedShift
  | .reserve quantity => ⟨some 0, -quantity⟩
  | .release quantity => ⟨none, quantity⟩

theorem apply_shifts (move : StockMove) (s : StockLevel) :
    move.apply s = ⟨move.onReserved.apply s.reserved, move.onAvailable.apply s.available⟩ := by
  cases move <;> rfl

end StockMove

/-- The shifts of some moves, one after the other. -/
def shiftBy (counter : StockMove → ClampedShift) : List StockMove → ClampedShift
  | [] => .id
  | move :: moves => (counter move).andThen (shiftBy counter moves)

theorem runMoves_shifts (moves : List StockMove) (s : StockLevel) :
    runMoves moves s =
      ⟨(shiftBy StockMove.onReserved moves).apply s.reserved, (shiftBy StockMove.onAvailable moves).apply s.available⟩ := by
  induction moves generalizing s with
  | nil => simp [shiftBy]
  | cons move moves ih =>
    rw [runMoves_cons, ih, shiftBy, shiftBy, ClampedShift.apply_andThen, ClampedShift.apply_andThen,
      StockMove.apply_shifts]

/-- On each counter, either order lifts to one floor or neither order lifts. -/
def MovesCommute (moves moves' : List StockMove) (s : StockLevel) : Prop :=
  (shiftBy StockMove.onReserved moves).CommuteAt (shiftBy StockMove.onReserved moves') s.reserved ∧
  (shiftBy StockMove.onAvailable moves).CommuteAt (shiftBy StockMove.onAvailable moves') s.available

theorem movesCommute_iff (moves moves' : List StockMove) (s : StockLevel) :
    MovesCommute moves moves' s ↔ runMoves moves' (runMoves moves s) = runMoves moves (runMoves moves' s) := by
  rw [MovesCommute, ClampedShift.commuteAt_iff, ClampedShift.commuteAt_iff]
  simp only [runMoves_shifts, StockLevel.mk.injEq]

/-- On each counter, the moves of the two lists lead to the same place. -/
def MovesAgree (moves moves' : List StockMove) (s : StockLevel) : Prop :=
  (shiftBy StockMove.onReserved moves).AgreeAt (shiftBy StockMove.onReserved moves') s.reserved ∧
  (shiftBy StockMove.onAvailable moves).AgreeAt (shiftBy StockMove.onAvailable moves') s.available

theorem movesAgree_iff (moves moves' : List StockMove) (s : StockLevel) :
    MovesAgree moves moves' s ↔ runMoves moves s = runMoves moves' s := by
  rw [MovesAgree, ClampedShift.agreeAt_iff, ClampedShift.agreeAt_iff]
  simp only [runMoves_shifts, StockLevel.mk.injEq]

/-! ## Moves of positive quantities -/

theorem takeAll_of_nonneg {quantities : List Int} (nonneg : ∀ quantity ∈ quantities, 0 ≤ quantity) {a : Int} (ha : 0 ≤ a) :
    takeAll quantities a = max 0 (a - quantities.sum) := by
  induction quantities generalizing a with
  | nil =>
    simp only [takeAll, List.foldl_nil, List.sum_nil]
    omega
  | cons quantity quantities ih =>
    obtain ⟨first, others⟩ := List.forall_mem_cons.mp nonneg
    have rest := List.sum_nonneg others
    have step : takeAll (quantity :: quantities) a = takeAll quantities (max 0 (a - quantity)) := rfl
    rw [step, ih others (Int.le_max_left ..), List.sum_cons]
    omega

theorem takeAll_comm {quantities quantities' : List Int} (nonneg : ∀ quantity ∈ quantities, 0 ≤ quantity)
    (nonneg' : ∀ quantity ∈ quantities', 0 ≤ quantity) {a : Int} (ha : 0 ≤ a) :
    takeAll quantities' (takeAll quantities a) = takeAll quantities (takeAll quantities' a) := by
  have total := List.sum_nonneg nonneg
  have total' := List.sum_nonneg nonneg'
  rw [takeAll_of_nonneg nonneg ha, takeAll_of_nonneg nonneg' ha, takeAll_of_nonneg nonneg' (Int.le_max_left ..),
    takeAll_of_nonneg nonneg (Int.le_max_left ..)]
  omega

/-- Two reservations commute. -/
theorem reservations_commute {quantities quantities' : List Int} (nonneg : ∀ quantity ∈ quantities, 0 ≤ quantity)
    (nonneg' : ∀ quantity ∈ quantities', 0 ≤ quantity) {s : StockLevel} (available : 0 ≤ s.available) :
    MovesCommute (quantities.map .reserve) (quantities'.map .reserve) s := by
  rw [movesCommute_iff]
  simp only [runMoves_reserve, StockLevel.mk.injEq]
  exact ⟨by omega, takeAll_comm nonneg nonneg' available⟩

/-- Two releases commute. -/
theorem releases_commute {quantities quantities' : List Int} (nonneg : ∀ quantity ∈ quantities, 0 ≤ quantity)
    (nonneg' : ∀ quantity ∈ quantities', 0 ≤ quantity) {s : StockLevel} (reserved : 0 ≤ s.reserved) :
    MovesCommute (quantities.map .release) (quantities'.map .release) s := by
  rw [movesCommute_iff]
  simp only [runMoves_release, StockLevel.mk.injEq]
  exact ⟨takeAll_comm nonneg nonneg' reserved, by omega⟩

/-- A reservation and a release commute if the one finds enough available
before, and the other enough reserved. -/
theorem reservation_release_commute_iff {quantities released : List Int} (nonneg : ∀ quantity ∈ quantities, 0 ≤ quantity)
    (nonneg' : ∀ quantity ∈ released, 0 ≤ quantity) {s : StockLevel} (reserved : 0 ≤ s.reserved)
    (available : 0 ≤ s.available) :
    MovesCommute (quantities.map .reserve) (released.map .release) s ↔
      (released.sum = 0 ∨ quantities.sum ≤ s.available) ∧ (quantities.sum = 0 ∨ released.sum ≤ s.reserved) := by
  have total := List.sum_nonneg nonneg
  have total' := List.sum_nonneg nonneg'
  rw [movesCommute_iff]
  simp only [runMoves_reserve, runMoves_release, StockLevel.mk.injEq]
  rw [takeAll_of_nonneg nonneg available, takeAll_of_nonneg nonneg' reserved,
    takeAll_of_nonneg nonneg (Int.add_nonneg available total'), takeAll_of_nonneg nonneg' (Int.add_nonneg reserved total)]
  omega

/-! ## Two events -/

/-- A row without its time of update. -/
def ModelKey.undated : (k : ModelKey) → ModelRow k → ModelRow k
  | .order _, row => { row with updatedAt := 0 }
  | .payment _, row => { row with updatedAt := 0 }
  | .inventory _, row => { row with updatedAt := 0 }
  | .shipment _, row => { row with updatedAt := 0 }

/-- The same orders, payments and shipments up to their times of update, and the same stock. -/
structure SameViews (m m' : ReadModels) : Prop where
  rows : ∀ k : ModelKey, k.table ≠ .inventory → (m k).map k.undated = (m' k).map k.undated
  stock : ∀ sku, stockLevel m sku = stockLevel m' sku

/-- The tables after an event, applied or refused. -/
def applied (pg : Postgres) (clock : Int) (e : EventEnvelope) (db : ProjectionDb) : ProjectionDb :=
  (transact (boundedStatements pg clock) .allOk (executeInTx e) db).2

/-- A new event is not refused: PostgreSQL takes its statements, and its moves hold. -/
def Taken (pg : Postgres) (e : EventEnvelope) (levels : StockLevels) : Prop := Applies pg e ∧ EventHolds pg e levels

instance (e : EventEnvelope) (levels : StockLevels) : Decidable (Taken pg e levels) := inferInstanceAs (Decidable (_ ∧ _))

/-- The changes of an event, none if PostgreSQL refuses one of its statements for what it says. -/
def eventChanges (pg : Postgres) (e : EventEnvelope) : List Change := ((changesOfEvent pg e).toOption).getD []

/-- The changes of an event, none if it is refused. -/
def effectiveChanges (pg : Postgres) (e : EventEnvelope) (levels : StockLevels) : List Change :=
  if Taken pg e levels then eventChanges pg e else []

/-- The moves of an event, none if it is refused. -/
def effectiveMoves (pg : Postgres) (sku : String) (e : EventEnvelope) (levels : StockLevels) : List StockMove :=
  if Taken pg e levels then stockMoves pg sku e else []

/-- The stock after an event, applied or refused. -/
def levelsAfter (pg : Postgres) (e : EventEnvelope) (levels : StockLevels) : StockLevels :=
  fun sku => (levels sku).map (runMoves (effectiveMoves pg sku e levels))

theorem eventChanges_concern (e : EventEnvelope) : ∀ change ∈ eventChanges pg e, change.Concerns pg e := by
  intro change hchange
  unfold eventChanges at hchange
  cases hchanges : changesOfEvent pg e with
  | error err =>
    rw [hchanges] at hchange
    cases hchange
  | ok changes =>
    rw [hchanges] at hchange
    exact changesOfEvent_concern hchanges change hchange

theorem effectiveChanges_concern (e : EventEnvelope) (levels : StockLevels) :
    ∀ change ∈ effectiveChanges pg e levels, change.Concerns pg e := by
  intro change hchange
  unfold effectiveChanges at hchange
  split at hchange
  · exact eventChanges_concern e change hchange
  · cases hchange

theorem effectiveChanges_stock (e : EventEnvelope) (levels : StockLevels) (sku : String) (m : ReadModels) :
    stockLevel (applyChanges (effectiveChanges pg e levels) m) sku =
      (stockLevel m sku).map (runMoves (effectiveMoves pg sku e levels)) := by
  by_cases taken : Taken pg e levels
  · obtain ⟨changes, hchanges⟩ := ok_of_isOk taken.1.2.1
    rw [effectiveChanges, effectiveMoves, if_pos taken, if_pos taken, eventChanges, hchanges]
    exact changesOfEvent_stock hchanges sku m
  · rw [effectiveChanges, effectiveMoves, if_neg taken, if_neg taken, runMoves_nil, Option.map_id]
    rfl

theorem applied_eq (e : EventEnvelope) (db : ProjectionDb) :
    applyBounded pg clock e db = .ok (applied pg clock e db) ∨
      (∀ db', applyBounded pg clock e db ≠ .ok db') ∧ applied pg clock e db = db := by
  unfold applied applyBounded
  cases hv : (transact (boundedStatements pg clock) .allOk (executeInTx e) db).1 with
  | ok r =>
    left
    rw [← Prod.eta (transact (boundedStatements pg clock) .allOk (executeInTx e) db), hv]
  | error err =>
    right
    have unchanged := transact_throws hv (by simp [TxOutcomes.allOk])
    rw [← Prod.eta (transact (boundedStatements pg clock) .allOk (executeInTx e) db), hv]
    exact ⟨by simp, unchanged⟩

theorem applied_models {e : EventEnvelope} {db : ProjectionDb} (fresh : db.isProjectionEventApplied e.eventId = false) :
    (applied pg clock e db).models = applyChanges (effectiveChanges pg e (stockLevel db.models)) db.models := by
  rcases @applied_eq pg clock e db with happlied | ⟨refused, unchanged⟩
  · obtain ⟨once, holds⟩ := applyBounded_iff.mp happlied
    have applies := (applies_iff fresh).mpr ⟨_, once⟩
    obtain ⟨changes, hchanges⟩ := ok_of_isOk applies.2.1
    have mutated := (applyOnce_unmarked once fresh).1
    rw [mutate_eq, hchanges] at mutated
    rw [effectiveChanges, if_pos ⟨applies, holds fresh⟩, eventChanges, hchanges]
    exact (Except.ok.inj mutated).symm
  · have untaken : ¬Taken pg e (stockLevel db.models) := by
      rintro ⟨applies, holds⟩
      obtain ⟨db', once⟩ := (@applies_iff pg clock e db fresh).mp applies
      exact refused db' (applyBounded_iff.mpr ⟨once, fun _ => holds⟩)
    rw [unchanged, effectiveChanges, if_neg untaken]
    rfl

/-- The other event stays unmarked. -/
theorem applied_unmarked {e e' : EventEnvelope} {db : ProjectionDb} (fresh : db.isProjectionEventApplied e.eventId = false)
    (other : e'.eventId ≠ e.eventId) (fresh' : db.isProjectionEventApplied e'.eventId = false) :
    (applied pg clock e db).isProjectionEventApplied e'.eventId = false := by
  rcases @applied_eq pg clock e db with happlied | ⟨-, unchanged⟩
  · exact unmarked_after (applyBounded_once happlied) fresh other fresh'
  · rw [unchanged]
    exact fresh'

/-- Two new events, one after the other. -/
theorem applied_both {e e' : EventEnvelope} {db : ProjectionDb} (distinct : e'.eventId ≠ e.eventId)
    (fresh : db.isProjectionEventApplied e.eventId = false) (fresh' : db.isProjectionEventApplied e'.eventId = false)
    (t t' : Int) :
    (applied pg t' e' (applied pg t e db)).models =
      applyChanges (effectiveChanges pg e' (levelsAfter pg e (stockLevel db.models)))
        (applyChanges (effectiveChanges pg e (stockLevel db.models)) db.models) := by
  have between : stockLevel (applyChanges (effectiveChanges pg e (stockLevel db.models)) db.models) =
      levelsAfter pg e (stockLevel db.models) := funext fun sku => effectiveChanges_stock e _ sku _
  rw [applied_models (applied_unmarked fresh distinct fresh'), applied_models fresh, between]

/-- The event would leave the orders, payments and shipments as they are, up to their times of update. -/
def Idle (pg : Postgres) (e : EventEnvelope) (m : ReadModels) : Prop :=
  ∀ k : ModelKey, k.table ≠ .inventory → (applyChanges (eventChanges pg e) m k).map k.undated = (m k).map k.undated

/-- Either event is refused in both orders or in neither. -/
def RefusedAlike (pg : Postgres) (e e' : EventEnvelope) (levels : StockLevels) : Prop :=
  (Taken pg e levels ↔ Taken pg e (levelsAfter pg e' levels)) ∧
    (Taken pg e' levels ↔ Taken pg e' (levelsAfter pg e levels))

/-- The moves of two events, one after the other. -/
def movesInTurn (pg : Postgres) (sku : String) (e e' : EventEnvelope) (levels : StockLevels) : List StockMove :=
  effectiveMoves pg sku e levels ++ effectiveMoves pg sku e' (levelsAfter pg e levels)

theorem levelsAfter_both (e e' : EventEnvelope) (levels : StockLevels) (sku : String) :
    levelsAfter pg e' (levelsAfter pg e levels) sku = (levels sku).map (runMoves (movesInTurn pg sku e e' levels)) := by
  rw [levelsAfter, levelsAfter, Option.map_map]
  congr 1
  funext level
  exact (runMoves_append _ _ level).symm

/-- An event that is refused in one order only makes no difference. -/
structure Indifferent (pg : Postgres) (e e' : EventEnvelope) (m : ReadModels) : Prop where
  stock : ∀ sku level, stockLevel m sku = some level →
    MovesAgree (movesInTurn pg sku e e' (stockLevel m)) (movesInTurn pg sku e' e (stockLevel m)) level
  idle : ¬(Taken pg e (stockLevel m) ↔ Taken pg e (levelsAfter pg e' (stockLevel m))) → Idle pg e m
  idle' : ¬(Taken pg e' (stockLevel m) ↔ Taken pg e' (levelsAfter pg e (stockLevel m))) → Idle pg e' m

/-- The changes where the event is refused at one of two stocks, at most. -/
theorem effectiveChanges_idle {e : EventEnvelope} {levels levels' : StockLevels} {m : ReadModels}
    (idle : ¬(Taken pg e levels ↔ Taken pg e levels') → Idle pg e m) {k : ModelKey} (noStock : k.table ≠ .inventory) :
    (applyChanges (effectiveChanges pg e levels) m k).map k.undated =
      (applyChanges (effectiveChanges pg e levels') m k).map k.undated := by
  by_cases taken : Taken pg e levels
  · by_cases taken' : Taken pg e levels'
    · rw [effectiveChanges, effectiveChanges, if_pos taken, if_pos taken']
    · rw [effectiveChanges, effectiveChanges, if_pos taken, if_neg taken']
      exact idle (fun alike => taken' (alike.mp taken)) k noStock
  · by_cases taken' : Taken pg e levels'
    · rw [effectiveChanges, effectiveChanges, if_neg taken, if_pos taken']
      exact (idle (fun alike => taken (alike.mpr taken')) k noStock).symm
    · rw [effectiveChanges, effectiveChanges, if_neg taken, if_neg taken']

/-- An event that is refused at one of two stocks only is idle, if that makes no difference to the rows that
are not foreign to it. -/
theorem idle_of_same {e : EventEnvelope} {levels levels' : StockLevels} {m : ReadModels}
    (same : ∀ k : ModelKey, k.table ≠ .inventory → ¬Foreign pg e k (m k) →
      (applyChanges (effectiveChanges pg e levels) m k).map k.undated =
        (applyChanges (effectiveChanges pg e levels') m k).map k.undated)
    (differs : ¬(Taken pg e levels ↔ Taken pg e levels')) : Idle pg e m := by
  intro k noStock
  by_cases foreign : Foreign pg e k (m k)
  · rw [foreign_frame_all (eventChanges_concern e) foreign]
  · have h := same k noStock foreign
    by_cases taken : Taken pg e levels
    · have taken' : ¬Taken pg e levels' := fun taken' => differs (iff_of_true taken taken')
      rw [effectiveChanges, effectiveChanges, if_pos taken, if_neg taken'] at h
      exact h
    · have taken' : Taken pg e levels' := by
        by_contra taken'
        exact differs (iff_of_false taken taken')
      rw [effectiveChanges, effectiveChanges, if_neg taken, if_pos taken'] at h
      exact h.symm

theorem movesAgree_levels (e e' : EventEnvelope) (levels : StockLevels) :
    (∀ sku level, levels sku = some level →
      MovesAgree (movesInTurn pg sku e e' levels) (movesInTurn pg sku e' e levels) level) ↔
    levelsAfter pg e' (levelsAfter pg e levels) = levelsAfter pg e (levelsAfter pg e' levels) := by
  constructor
  · intro agree
    funext sku
    rw [levelsAfter_both, levelsAfter_both]
    cases hlevel : levels sku with
    | none => rfl
    | some level => exact congrArg some ((movesAgree_iff ..).mp (agree sku level hlevel))
  · intro same sku level hlevel
    have stock := congrFun same sku
    rw [levelsAfter_both, levelsAfter_both, hlevel] at stock
    exact (movesAgree_iff ..).mpr (Option.some.inj stock)

/-- In either order the events lead to the same views if the stock is the same and refusals make no difference. -/
theorem sameViews_iff (e e' : EventEnvelope) (db : ProjectionDb) (unrelated : Unrelated pg e e' db.models)
    (distinct : e.eventId ≠ e'.eventId) (fresh : db.isProjectionEventApplied e.eventId = false)
    (fresh' : db.isProjectionEventApplied e'.eventId = false) (t₁ t₂ t₃ t₄ : Int) :
    SameViews (applied pg t₂ e' (applied pg t₁ e db)).models (applied pg t₄ e (applied pg t₃ e' db)).models ↔
      Indifferent pg e e' db.models := by
  rw [applied_both distinct.symm fresh fresh', applied_both distinct fresh' fresh]
  have levels : ∀ e e', stockLevel (applyChanges (effectiveChanges pg e' (levelsAfter pg e (stockLevel db.models)))
      (applyChanges (effectiveChanges pg e (stockLevel db.models)) db.models)) =
        levelsAfter pg e' (levelsAfter pg e (stockLevel db.models)) := by
    intro e e'
    funext sku
    rw [effectiveChanges_stock, effectiveChanges_stock]
    rfl
  generalize hlevels : stockLevel db.models = present at levels ⊢
  have second_only : ∀ {e e'} {k : ModelKey}, e'.aggregateId ≠ e.aggregateId → Foreign pg e k (db.models k) →
      applyChanges (effectiveChanges pg e' (levelsAfter pg e present))
          (applyChanges (effectiveChanges pg e present) db.models) k =
        applyChanges (effectiveChanges pg e' (levelsAfter pg e present)) db.models k ∧
      applyChanges (effectiveChanges pg e (levelsAfter pg e' present))
          (applyChanges (effectiveChanges pg e' present) db.models) k =
        applyChanges (effectiveChanges pg e' present) db.models k := by
    intro e e' k other foreign
    exact ⟨(foreign_rows other (effectiveChanges_concern e _) (effectiveChanges_concern e' _) foreign).1,
      (foreign_rows other (effectiveChanges_concern e _) (effectiveChanges_concern e' _) foreign).2⟩
  constructor
  · intro same
    refine ⟨?_, ?_, ?_⟩
    · rw [hlevels, movesAgree_levels]
      funext sku
      rw [← levels, ← levels]
      exact same.stock sku
    · rw [hlevels]
      apply idle_of_same
      intro k noStock own
      obtain ⟨two, one⟩ := second_only unrelated.orders ((unrelated.foreign noStock).resolve_left own)
      rw [← one, ← two]
      exact same.rows k noStock
    · rw [hlevels]
      apply idle_of_same
      intro k noStock own
      obtain ⟨one, two⟩ := second_only unrelated.orders.symm ((unrelated.foreign noStock).resolve_right own)
      rw [← one, ← two]
      exact (same.rows k noStock).symm
  · intro h
    obtain ⟨stock, idle, idle'⟩ := h
    rw [hlevels] at stock idle idle'
    rw [movesAgree_levels] at stock
    constructor
    · intro k noStock
      rcases unrelated.foreign noStock with foreign | foreign
      · obtain ⟨one, two⟩ := second_only unrelated.orders.symm foreign
        rw [one, two]
        exact (effectiveChanges_idle idle' noStock).symm
      · obtain ⟨two, one⟩ := second_only unrelated.orders foreign
        rw [one, two]
        exact effectiveChanges_idle idle noStock
    · intro sku
      rw [levels, levels, stock]

theorem effectiveMoves_alike {e : EventEnvelope} {levels levels' : StockLevels}
    (alike : Taken pg e levels ↔ Taken pg e levels') (sku : String) :
    effectiveMoves pg sku e levels' = effectiveMoves pg sku e levels := by
  by_cases taken : Taken pg e levels
  · rw [effectiveMoves, effectiveMoves, if_pos taken, if_pos (alike.mp taken)]
  · rw [effectiveMoves, effectiveMoves, if_neg taken, if_neg fun taken' => taken (alike.mpr taken')]

theorem RefusedAlike.indifferent_iff {e e' : EventEnvelope} {m : ReadModels} (alike : RefusedAlike pg e e' (stockLevel m)) :
    Indifferent pg e e' m ↔ ∀ sku level, stockLevel m sku = some level →
      MovesCommute (effectiveMoves pg sku e (stockLevel m)) (effectiveMoves pg sku e' (stockLevel m)) level := by
  constructor
  · intro h sku level hlevel
    have stock := congrFun ((movesAgree_levels ..).mp h.stock) sku
    simp only [levelsAfter, effectiveMoves_alike alike.1, effectiveMoves_alike alike.2, hlevel, Option.map_some] at stock
    exact (movesCommute_iff ..).mpr (Option.some.inj stock)
  · intro commute
    refine ⟨(movesAgree_levels ..).mpr ?_, fun differs => absurd alike.1 differs, fun differs => absurd alike.2 differs⟩
    funext sku
    simp only [levelsAfter, effectiveMoves_alike alike.1, effectiveMoves_alike alike.2]
    cases hlevel : stockLevel m sku with
    | none => rfl
    | some level => exact congrArg some ((movesCommute_iff ..).mp (commute sku level hlevel))

/-- Two unrelated events commute just when each is refused in both orders or in
neither, and their moves commute at the stock of every SKU; or when an event
that is refused in one order only would have changed nothing anyway. -/
theorem events_commute_iff (e e' : EventEnvelope) (db : ProjectionDb) (unrelated : Unrelated pg e e' db.models)
    (distinct : e.eventId ≠ e'.eventId) (fresh : db.isProjectionEventApplied e.eventId = false)
    (fresh' : db.isProjectionEventApplied e'.eventId = false) (t₁ t₂ t₃ t₄ : Int) :
    SameViews (applied pg t₂ e' (applied pg t₁ e db)).models (applied pg t₄ e (applied pg t₃ e' db)).models ↔
      (RefusedAlike pg e e' (stockLevel db.models) ∧ ∀ sku level, stockLevel db.models sku = some level →
        MovesCommute (effectiveMoves pg sku e (stockLevel db.models)) (effectiveMoves pg sku e' (stockLevel db.models))
          level) ∨
      (¬RefusedAlike pg e e' (stockLevel db.models) ∧ Indifferent pg e e' db.models) := by
  rw [sameViews_iff e e' db unrelated distinct fresh fresh']
  by_cases alike : RefusedAlike pg e e' (stockLevel db.models)
  · simp only [alike, true_and, not_true_eq_false, false_and, or_false]
    exact alike.indifferent_iff
  · simp only [alike, false_and, not_false_eq_true, true_and, false_or]

theorem laptops_unrelated {orderId orderId' : String} (orders : orderId ≠ orderId') {uuid uuid' : String}
    {quantity quantity' : Rat} {e' : EventEnvelope}
    (h : e' = laptopsReserved orderId' uuid' quantity' ∨ e' = laptopsReleased orderId' uuid' quantity') (m : ReadModels) :
    Unrelated .sample (laptopsReserved orderId uuid quantity) e' m := by
  have payment : (laptopsReserved orderId uuid quantity).payload.get "payment_id" = none := rfl
  have shipment : (laptopsReserved orderId uuid quantity).payload.get "shipment_id" = none := rfl
  have payment' : e'.payload.get "payment_id" = none := by rcases h with rfl | rfl <;> rfl
  have order : e'.aggregateId = orderId' := by rcases h with rfl | rfl <;> rfl
  constructor
  · rw [order]
    exact orders
  · rw [payment]
    nofun
  · rw [shipment]
    nofun
  · rw [payment]
    nofun
  · rw [payment']
    nofun

theorem two_reservations_commute_iff :
    SameViews
      (applied .sample 2 (laptopsReserved "ord_2" "b" 20)
        (applied .sample 1 (laptopsReserved "ord_1" "a" 50) seededStock.db)).models
      (applied .sample 4 (laptopsReserved "ord_1" "a" 50)
        (applied .sample 3 (laptopsReserved "ord_2" "b" 20) seededStock.db)).models ↔
      (RefusedAlike .sample (laptopsReserved "ord_1" "a" 50) (laptopsReserved "ord_2" "b" 20)
          (stockLevel seededStock.db.models) ∧
        ∀ sku level, stockLevel seededStock.db.models sku = some level →
          MovesCommute
            (effectiveMoves .sample sku (laptopsReserved "ord_1" "a" 50) (stockLevel seededStock.db.models))
            (effectiveMoves .sample sku (laptopsReserved "ord_2" "b" 20) (stockLevel seededStock.db.models)) level) ∨
      (¬RefusedAlike .sample (laptopsReserved "ord_1" "a" 50) (laptopsReserved "ord_2" "b" 20)
          (stockLevel seededStock.db.models) ∧
        Indifferent .sample (laptopsReserved "ord_1" "a" 50) (laptopsReserved "ord_2" "b" 20) seededStock.db.models) :=
  events_commute_iff _ _ _ (laptops_unrelated (by decide) (.inl rfl) _) (by decide) rfl rfl 1 2 3 4

/-- Another order holds fifty. -/
def fiftyElsewhere : StockState :=
  ⟨appliedTo (laptopsReserved "ord_2" "b" 50) seededStock, [("ord_2", laptops 50)]⟩

/-- A reservation of 200 and a release of these fifty, while there are fifty left. -/
theorem reservation_release_apart :
    StockRun .sample seededStock [(laptopsReserved "ord_2" "b" 50, fiftyElsewhere)] ∧
    Reserves "ord_1" (laptops 200) (laptopsReserved "ord_1" "a" 200) ∧
    Releases "ord_2" (laptops 50) (laptopsReleased "ord_2" "c" 50) ∧
    Unrelated .sample (laptopsReserved "ord_1" "a" 200) (laptopsReleased "ord_2" "c" 50) fiftyElsewhere.db.models ∧
    stockLevel (applied .sample 2 (laptopsReleased "ord_2" "c" 50)
      (applied .sample 1 (laptopsReserved "ord_1" "a" 200) fiftyElsewhere.db)).models "LAPTOP-001" = some ⟨200, 50⟩ ∧
    stockLevel (applied .sample 4 (laptopsReserved "ord_1" "a" 200)
      (applied .sample 3 (laptopsReleased "ord_2" "c" 50) fiftyElsewhere.db)).models "LAPTOP-001" = some ⟨200, 0⟩ ∧
    ¬SameViews
      (applied .sample 2 (laptopsReleased "ord_2" "c" 50)
        (applied .sample 1 (laptopsReserved "ord_1" "a" 200) fiftyElsewhere.db)).models
      (applied .sample 4 (laptopsReserved "ord_1" "a" 200)
        (applied .sample 3 (laptopsReleased "ord_2" "c" 50) fiftyElsewhere.db)).models := by
  have one : stockLevel (applied .sample 2 (laptopsReleased "ord_2" "c" 50)
      (applied .sample 1 (laptopsReserved "ord_1" "a" 200) fiftyElsewhere.db)).models "LAPTOP-001" = some ⟨200, 50⟩ := by
    decide +kernel
  have other : stockLevel (applied .sample 4 (laptopsReserved "ord_1" "a" 200)
      (applied .sample 3 (laptopsReleased "ord_2" "c" 50) fiftyElsewhere.db)).models "LAPTOP-001" = some ⟨200, 0⟩ := by
    decide +kernel
  refine ⟨⟨?_, trivial⟩, laptops_reserved (by decide +kernel), laptops_released, laptops_unrelated (by decide) (.inr rfl) _, one, other, ?_⟩
  · exact .reserve 0 (laptopOrder 50) "ord_2" (laptopsPosted 50) (by rfl)
      (laptops_reserved (by decide +kernel)) (by decide +kernel) (ran_ok (by decide +kernel))
  · intro same
    have stock := same.stock "LAPTOP-001"
    rw [one, other] at stock
    cases stock

end Fulfillment
