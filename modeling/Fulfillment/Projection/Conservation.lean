import Fulfillment.Consumers.Services
import Fulfillment.Orders.PostOrders
import Fulfillment.Projection.Applies
import Fulfillment.Projection.Reapplication
import Fulfillment.Saga.Orchestrator
import Mathlib

/-!
# Stock as it is reserved and released

The inventory service admits a reservation by the item alone. `Conserved` says
what the counters of a SKU should show, and a run of reservations and releases
keeps it exactly as long as no counter would fall below zero.
-/

namespace Fulfillment

open Js Effects

/-! ## Reservations and releases -/

/-- The inventory service answers a request for the items with the reservation `e`. -/
structure Reserves (orderId : String) (items : List Json) (e : EventEnvelope) : Prop where
  reserved : e.eventType = .inventoryReserved
  answers : ∃ amb request m, request.eventType = .inventoryReservationRequested ∧ request.aggregateId = orderId ∧
    request.payload.get "items" = some (.arr items) ∧ InventoryConsumer.answer amb request = .ok (some m) ∧
    m.value = .event e

/-- The saga of the order releases its items with `e`. -/
def Releases (orderId : String) (items : List Json) (e : EventEnvelope) : Prop :=
  ∃ cause uuid now releasedAt ctx reason, cause.aggregateId = orderId ∧ ctx.items = some (.arr items) ∧
    (SagaOrchestrator.inventoryReleased cause uuid now releasedAt ctx reason).value = .event e

theorem Reserves.items {orderId : String} {items : List Json} {e : EventEnvelope} (h : Reserves orderId items e) :
    payloadItems e.payload = items := by
  obtain ⟨reserved, amb, request, m, type, -, hitems, answer, sent⟩ := h
  rw [InventoryConsumer.answer, type] at answer
  simp only [hitems, orElse, truthy, if_true] at answer
  cases stock : InventoryConsumer.hasOutOfStock (.arr items) with
  | error err =>
    rw [stock] at answer
    cases answer
  | ok outOfStock =>
    rw [stock] at answer
    cases answer
    split at sent
    · cases sent
      cases reserved
    · cases sent
      rfl

theorem Releases.released {orderId : String} {items : List Json} {e : EventEnvelope} (h : Releases orderId items e) :
    e.eventType = .inventoryReleased ∧ payloadItems e.payload = items := by
  obtain ⟨cause, uuid, now, releasedAt, ctx, reason, -, hitems, sent⟩ := h
  cases sent
  constructor
  · rfl
  · have written : Fields.get (record
        [ ("order_id", some (.str cause.aggregateId)), ("reservation_id", ctx.reservationId),
          ("items", some (orElse ctx.items (.arr []))), ("released_at", some (.str releasedAt)),
          ("reason", some (.str reason)) ]) "items" = some (.arr items) := by
      rw [get_record (v := some (orElse ctx.items (.arr []))) (by simp) (by simp), hitems]
      rfl
    simp only [payloadItems, createEventEnvelope, written]

/-- The read models, with the reservations that were applied and not released. -/
structure StockState where
  db : ProjectionDb
  outstanding : List (String × List Json)

/-- One application of a reservation of an accepted order, or of the release of an earlier reservation. -/
inductive StockStep (pg : Postgres) : StockState → EventEnvelope → StockState → Prop
  | reserve {s : StockState} {e : EventEnvelope} {db : ProjectionDb} (clock : Int) (body : Json) (orderId : String)
      (posted : PostedOrder) (accepted : PostOrders.handler body = .ok (some posted))
      (reserves : Reserves orderId posted.items e) (fresh : s.db.isProjectionEventApplied e.eventId = false)
      (applied : applyHistoricalEvent pg clock .allOk e s.db = (.ok (), db)) :
    StockStep pg s e ⟨db, (orderId, posted.items) :: s.outstanding⟩
  | release {s : StockState} {e : EventEnvelope} {db : ProjectionDb} (clock : Int) (orderId : String) (items : List Json)
      (newer older : List (String × List Json)) (earlier : s.outstanding = newer ++ (orderId, items) :: older)
      (releases : Releases orderId items e)
      (fresh : s.db.isProjectionEventApplied e.eventId = false)
      (applied : applyHistoricalEvent pg clock .allOk e s.db = (.ok (), db)) :
    StockStep pg s e ⟨db, newer ++ older⟩

/-- A run from a state, each event with the state after it. -/
def StockRun (pg : Postgres) : StockState → List (EventEnvelope × StockState) → Prop
  | _, [] => True
  | s, (e, s') :: run => StockStep pg s e s' ∧ StockRun pg s' run

/-! ## Conservation -/

def InventoryView.Conserved (row : InventoryView) : Prop :=
  0 ≤ row.reservedStock ∧ row.reservedStock ≤ row.totalStock ∧
    row.availableStock = row.totalStock - row.reservedStock

instance (row : InventoryView) : Decidable row.Conserved := inferInstanceAs (Decidable (_ ∧ _ ∧ _))

def Conserved (m : ReadModels) : Prop := ∀ sku row, m (.inventory sku) = some row → row.Conserved

/-- Nothing is reserved. -/
def Seeded (s : StockState) : Prop :=
  s.outstanding = [] ∧ ∀ sku row, s.db.models (.inventory sku) = some row →
    0 ≤ row.totalStock ∧ row.reservedStock = 0 ∧ row.availableStock = row.totalStock

theorem Seeded.conserved {s : StockState} (h : Seeded s) : Conserved s.db.models := by
  intro sku row hrow
  obtain ⟨total, reserved, available⟩ := h.2 sku row hrow
  unfold InventoryView.Conserved
  omega

variable (pg : Postgres)

/-- Neither counter of a SKU falls below zero: no move is cut short, and what is
reserved and what is available remain. -/
def KeepsStock (e : EventEnvelope) (m : ReadModels) : Prop :=
  ∀ sku level, stockLevel m sku = some level →
    Unclamped (stockMoves pg sku e) level ∧ 0 ≤ level.reserved + netOf (stockMoves pg sku e) ∧
      0 ≤ level.available - netOf (stockMoves pg sku e)

/-- Every event of a run keeps the stock. -/
def AllKeepStock : StockState → List (EventEnvelope × StockState) → Prop
  | _, [] => True
  | s, (e, s') :: run => KeepsStock pg e s.db.models ∧ AllKeepStock s' run

variable {pg}

theorem StockStep.changes {s s' : StockState} {e : EventEnvelope} (h : StockStep pg s e s') :
    ∃ changes, changesOfEvent pg e = .ok changes ∧ s'.db.models = applyChanges changes s.db.models := by
  have mutated : ∃ db clock, applyHistoricalEvent pg clock .allOk e s.db = (.ok (), db) ∧ s'.db = db ∧
      s.db.isProjectionEventApplied e.eventId = false := by
    cases h with
    | reserve clock body orderId posted accepted reserves fresh applied => exact ⟨_, clock, applied, rfl, fresh⟩
    | release clock orderId items newer older earlier releases fresh applied => exact ⟨_, clock, applied, rfl, fresh⟩
  obtain ⟨db, clock, applied, rfl, fresh⟩ := mutated
  have once : applyOnce pg clock e s.db = .ok s'.db := by
    rcases applyHistoricalEvent_run .allOk e s.db with ⟨db', once, -, run⟩ | ⟨db', err, -, -, run⟩ | ⟨err, run⟩
    · rw [applied] at run
      cases run
      exact once
    · rw [applied] at run
      cases run
    · rw [applied] at run
      cases run
  have mutated := (applyOnce_unmarked once fresh).1
  rw [mutate_eq] at mutated
  cases hchanges : changesOfEvent pg e with
  | error err =>
    rw [hchanges] at mutated
    cases mutated
  | ok changes =>
    rw [hchanges] at mutated
    exact ⟨changes, rfl, (Except.ok.inj mutated).symm⟩

/-- The row of a SKU after a step. -/
theorem StockStep.row {s s' : StockState} {e : EventEnvelope} (h : StockStep pg s e s') (sku : String) :
    s'.db.models (.inventory sku) =
      (s.db.models (.inventory sku)).map (moveRow (eventTime pg e.occurredAt) (stockMoves pg sku e)) := by
  obtain ⟨changes, hchanges, after⟩ := h.changes
  rw [after]
  exact changesOfEvent_stockRow hchanges sku _

@[simp] theorem moveRow_totalStock (time : Int) (moves : List StockMove) (row : InventoryView) :
    (moveRow time moves row).totalStock = row.totalStock := by
  unfold moveRow
  split <;> rfl

/-- Moves keep a conserved row conserved just when neither counter falls below zero. -/
theorem moveRow_conserved_iff {row : InventoryView} (h : row.Conserved) (time : Int) (moves : List StockMove) :
    (moveRow time moves row).Conserved ↔
      Unclamped moves row.level ∧ 0 ≤ row.level.reserved + netOf moves ∧ 0 ≤ row.level.available - netOf moves := by
  obtain ⟨hreserved, havailable⟩ := runMoves_ge moves row.level
  have reserved : (moveRow time moves row).reservedStock = (runMoves moves row.level).reserved :=
    congrArg StockLevel.reserved (level_moveRow time moves row)
  have available : (moveRow time moves row).availableStock = (runMoves moves row.level).available :=
    congrArg StockLevel.available (level_moveRow time moves row)
  unfold InventoryView.Conserved at h ⊢
  rw [unclamped_iff, moveRow_totalStock, reserved, available]
  simp only [InventoryView.level] at *
  omega

/-- A step from conserved stock leaves it conserved just when the event keeps the stock. -/
theorem StockStep.conserved_iff {s s' : StockState} {e : EventEnvelope} (h : StockStep pg s e s')
    (before : Conserved s.db.models) : Conserved s'.db.models ↔ KeepsStock pg e s.db.models := by
  constructor
  · intro after sku level hlevel
    obtain ⟨row, hrow, rfl⟩ := Option.map_eq_some_iff.mp hlevel
    rw [← moveRow_conserved_iff (before sku row hrow) (eventTime pg e.occurredAt)]
    apply after sku
    rw [h.row, hrow]
    rfl
  · intro keeps sku row' hrow'
    rw [h.row] at hrow'
    obtain ⟨row, hrow, rfl⟩ := Option.map_eq_some_iff.mp hrow'
    rw [moveRow_conserved_iff (before sku row hrow)]
    apply keeps sku
    rw [stockLevel, hrow]
    rfl

/-- A run conserves the stock in all its states just when all its events keep the stock. -/
theorem stock_conserved_iff (s : StockState) (seeded : Seeded s) (run : List (EventEnvelope × StockState))
    (h : StockRun pg s run) : (∀ after ∈ run, Conserved after.2.db.models) ↔ AllKeepStock pg s run := by
  have general : ∀ s : StockState, Conserved s.db.models → StockRun pg s run →
      ((∀ after ∈ run, Conserved after.2.db.models) ↔ AllKeepStock pg s run) := by
    clear h seeded s
    induction run with
    | nil =>
      intro s _ _
      constructor
      · intro _
        trivial
      · nofun
    | cons after run ih =>
      obtain ⟨e, s'⟩ := after
      intro s conserved h
      obtain ⟨step, rest⟩ := h
      rw [List.forall_mem_cons, AllKeepStock, step.conserved_iff conserved]
      constructor
      · rintro ⟨keeps, others⟩
        exact ⟨keeps, (ih s' ((step.conserved_iff conserved).mpr keeps) rest).mp others⟩
      · rintro ⟨keeps, others⟩
        exact ⟨keeps, (ih s' ((step.conserved_iff conserved).mpr keeps) rest).mpr others⟩
  exact general s seeded.conserved h

/-! ## Reservations within the stock -/

/-- A reservation asks for no negative quantity of a SKU, and in all for no more than is available. -/
def WithinStock (pg : Postgres) (e : EventEnvelope) (m : ReadModels) : Prop :=
  ∀ sku level, stockLevel m sku = some level →
    (∀ quantity ∈ quantitiesOf pg sku (payloadItems e.payload), 0 ≤ quantity) ∧
      (quantitiesOf pg sku (payloadItems e.payload)).sum ≤ level.available

def ReservesWithinStock (pg : Postgres) : StockState → List (EventEnvelope × StockState) → Prop
  | _, [] => True
  | s, (e, s') :: run =>
    (e.eventType = .inventoryReserved → WithinStock pg e s.db.models) ∧ ReservesWithinStock pg s' run

/-- What the outstanding reservations hold of a SKU. -/
def heldOf (pg : Postgres) (sku : String) (outstanding : List (String × List Json)) : Int :=
  (outstanding.map fun entry => (quantitiesOf pg sku entry.2).sum).sum

/-- The reserved stock is what the outstanding reservations hold, each a positive amount or none. -/
def StockAccounted (pg : Postgres) (s : StockState) : Prop :=
  ∀ sku level, stockLevel s.db.models sku = some level →
    level.reserved = heldOf pg sku s.outstanding ∧
      ∀ entry ∈ s.outstanding, ∀ quantity ∈ quantitiesOf pg sku entry.2, 0 ≤ quantity

/-- Moves that draw on one pool fit if the pool holds their sum. -/
theorem unclamped_of_pool {move : Int → StockMove} (pool : StockLevel → Int)
    (fits : ∀ quantity level, 0 ≤ quantity → quantity ≤ pool level →
      (move quantity).Fits level ∧ pool ((move quantity).apply level) = pool level - quantity)
    {quantities : List Int} {level : StockLevel} (nonneg : ∀ quantity ∈ quantities, 0 ≤ quantity)
    (enough : quantities.sum ≤ pool level) : Unclamped (quantities.map move) level := by
  induction quantities generalizing level with
  | nil => trivial
  | cons quantity quantities ih =>
    obtain ⟨first, others⟩ := List.forall_mem_cons.mp nonneg
    have rest := List.sum_nonneg others
    rw [List.sum_cons] at enough
    obtain ⟨fit, left⟩ := fits quantity level first (by omega)
    constructor
    · exact fit
    · apply ih others
      omega

theorem unclamped_reserve {quantities : List Int} {level : StockLevel} (nonneg : ∀ quantity ∈ quantities, 0 ≤ quantity)
    (enough : quantities.sum ≤ level.available) : Unclamped (quantities.map .reserve) level := by
  apply unclamped_of_pool StockLevel.available _ nonneg enough
  intro quantity level low high
  simp only [StockMove.Fits, StockMove.apply]
  omega

theorem unclamped_release {quantities : List Int} {level : StockLevel} (nonneg : ∀ quantity ∈ quantities, 0 ≤ quantity)
    (enough : quantities.sum ≤ level.reserved) : Unclamped (quantities.map .release) level := by
  apply unclamped_of_pool StockLevel.reserved _ nonneg enough
  intro quantity level low high
  simp only [StockMove.Fits, StockMove.apply]
  omega

theorem reserved_of_unclamped {moves : List StockMove} {level : StockLevel} (h : Unclamped moves level) :
    (runMoves moves level).reserved = level.reserved + netOf moves := by
  obtain ⟨hreserved, havailable⟩ := runMoves_ge moves level
  rw [unclamped_iff] at h
  omega

/-- What one outstanding reservation holds. -/
theorem held_le {sku : String} {outstanding : List (String × List Json)}
    (nonneg : ∀ entry ∈ outstanding, ∀ quantity ∈ quantitiesOf pg sku entry.2, 0 ≤ quantity)
    {entry : String × List Json} (h : entry ∈ outstanding) :
    (quantitiesOf pg sku entry.2).sum ≤ heldOf pg sku outstanding := by
  apply List.single_le_sum
  · intro held hheld
    obtain ⟨other, hother, rfl⟩ := List.mem_map.mp hheld
    exact List.sum_nonneg (nonneg other hother)
  · exact List.mem_map_of_mem h

theorem StockStep.level {s s' : StockState} {e : EventEnvelope} (h : StockStep pg s e s') (sku : String) :
    stockLevel s'.db.models sku = (stockLevel s.db.models sku).map (runMoves (stockMoves pg sku e)) := by
  obtain ⟨changes, hchanges, after⟩ := h.changes
  rw [after]
  exact changesOfEvent_stock hchanges sku _

/-- A reservation within the stock, or a release of what is reserved, keeps the stock and its account. -/
theorem StockStep.accounted {s s' : StockState} {e : EventEnvelope} (h : StockStep pg s e s')
    (conserved : Conserved s.db.models) (accounted : StockAccounted pg s)
    (within : e.eventType = .inventoryReserved → WithinStock pg e s.db.models) :
    KeepsStock pg e s.db.models ∧ StockAccounted pg s' := by
  have stock : ∀ sku level, stockLevel s.db.models sku = some level → 0 ≤ level.reserved ∧ 0 ≤ level.available := by
    intro sku level hlevel
    obtain ⟨row, hrow, rfl⟩ := Option.map_eq_some_iff.mp hlevel
    have row := conserved sku row hrow
    simp only [InventoryView.Conserved, InventoryView.level] at *
    omega
  cases id h with
  | reserve clock body orderId posted accepted reserves fresh applied =>
    have moves : ∀ sku, stockMoves pg sku e = (quantitiesOf pg sku posted.items).map .reserve := by
      intro sku
      rw [stockMoves, reserves.reserved, reserves.items]
    have within := within reserves.reserved
    simp only [WithinStock, reserves.items] at within
    have unclamped : ∀ sku level, stockLevel s.db.models sku = some level → Unclamped (stockMoves pg sku e) level := by
      intro sku level hlevel
      obtain ⟨nonneg, enough⟩ := within sku level hlevel
      rw [moves]
      exact unclamped_reserve nonneg enough
    constructor
    · intro sku level hlevel
      obtain ⟨nonneg, enough⟩ := within sku level hlevel
      obtain ⟨hreserved, havailable⟩ := stock sku level hlevel
      have asked := List.sum_nonneg nonneg
      refine ⟨unclamped sku level hlevel, ?_⟩
      rw [moves, netOf_reserve]
      omega
    · intro sku level' hlevel'
      rw [h.level] at hlevel'
      obtain ⟨level, hlevel, rfl⟩ := Option.map_eq_some_iff.mp hlevel'
      obtain ⟨held, nonneg⟩ := accounted sku level hlevel
      constructor
      · rw [reserved_of_unclamped (unclamped sku level hlevel), moves, netOf_reserve, held, heldOf, heldOf,
          List.map_cons, List.sum_cons, Int.add_comm]
      · exact List.forall_mem_cons.mpr ⟨(within sku level hlevel).1, nonneg⟩
  | release clock orderId items newer older earlier releases fresh applied =>
    have member : (orderId, items) ∈ s.outstanding := by simp [earlier]
    obtain ⟨released, hitems⟩ := releases.released
    have moves : ∀ sku, stockMoves pg sku e = (quantitiesOf pg sku items).map .release := by
      intro sku
      rw [stockMoves, released, hitems]
    have enough : ∀ sku level, stockLevel s.db.models sku = some level →
        (∀ quantity ∈ quantitiesOf pg sku items, 0 ≤ quantity) ∧ (quantitiesOf pg sku items).sum ≤ level.reserved := by
      intro sku level hlevel
      obtain ⟨held, nonneg⟩ := accounted sku level hlevel
      exact ⟨nonneg _ member, held ▸ held_le nonneg member⟩
    have unclamped : ∀ sku level, stockLevel s.db.models sku = some level → Unclamped (stockMoves pg sku e) level := by
      intro sku level hlevel
      rw [moves]
      exact unclamped_release (enough sku level hlevel).1 (enough sku level hlevel).2
    constructor
    · intro sku level hlevel
      obtain ⟨nonneg, enough⟩ := enough sku level hlevel
      obtain ⟨hreserved, havailable⟩ := stock sku level hlevel
      have given := List.sum_nonneg nonneg
      refine ⟨unclamped sku level hlevel, ?_⟩
      rw [moves, netOf_release]
      omega
    · intro sku level' hlevel'
      rw [h.level] at hlevel'
      obtain ⟨level, hlevel, rfl⟩ := Option.map_eq_some_iff.mp hlevel'
      obtain ⟨held, nonneg⟩ := accounted sku level hlevel
      constructor
      · rw [reserved_of_unclamped (unclamped sku level hlevel), moves, netOf_release, held, earlier]
        simp only [heldOf, List.map_append, List.map_cons, List.sum_append, List.sum_cons]
        omega
      · intro entry hentry
        apply nonneg entry
        rw [earlier]
        grind

/-- As long as no reservation asks for a negative quantity or for more than is
available, the stock is conserved: the releases need no care of their own. -/
theorem keepsStock_of_within {s : StockState} (seeded : Seeded s) {run : List (EventEnvelope × StockState)}
    (h : StockRun pg s run) (within : ReservesWithinStock pg s run) : AllKeepStock pg s run := by
  have start : StockAccounted pg s := by
    intro sku level hlevel
    obtain ⟨row, hrow, rfl⟩ := Option.map_eq_some_iff.mp hlevel
    rw [seeded.1]
    exact ⟨(seeded.2 sku row hrow).2.1, nofun⟩
  have conserved := seeded.conserved
  clear seeded
  induction run generalizing s with
  | nil => trivial
  | cons after run ih =>
    obtain ⟨e, s'⟩ := after
    obtain ⟨step, rest⟩ := h
    obtain ⟨keeps, accounted⟩ := step.accounted conserved start within.1
    exact ⟨keeps, ih rest within.2 accounted ((step.conserved_iff conserved).mpr keeps)⟩

/-! ## An order of more than there is -/

def seededRow : String → Option InventoryView
  | "LAPTOP-001" => some ⟨"High Performance Workstation", 100, 0, 100, 0⟩
  | "PHONE-002" => some ⟨"Smartphone Pro Max", 200, 0, 200, 0⟩
  | "KEYBOARD-003" => some ⟨"Wireless Mechanical Keyboard", 500, 0, 500, 0⟩
  | "MONITOR-004" => some ⟨"4K Ultra-wide Monitor", 50, 0, 50, 0⟩
  | "OUT_OF_STOCK_ITEM" => some ⟨"Limited Edition Collectible", 0, 0, 0, 0⟩
  | _ => none

/-- The rows of `init-db.sql`. -/
def seededModels : ReadModels
  | .inventory sku => seededRow sku
  | _ => none

def seededStock : StockState := ⟨⟨seededModels, fun _ => none⟩, []⟩

theorem seededStock_seeded : Seeded seededStock := by
  constructor
  · rfl
  · intro sku row hrow
    have hrow : seededRow sku = some row := hrow
    unfold seededRow at hrow
    split at hrow <;> cases hrow <;> decide

def laptops (quantity : Rat) : List Json :=
  [ .obj [ ("sku", .str "LAPTOP-001"), ("name", .str "Workstation"), ("price", .num 10), ("quantity", .num quantity) ] ]

def laptopOrder (quantity : Rat) : Json := .obj [("user_id", .str "usr_1"), ("items", .arr (laptops quantity))]

/-- The order as the handler passes it on. -/
def laptopsPosted (quantity : Rat) : PostedOrder := ⟨.str "usr_1", laptops quantity, none⟩

def quietAmbient (uuid : String) : Ambient where
  now _ := "2026-01-01T10:00:00.000Z"
  uuid _ := uuid
  random _ := 0
  shouldFail := false

def laptopRequest (orderId : String) (quantity : Rat) : EventEnvelope :=
  createEventEnvelope "request" "2026-01-01T10:00:00.000Z"
    { eventType := .inventoryReservationRequested
      aggregateId := orderId
      aggregateType := "Inventory"
      producer := SagaOrchestrator.consumerName
      correlationId := "corr_1"
      causationId := "evt_1"
      payload := [("order_id", .str orderId), ("items", .arr (laptops quantity))] }

/-- The event of a message. -/
def Message.eventOr (m : Message) (e : EventEnvelope) : EventEnvelope :=
  match m.value with
  | .event e => e
  | .deadLetter _ => e

def laptopsReserved (orderId uuid : String) (quantity : Rat) : EventEnvelope :=
  (InventoryConsumer.reserved (quietAmbient uuid) (laptopRequest orderId quantity) (.arr (laptops quantity))).eventOr
    (laptopRequest orderId quantity)

def laptopsReleased (orderId uuid : String) (quantity : Rat) : EventEnvelope :=
  (SagaOrchestrator.inventoryReleased (laptopRequest orderId quantity) uuid "2026-01-01T10:00:00.000Z"
    "2026-01-01T10:00:00.000Z" { items := some (.arr (laptops quantity)) } "Fraud rejection").eventOr
    (laptopRequest orderId quantity)

/-- The tables after an event. -/
def appliedTo (e : EventEnvelope) (s : StockState) : ProjectionDb := (applyHistoricalEvent .sample 0 .allOk e s.db).2

theorem laptops_reserved {orderId uuid : String} {quantity : Rat}
    (admitted : InventoryConsumer.someOutOfStock (laptops quantity) = .ok false) :
    Reserves orderId (laptops quantity) (laptopsReserved orderId uuid quantity) := by
  constructor
  · rfl
  · refine ⟨quietAmbient uuid, laptopRequest orderId quantity,
      InventoryConsumer.reserved (quietAmbient uuid) (laptopRequest orderId quantity) (.arr (laptops quantity)),
      rfl, rfl, rfl, ?_, rfl⟩
    have items : orElse ((laptopRequest orderId quantity).payload.get "items") (.arr []) = .arr (laptops quantity) := rfl
    simp only [InventoryConsumer.answer, laptopRequest, createEventEnvelope] at items ⊢
    rw [items, InventoryConsumer.hasOutOfStock, admitted]
    rfl

theorem laptops_released {orderId uuid : String} {quantity : Rat} :
    Releases orderId (laptops quantity) (laptopsReleased orderId uuid quantity) :=
  ⟨laptopRequest orderId quantity, uuid, _, _, { items := some (.arr (laptops quantity)) }, _, rfl, rfl, rfl⟩

theorem ran_ok {r : Except JsError Unit × ProjectionDb} (h : r.1.isOk = true) : r = (.ok (), r.2) := by
  obtain ⟨value, db⟩ := r
  cases value with
  | error err => cases h
  | ok a => rfl

def withFifty : StockState :=
  ⟨appliedTo (laptopsReserved "ord_1" "a" 50) seededStock, [("ord_1", laptops 50)]⟩

/-- Fifty are reserved, and released again. -/
def fiftyAndBack : List (EventEnvelope × StockState) :=
  [ (laptopsReserved "ord_1" "a" 50, withFifty),
    (laptopsReleased "ord_1" "b" 50, ⟨appliedTo (laptopsReleased "ord_1" "b" 50) withFifty, []⟩) ]

theorem fiftyAndBack_run : StockRun .sample seededStock fiftyAndBack := by
  refine ⟨?_, ?_, trivial⟩
  · exact .reserve 0 (laptopOrder 50) "ord_1" (laptopsPosted 50) (by rfl)
      (laptops_reserved (by decide +kernel)) (by decide +kernel) (ran_ok (by decide +kernel))
  · exact .release 0 "ord_1" (laptops 50) [] [] rfl laptops_released (by decide +kernel)
      (ran_ok (by decide +kernel))

theorem stock_conserved_iff_fifty :
    (∀ after ∈ fiftyAndBack, Conserved after.2.db.models) ↔ AllKeepStock .sample seededStock fiftyAndBack :=
  stock_conserved_iff seededStock seededStock_seeded fiftyAndBack fiftyAndBack_run

def soldOut : StockState :=
  ⟨appliedTo (laptopsReserved "ord_1" "a" 200) seededStock, [("ord_1", laptops 200)]⟩

/-- An order of 200 is accepted, admitted and applied while there are 100. -/
theorem stock_oversold :
    Seeded seededStock ∧ StockRun .sample seededStock [(laptopsReserved "ord_1" "a" 200, soldOut)] ∧
    stockLevel soldOut.db.models "LAPTOP-001" = some ⟨200, 0⟩ ∧ ¬Conserved soldOut.db.models := by
  refine ⟨seededStock_seeded, ⟨?_, trivial⟩, ?_, ?_⟩
  · exact .reserve 0 (laptopOrder 200) "ord_1" (laptopsPosted 200) (by rfl)
      (laptops_reserved (by decide +kernel)) (by decide +kernel) (ran_ok (by decide +kernel))
  · decide +kernel
  · intro conserved
    have row : (soldOut.db.models (.inventory "LAPTOP-001")).map InventoryView.reservedStock = some 200 ∧
        (soldOut.db.models (.inventory "LAPTOP-001")).map InventoryView.totalStock = some 100 := by decide +kernel
    cases hrow : soldOut.db.models (.inventory "LAPTOP-001") with
    | none =>
      rw [hrow] at row
      cases row.1
    | some view =>
      rw [hrow] at row
      obtain ⟨-, bounded, -⟩ := conserved _ _ hrow
      have reserved : view.reservedStock = 200 := Option.some.inj row.1
      have total : view.totalStock = 100 := Option.some.inj row.2
      omega

end Fulfillment
