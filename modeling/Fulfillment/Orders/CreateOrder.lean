import Fulfillment.Consumers.BaseConsumer
import Fulfillment.Effects.Transaction

/-!
# `OrderService.createOrder`

The order row and its outbox row are written in one transaction. The relay that
is triggered afterwards runs on its own and is left out.

* `createOrder_run`: what the call returns and leaves;
* `creates_or_nothing_iff`: when it writes a new order with its event, or nothing.
-/

namespace Fulfillment

open Js Relational Effects

structure OrderItem where
  sku : String
  name : String
  price : Rat
  quantity : Rat
  deriving DecidableEq, Repr

def OrderItem.toJson (item : OrderItem) : Json :=
  .obj [("sku", .str item.sku), ("name", .str item.name), ("price", .num item.price), ("quantity", .num item.quantity)]

structure Order where
  id : String
  userId : String
  items : List OrderItem
  status : String
  totalAmount : Number
  createdAt : Int
  updatedAt : Int
  deriving DecidableEq, Repr

def itemsJson (items : List OrderItem) : Json := .arr (items.map OrderItem.toJson)

/-- The parameters of `insertOrder`; the metadata is written by `JSON.stringify`. -/
def Order.row (order : Order) : OrderRow where
  id := order.id
  userId := order.userId
  status := order.status
  totalAmount := order.totalAmount
  metadata := (Json.obj [("items", itemsJson order.items)]).written
  createdAt := order.createdAt
  updatedAt := order.updatedAt

structure OrderOptions where
  correlationId : Option String := none
  causationId : Option String := none
  currency : Option String := none

/-- A call of `createOrder`, with what it reads: two results of `uuidv4()` and the date. -/
structure CreateOrder where
  userId : String
  items : List OrderItem
  options : OrderOptions
  orderUuid : String
  eventUuid : String
  now : Int

namespace CreateOrder

variable (c : CreateOrder)

def orderId : String := "ord_" ++ slice8 c.orderUuid

def eventId : String := "evt_" ++ slice8 c.eventUuid

/-- The sum of doubles. -/
def totalAmount : Number :=
  c.items.foldl (fun sum item => sum.add ((Number.ofRat item.price).mul (.ofRat item.quantity))) (.finite 0)

def order : Order where
  id := c.orderId
  userId := c.userId
  items := c.items
  status := "pending"
  totalAmount := c.totalAmount
  createdAt := c.now
  updatedAt := c.now

def orderCreatedPayload : Fields :=
  [ ("order_id", .str c.orderId),
    ("user_id", .str c.userId),
    ("items", itemsJson c.items),
    ("total_amount", c.totalAmount.toJson),
    ("currency", .str ((orNull c.options.currency).getD "USD")),
    ("shipping_address", .obj [("country", .str "US")]) ]

/-- `JSON.stringify` writes the payload. -/
def outboxBody : OutboxBody where
  aggregateId := c.orderId
  aggregateType := "Order"
  eventType := .orderCreated
  eventVersion := 1
  payload := writtenFields c.orderCreatedPayload
  correlationId := (orNull c.options.correlationId).getD ("corr_" ++ c.orderId)
  causationId := (orNull c.options.causationId).getD ("cmd_" ++ c.orderId)
  topic := Topics.orders

end CreateOrder

inductive OrderStatement
  | insertOrder (order : OrderRow)
  | insertOutboxEvent (id : String) (body : OutboxBody)

abbrev OrderStatement.Answer : OrderStatement → Type := fun _ => Unit

/-- The columns of `orders`. -/
def OrderRow.fits (order : OrderRow) : Bool :=
  fitsVarchar 100 order.id && fitsVarchar 100 order.userId && fitsVarchar 50 order.status &&
  fitsCents order.totalAmount && fitsJsonb order.metadata

/-- The columns of `outbox_events`. -/
def OutboxBody.fits (body : OutboxBody) (id : String) : Bool :=
  fitsVarchar 100 id && fitsVarchar 100 body.aggregateId && fitsVarchar 50 body.aggregateType &&
  fitsVarchar 100 body.eventType.name && fitsInt body.eventVersion && fitsJsonb (.obj body.payload) &&
  fitsVarchar 100 body.correlationId && fitsVarchar 100 body.causationId && fitsVarchar 100 body.topic

def OrderStatement.fits : OrderStatement → Bool
  | .insertOrder order => order.fits
  | .insertOutboxEvent id body => body.fits id

/-- `clock` is `CURRENT_TIMESTAMP`. -/
def OrderStatement.perform (clock : Int) : OrderStatement → Db → Db
  | .insertOrder order, db => db.insertOrder order
  | .insertOutboxEvent id body, db => { db with outboxEvents := Fulfillment.insertOutboxEvent id body clock db.outboxEvents }

def orderStatements (clock : Int) : Semantics JsError Db OrderStatement.Answer where
  effect statement _ db := if statement.fits then .ok ((), statement.perform clock db) else .error columnError

theorem exec_orderStatement (clock : Int) (statement : OrderStatement) (o : Outcome JsError) (db : Db) :
    (o = .ok ∧ statement.fits = true ∧
      (orderStatements clock).exec statement o db = (.ok (), statement.perform clock db)) ∨
    (¬(o = .ok ∧ statement.fits = true) ∧
      ∃ e t, (orderStatements clock).exec statement o db = (.error e, t)) := by
  cases fits : statement.fits with
  | true =>
    cases o with
    | ok => exact .inl ⟨rfl, rfl, by simp [Semantics.exec, orderStatements, fits]⟩
    | rejected e => exact .inr ⟨fun h => (by cases h.1), e, _, rfl⟩
    | unacked e => exact .inr ⟨fun h => (by cases h.1), e, _, by simp [Semantics.exec, orderStatements, fits]; rfl⟩
  | false =>
    refine .inr ⟨fun h => (by cases h.2), ?_⟩
    cases o with
    | ok => exact ⟨columnError, db, by simp [Semantics.exec, orderStatements, fits]⟩
    | rejected e => exact ⟨e, db, rfl⟩
    | unacked e => exact ⟨e, db, by simp [Semantics.exec, orderStatements, fits]⟩

namespace CreateOrder

variable (c : CreateOrder)

def body : Prog JsError OrderStatement.Answer Order := do
  Prog.await (.insertOrder c.order.row)
  Prog.await (.insertOutboxEvent c.eventId c.outboxBody)
  pure c.order

def createOrder (clock : Int) (f : TxOutcomes JsError OrderStatement) (db : Db) : Except JsError Order × Db :=
  transact (orderStatements clock) f c.body db

/-- The tables with both rows written. -/
def written (clock : Int) (db : Db) : Db :=
  (OrderStatement.insertOutboxEvent c.eventId c.outboxBody).perform clock (db.insertOrder c.order.row)

/-- The transaction begins, and neither statement fails. -/
def Reaches (f : TxOutcomes JsError OrderStatement) : Prop :=
  f.begin = .ok ∧
  (f.statement [] (.insertOrder c.order.row) = .ok ∧ c.order.row.fits = true) ∧
  f.statement [.insertOrder c.order.row] (.insertOutboxEvent c.eventId c.outboxBody) = .ok ∧
    c.outboxBody.fits c.eventId = true

theorem bodyRun_body (clock : Int) (f : TxOutcomes JsError OrderStatement) (db : Db) :
    (c.Reaches f ∧ bodyRun (orderStatements clock) f c.body db = .ok (c.order, c.written clock db)) ∨
    (¬c.Reaches f ∧ ∃ e, bodyRun (orderStatements clock) f c.body db = .error e) := by
  unfold bodyRun
  cases hbegin : f.begin with
  | rejected e | unacked e => exact .inr ⟨fun h => by simp [Reaches, hbegin] at h, e, rfl⟩
  | ok =>
    have first := exec_orderStatement clock (.insertOrder c.order.row) (f.statement [] (.insertOrder c.order.row)) db
    rcases first with ⟨hok, hfits, hexec⟩ | ⟨hfail, e, t, hexec⟩
    · have second := exec_orderStatement clock (.insertOutboxEvent c.eventId c.outboxBody)
        (f.statement [.insertOrder c.order.row] (.insertOutboxEvent c.eventId c.outboxBody)) (db.insertOrder c.order.row)
      rcases second with ⟨hok', hfits', hexec'⟩ | ⟨hfail, e, t, hexec'⟩
      · refine .inl ⟨⟨hbegin, ⟨hok, hfits⟩, hok', hfits'⟩, ?_⟩
        simp only [body, run_await_ok hexec, OrderStatement.perform, run_await_ok hexec']
        rfl
      · refine .inr ⟨fun h => hfail h.2.2, e, ?_⟩
        simp only [body, run_await_ok hexec, OrderStatement.perform, run_await_error hexec']
        rfl
    · refine .inr ⟨fun h => hfail h.2.1, e, ?_⟩
      simp only [body, run_await_error hexec]
      rfl

theorem createOrder_run (clock : Int) (f : TxOutcomes JsError OrderStatement) (db : Db) :
    (c.Reaches f ∧ f.commit = .ok ∧ c.createOrder clock f db = (.ok c.order, c.written clock db)) ∨
    (∃ e, c.Reaches f ∧ f.commit = .unacked e ∧ c.createOrder clock f db = (.error e, c.written clock db)) ∨
    (¬(c.Reaches f ∧ f.commit.acted = true) ∧ ∃ e, c.createOrder clock f db = (.error e, db)) := by
  unfold createOrder
  rcases c.bodyRun_body clock f db with ⟨reaches, hrun⟩ | ⟨fails, e, hrun⟩
  · rw [transact_of_ok hrun]
    cases hc : f.commit with
    | ok => exact .inl ⟨reaches, rfl, rfl⟩
    | unacked e => exact .inr (.inl ⟨e, reaches, rfl, rfl⟩)
    | rejected e => exact .inr (.inr ⟨fun h => Bool.noConfusion h.2, e, rfl⟩)
  · rw [transact_of_error hrun]
    exact .inr (.inr ⟨fun h => fails h.1, e, rfl⟩)

end CreateOrder

/-! ## What a call should leave -/

/-- The new order and its event are there, with a total that is a number, and nothing else changed. -/
structure Created (order : Order) (payload : Fields) (eventId : String) (db db' : Db) : Prop where
  ordered : ∃ row ∈ db'.orders.rows, row.id = order.id ∧ row.userId = order.userId ∧
    row.totalAmount = order.totalAmount ∧ row.metadata = .obj [("items", itemsJson order.items)]
  counted : ∃ q, order.totalAmount = .finite q
  announced : ∃ row ∈ db'.outboxEvents.rows, row.status = .pending ∧ row.body.aggregateId = order.id ∧
    row.body.payload = payload
  orders_kept : ∀ row ∈ db.orders.rows, row ∈ db'.orders.rows
  orders_new : ∀ row ∈ db'.orders.rows, row ∈ db.orders.rows ∨ row.id = order.id
  events_kept : ∀ row ∈ db.outboxEvents.rows, row ∈ db'.outboxEvents.rows
  events_new : ∀ row ∈ db'.outboxEvents.rows, row ∈ db.outboxEvents.rows ∨ row.id = eventId

/-- A call that returns created its order, and one that throws changed nothing. -/
def CreatesOrNothing (c : CreateOrder) (clock : Int) (f : TxOutcomes JsError OrderStatement) (db : Db) : Prop :=
  match c.createOrder clock f db with
  | (.ok order, db') => Created order c.orderCreatedPayload c.eventId db db'
  | (.error _, db') => db'.orders = db.orders ∧ db'.outboxEvents = db.outboxEvents

namespace CreateOrder

variable (c : CreateOrder)

/-- `JSON` can write all numbers of the order. -/
def Counted : Prop :=
  (∃ q, c.totalAmount = .finite q) ∧ ∀ item ∈ c.items, infinite item.price = false ∧ infinite item.quantity = false

/-- Writing the order over this row leaves the row as it is. -/
def Rewrites (row : OrderRow) : Prop :=
  row.status = c.order.status ∧ row.metadata = c.order.row.metadata ∧ row.updatedAt = c.now

/-- The order id is unused, and the columns hold the user as it is and the amount in
whole cents; or the row that uses the id is this very order. -/
def OrderFree (db : Db) : Prop :=
  (db.orders.get? c.orderId = none ∧ storedVarchar 100 c.userId = c.userId ∧ storedCents c.totalAmount = c.totalAmount) ∨
  ∃ row, db.orders.get? c.orderId = some row ∧ row.userId = c.userId ∧ row.totalAmount = c.totalAmount ∧ c.Rewrites row

/-- The event id is unused, or this very event is pending already. -/
def EventFree (db : Db) : Prop :=
  db.outboxEvents.get? c.eventId = none ∨
  ∃ row ∈ db.outboxEvents.rows, row.status = .pending ∧ row.body.aggregateId = c.orderId ∧
    row.body.payload = c.orderCreatedPayload

/-- Writing both rows changes nothing. -/
def Void (db : Db) : Prop :=
  (∃ row, db.orders.get? c.orderId = some row ∧ c.Rewrites row) ∧ (db.outboxEvents.get? c.eventId).isSome = true

variable {c} {clock : Int} {db : Db}

theorem written_orders : (c.written clock db).orders =
    db.orders.upsert c.order.row.stored
      (fun old => { old with status := c.order.status, metadata := c.order.row.metadata, updatedAt := c.now })
      fun _ => rfl := rfl

theorem written_outboxEvents : (c.written clock db).outboxEvents =
    db.outboxEvents.insertOrIgnore (.fresh c.eventId c.outboxBody clock) := rfl

theorem rewrites_iff {row : OrderRow} : c.Rewrites row ↔
    { row with status := c.order.status, metadata := c.order.row.metadata, updatedAt := c.now } = row := by
  constructor
  · rintro ⟨hstatus, hmetadata, hupdated⟩
    rw [← hstatus, ← hmetadata, ← hupdated]
  · intro h
    rw [← h]
    exact ⟨rfl, rfl, rfl⟩

/-- The order row after the write. -/
theorem get?_written : (c.written clock db).orders.get? c.orderId =
    some ((db.orders.get? c.orderId).elim c.order.row.stored
      fun old => { old with status := c.order.status, metadata := c.order.row.metadata, updatedAt := c.now }) := by
  rw [written_orders]
  exact Table.get?_upsert_self _ _ _ _

theorem get?_written_ne {id : String} (h : id ≠ c.orderId) :
    (c.written clock db).orders.get? id = db.orders.get? id := by
  rw [written_orders]
  exact Table.get?_upsert_ne _ _ _ _ h

theorem created_orders_iff :
    ((∃ row ∈ (c.written clock db).orders.rows, row.id = c.orderId ∧ row.userId = c.userId ∧
        row.totalAmount = c.totalAmount ∧ row.metadata = c.order.row.metadata) ∧
      (∀ row ∈ db.orders.rows, row ∈ (c.written clock db).orders.rows) ∧
      ∀ row ∈ (c.written clock db).orders.rows, row ∈ db.orders.rows ∨ row.id = c.orderId) ↔ c.OrderFree db := by
  have hwritten := @get?_written c clock db
  constructor
  · rintro ⟨⟨row, hrow, hid, huser, htotal, -⟩, kept, -⟩
    have hfound : (c.written clock db).orders.get? c.orderId = some row := Table.get?_eq_some.mpr ⟨hrow, hid⟩
    rw [hwritten, Option.some.injEq] at hfound
    cases hold : db.orders.get? c.orderId with
    | none =>
      rw [hold, Option.elim_none] at hfound
      rw [← hfound] at huser htotal
      exact .inl ⟨hold, huser, htotal⟩
    | some old =>
      obtain ⟨hmem, holdId⟩ := Table.get?_eq_some.mp hold
      have hstill : (c.written clock db).orders.get? c.orderId = some old :=
        Table.get?_eq_some.mpr ⟨kept old hmem, holdId⟩
      rw [hold, Option.elim_some] at hfound
      rw [hwritten, hold, Option.elim_some, Option.some.injEq] at hstill
      have same : old = row := hstill.symm.trans hfound
      exact .inr ⟨old, hold, same ▸ huser, same ▸ htotal, rewrites_iff.mpr hstill⟩
  · intro free
    have elsewhere : ∀ row : OrderRow, row.id ≠ c.orderId →
        (row ∈ (c.written clock db).orders.rows ↔ row ∈ db.orders.rows) := by
      intro row hne
      have := @get?_written_ne c clock db _ hne
      constructor
      · intro h
        exact (Table.get?_eq_some.mp (this.symm.trans (Table.get?_eq_some.mpr ⟨h, rfl⟩))).1
      · intro h
        exact (Table.get?_eq_some.mp (this.trans (Table.get?_eq_some.mpr ⟨h, rfl⟩))).1
    have others : ∀ row ∈ (c.written clock db).orders.rows, row ∈ db.orders.rows ∨ row.id = c.orderId := by
      intro row hrow
      by_cases hid : row.id = c.orderId
      · exact .inr hid
      · exact .inl ((elsewhere row hid).mp hrow)
    rcases free with ⟨hnone, huser, hcents⟩ | ⟨old, hold, huser, htotal, hsame⟩
    · rw [hnone, Option.elim_none] at hwritten
      obtain ⟨hmem, hid⟩ := Table.get?_eq_some.mp hwritten
      refine ⟨⟨_, hmem, hid, huser, hcents, rfl⟩, ?_, others⟩
      intro row hrow
      have hne : row.id ≠ c.orderId := Table.get?_eq_none.mp hnone row hrow
      exact (elsewhere row hne).mpr hrow
    · rw [hold, Option.elim_some, rewrites_iff.mp hsame] at hwritten
      obtain ⟨hmem, hid⟩ := Table.get?_eq_some.mp hwritten
      refine ⟨⟨old, hmem, hid, huser, htotal, hsame.2.1⟩, ?_, others⟩
      intro row hrow
      by_cases hrowId : row.id = c.orderId
      · obtain rfl := Table.eq_of_key (Table.get?_eq_some.mp hold).1 hrow (hid.trans hrowId.symm)
        exact hmem
      · exact (elsewhere row hrowId).mpr hrow

theorem writtenElements_items {items : List OrderItem} :
    writtenElements (items.map OrderItem.toJson) = items.map OrderItem.toJson ↔
      ∀ item ∈ items, infinite item.price = false ∧ infinite item.quantity = false := by
  have number (q : Rat) : (if infinite q = true then Json.null else .num q) = .num q ↔ infinite q = false := by
    cases infinite q <;> simp
  induction items with
  | nil => simp [writtenElements]
  | cons item items ih =>
    rw [List.map_cons, writtenElements, List.cons.injEq, List.forall_mem_cons]
    refine and_congr ?_ ih
    simp only [OrderItem.toJson, Json.written, writtenFields, Json.obj.injEq, List.cons.injEq, Prod.mk.injEq, true_and,
      and_true, number]

theorem metadata_written : c.order.row.metadata = .obj [("items", itemsJson c.items)] ↔
    ∀ item ∈ c.items, infinite item.price = false ∧ infinite item.quantity = false := by
  rw [← writtenElements_items]
  simp [Order.row, order, itemsJson, Json.written, writtenFields]

/-- A sum that is a number is a finite one. -/
theorem totalAmount_finite {q : Rat} (h : c.totalAmount = .finite q) : infinite q = false := by
  have sum (items : List OrderItem) : ∀ n : Number, (∀ q, n = .finite q → infinite q = false) → ∀ q,
      items.foldl (fun sum item => sum.add ((Number.ofRat item.price).mul (.ofRat item.quantity))) n = .finite q →
      infinite q = false := by
    induction items with
    | nil => exact fun n hn => hn
    | cons item items ih =>
      intro n _
      exact ih _ fun q hq => Number.add_finite hq
  refine sum c.items (.finite 0) ?_ q h
  rintro q hq
  cases hq
  exact infinite_whole rfl

theorem payload_written (h : c.Counted) : writtenFields c.orderCreatedPayload = c.orderCreatedPayload := by
  obtain ⟨⟨q, total⟩, items⟩ := h
  have elements := writtenElements_items.mpr items
  simp [orderCreatedPayload, writtenFields, Json.written, itemsJson, elements, total, Number.toJson, totalAmount_finite total]

theorem created_events_iff (counted : c.Counted) :
    (∃ row ∈ (c.written clock db).outboxEvents.rows, row.status = .pending ∧ row.body.aggregateId = c.orderId ∧
      row.body.payload = c.orderCreatedPayload) ↔ c.EventFree db := by
  rw [written_outboxEvents]
  constructor
  · rintro ⟨row, hrow, hstatus, hagg, hpayload⟩
    rcases Table.mem_insertOrIgnore.mp hrow with hold | ⟨-, hnone⟩
    · exact .inr ⟨row, hold, hstatus, hagg, hpayload⟩
    · exact .inl hnone
  · rintro (hnone | ⟨row, hrow, hstatus, hagg, hpayload⟩)
    · exact ⟨_, Table.mem_insertOrIgnore.mpr (.inr ⟨rfl, hnone⟩), rfl, rfl, payload_written counted⟩
    · exact ⟨row, Table.mem_insertOrIgnore.mpr (.inl hrow), hstatus, hagg, hpayload⟩

theorem created_iff : Created c.order c.orderCreatedPayload c.eventId db (c.written clock db) ↔
    c.Counted ∧ c.OrderFree db ∧ c.EventFree db := by
  constructor
  · intro h
    obtain ⟨row, hrow, hid, huser, htotal, hmetadata⟩ := h.ordered
    have hfound : (c.written clock db).orders.get? c.orderId = some row := Table.get?_eq_some.mpr ⟨hrow, hid⟩
    have hsame : row.metadata = c.order.row.metadata := by
      rw [get?_written, Option.some.injEq] at hfound
      rw [← hfound]
      cases db.orders.get? c.orderId <;> rfl
    have counted : c.Counted := ⟨h.counted, metadata_written.mp (hsame.symm.trans hmetadata)⟩
    exact ⟨counted,
      created_orders_iff.mp ⟨⟨row, hrow, hid, huser, htotal, hsame⟩, h.orders_kept, h.orders_new⟩,
      (created_events_iff counted).mp h.announced⟩
  · rintro ⟨counted, hfree, hevent⟩
    obtain ⟨ordered, orders_kept, orders_new⟩ := created_orders_iff.mpr hfree
    rw [metadata_written.mpr counted.2] at ordered
    refine ⟨ordered, counted.1, (created_events_iff counted).mpr hevent, orders_kept, orders_new, ?_, ?_⟩
    · intro row hrow
      exact Table.mem_insertOrIgnore.mpr (.inl hrow)
    · intro row hrow
      rcases Table.mem_insertOrIgnore.mp hrow with hold | ⟨rfl, -⟩
      · exact .inl hold
      · exact .inr rfl

theorem void_iff :
    (c.written clock db).orders = db.orders ∧ (c.written clock db).outboxEvents = db.outboxEvents ↔ c.Void db := by
  have hwritten := @get?_written c clock db
  constructor
  · rintro ⟨horders, hevents⟩
    rw [horders] at hwritten
    constructor
    · cases hold : db.orders.get? c.orderId with
      | none =>
        rw [hold] at hwritten
        cases hwritten
      | some old =>
        rw [hold, Option.elim_some, Option.some.injEq] at hwritten
        exact ⟨old, rfl, rewrites_iff.mpr hwritten.symm⟩
    · rw [← hevents, written_outboxEvents, Table.get?_insertOrIgnore]
      exact if_pos rfl ▸ rfl
  · rintro ⟨⟨old, hold, hsame⟩, hused⟩
    constructor
    · have hpresent : (db.orders.get? c.orderId).isSome = true := by
        rw [hold]
        rfl
      rw [written_orders, Table.upsert_of_present hpresent]
      apply Table.update_of_fixed
      intro row hrow hkey
      obtain ⟨hmem, hid⟩ := Table.get?_eq_some.mp hold
      obtain rfl := Table.eq_of_key hmem hrow (hid.trans (of_decide_eq_true hkey).symm)
      exact rewrites_iff.mp hsame
    · rw [written_outboxEvents]
      exact Table.insertOrIgnore_of_present hused

end CreateOrder

/-- A call creates its order or nothing just when it does not commit, or commits
numbers that the rows can hold with both identifiers free, or loses the answer
of a `COMMIT` that changed nothing. -/
theorem creates_or_nothing_iff (c : CreateOrder) (clock : Int) (f : TxOutcomes JsError OrderStatement) (db : Db) :
    CreatesOrNothing c clock f db ↔
      ¬(c.Reaches f ∧ f.commit.acted = true) ∨
      (f.commit = .ok ∧ c.Counted ∧ c.OrderFree db ∧ c.EventFree db) ∨
      (f.commit ≠ .ok ∧ c.Void db) := by
  unfold CreatesOrNothing
  rcases c.createOrder_run clock f db with ⟨reaches, hcommit, hrun⟩ | ⟨e, reaches, hcommit, hrun⟩ | ⟨fails, e, hrun⟩
  · rw [hrun]
    simp only [reaches, hcommit, Outcome.acted, not_true_eq_false, and_self, ne_eq, false_and, or_false, false_or,
      true_and]
    exact CreateOrder.created_iff
  · rw [hrun]
    simp only [reaches, hcommit, Outcome.acted, not_true_eq_false, and_self, ne_eq, false_and, false_or, reduceCtorEq,
      not_false_eq_true, true_and]
    exact CreateOrder.void_iff
  · rw [hrun]
    exact ⟨fun _ => .inl fails, fun _ => ⟨rfl, rfl⟩⟩

def aliceCreates : CreateOrder where
  userId := "usr_alice"
  items := [⟨"LAPTOP-001", "Workstation", 1200, 1⟩]
  options := {}
  orderUuid := "5f0c9e1a-0b52-4a57-9d6e-2f6a1c3b4d5e"
  eventUuid := "0a1b2c3d-8e9f-4a0b-8c1d-2e3f4a5b6c7d"
  now := 1000

/-- Another user's order, whose identifier begins with the same eight digits. -/
def bobCreates : CreateOrder where
  userId := "usr_bob"
  items := [⟨"PHONE-002", "Smartphone", 800, 2⟩]
  options := {}
  orderUuid := "5f0c9e1a-77aa-4c11-a2b3-9e8d7c6b5a40"
  eventUuid := "9c8b7a65-1234-4abc-9def-0123456789ab"
  now := 2000

/-- The earlier order keeps its user and amount and gets the items of the later
one, whose caller is told that it was created. -/
theorem earlier_order_overwritten :
    let db := (aliceCreates.createOrder 1000 .allOk .empty).2
    let r := bobCreates.createOrder 2000 .allOk db
    r.1 = .ok bobCreates.order ∧
    (r.2.orders.rows.map fun row => (row.userId, row.totalAmount, row.metadata)) =
      [("usr_alice", .finite 1200, .obj [("items", itemsJson bobCreates.items)])] ∧
    ¬CreatesOrNothing bobCreates 2000 .allOk db := by
  intro db r
  have returns : r.1 = .ok bobCreates.order := by decide +kernel
  have rows : (r.2.orders.rows.map fun row => (row.userId, row.totalAmount, row.metadata)) =
      [("usr_alice", .finite 1200, .obj [("items", itemsJson bobCreates.items)])] := by decide +kernel
  refine ⟨returns, rows, ?_⟩
  intro h
  have created : Created bobCreates.order bobCreates.orderCreatedPayload bobCreates.eventId db r.2 := by
    have hr : bobCreates.createOrder 2000 .allOk db = (r.1, r.2) := rfl
    rw [CreatesOrNothing, hr, returns] at h
    exact h
  obtain ⟨row, hrow, -, huser, -, -⟩ := created.ordered
  have member : (row.userId, row.totalAmount, row.metadata) ∈
      r.2.orders.rows.map fun row => (row.userId, row.totalAmount, row.metadata) := List.mem_map_of_mem hrow
  rw [rows, List.mem_singleton] at member
  exact absurd (huser.symm.trans (congrArg Prod.fst member)) (by decide)

end Fulfillment
