import Fulfillment.Projection.Concerns

/-!
# The row of an order

Every event writes the row of its order at most once. What it writes, the time
aside, is an `OrderWrite`.
-/

namespace Fulfillment

open Js

/-- The row after some of its columns were assigned. -/
def setColumns (values : OrderColumn → Option (Option String)) (row : OrderView) : OrderView :=
  { row with
    paymentId := (values .paymentId).getD row.paymentId
    reservationId := (values .reservationId).getD row.reservationId
    fraudCheckId := (values .fraudCheckId).getD row.fraudCheckId
    shipmentId := (values .shipmentId).getD row.shipmentId
    trackingNumber := (values .trackingNumber).getD row.trackingNumber
    failureReason := (values .failureReason).getD row.failureReason }

inductive OrderWrite
  | insert (userId : String) (totalAmount : Rat) (currency : String) (items : Json)
  | set (status : String) (columns : OrderColumn → Option (Option String))

def OrderWrite.apply (time : Int) : OrderWrite → Option OrderView → Option OrderView
  | .insert userId totalAmount currency items, old =>
    some (old.elim
      { userId, status := "pending", totalAmount, currency, items, paymentId := none, reservationId := none,
        fraudCheckId := none, shipmentId := none, trackingNumber := none, failureReason := none,
        createdAt := time, updatedAt := time, version := 1 }
      fun old => { old with status := "pending", totalAmount, items, updatedAt := time })
  | .set status columns, old => old.map fun row => { setColumns columns row with status, updatedAt := time }

variable (pg : Postgres)

/-- The values that the assignments of a `SET` clause leave, the last one of a column counting. -/
def assigned : List (OrderColumn × Option Json) → OrderColumn → Option (Option String)
  | [], _ => none
  | (c, v) :: columns, c' =>
    match assigned columns c' with
    | some value => some value
    | none => if c' = c then (c.read pg v).toOption else none

def Mutation.orderWrite : Mutation → Option OrderWrite
  | .insertOrder _ userId totalAmount currency items _ =>
    match notNull (pg.varchar 100 userId), notNull (pg.decimal totalAmount), notNull (pg.varchar 10 (some currency)) with
    | .ok userId, .ok totalAmount, .ok currency => some (.insert userId totalAmount currency items)
    | _, _, _ => none
  | .updateOrder _ status columns _ => some (.set status (assigned pg columns))
  | _ => none

/-- What the event writes to the row of its order, if anything. -/
def orderWrite (e : EventEnvelope) : Option OrderWrite := (mutations e).findSome? (Mutation.orderWrite pg)

/-- The row of the order after a write that may be none. -/
def writeOrder (time : Int) : Option OrderWrite → Option OrderView → Option OrderView
  | none, row => row
  | some write, row => write.apply time row

variable {pg}

theorem setColumns_assign (values : OrderColumn → Option (Option String)) (c : OrderColumn) (v : Option String)
    (row : OrderView) :
    setColumns values (c.assign v row) =
      setColumns (fun c' => match values c' with
        | some value => some value
        | none => if c' = c then some v else none) row := by
  cases c <;> simp only [setColumns, OrderColumn.assign] <;> congr 1 <;> cases values _ <;> rfl

theorem readColumns_returns {columns : List (OrderColumn × Option Json)} {assign : OrderView → OrderView}
    (h : readColumns pg columns = .ok assign) : assign = setColumns (assigned pg columns) := by
  induction columns generalizing assign with
  | nil =>
    cases h
    rfl
  | cons column columns ih =>
    obtain ⟨value, hvalue, h⟩ := bind_returns h
    obtain ⟨rest, hrest, h⟩ := bind_returns h
    cases h
    funext row
    rw [Function.comp, ih hrest, setColumns_assign]
    congr 1
    funext c'
    simp only [assigned, hvalue, Except.toOption]

theorem insertOrder_row {orderId : String} {userId totalAmount : Option Json} {currency items : Json} {occurredAt : String}
    {change : Change}
    (h : (Mutation.insertOrder orderId userId totalAmount currency items occurredAt).change pg = .ok change)
    (m : ReadModels) :
    change.apply m (.order orderId) = writeOrder (eventTime pg occurredAt)
      ((Mutation.insertOrder orderId userId totalAmount currency items occurredAt).orderWrite pg) (m (.order orderId)) := by
  unfold Mutation.change at h
  obtain ⟨_, -, h⟩ := bind_returns h
  obtain ⟨userId', huserId, h⟩ := bind_returns h
  obtain ⟨totalAmount', htotal, h⟩ := bind_returns h
  obtain ⟨currency', hcurrency, h⟩ := bind_returns h
  obtain ⟨items', hitems, h⟩ := bind_returns h
  obtain ⟨time, htime, h⟩ := bind_returns h
  cases h
  have same : items' = items := by
    unfold jsonb at hitems
    split at hitems
    · exact (Except.ok.inj hitems).symm
    · cases hitems
  subst same
  rw [eventTime_of_read htime, Change.apply, ReadModels.upsert_self]
  simp only [Mutation.orderWrite, huserId, htotal, hcurrency, writeOrder, OrderWrite.apply]

theorem updateOrder_row {orderId status : String} {columns : List (OrderColumn × Option Json)} {occurredAt : String}
    {change : Change} (h : (Mutation.updateOrder orderId status columns occurredAt).change pg = .ok change)
    (m : ReadModels) :
    change.apply m (.order orderId) = writeOrder (eventTime pg occurredAt)
      ((Mutation.updateOrder orderId status columns occurredAt).orderWrite pg) (m (.order orderId)) := by
  unfold Mutation.change at h
  obtain ⟨_, -, h⟩ := bind_returns h
  obtain ⟨assign, hassign, h⟩ := bind_returns h
  obtain ⟨time, htime, h⟩ := bind_returns h
  cases h
  rw [eventTime_of_read htime, Change.apply, ReadModels.update_self, readColumns_returns hassign]
  rfl

theorem orderWrite_of_other {m : Mutation} (other : m.table ≠ .orders) : m.orderWrite pg = none := by
  cases m <;> first | rfl | exact absurd rfl other

theorem findSome_others {ms : List Mutation} (others : ∀ m ∈ ms, m.table ≠ .orders) :
    ms.findSome? (Mutation.orderWrite pg) = none := by
  rw [List.findSome?_eq_none_iff]
  intro m hm
  exact orderWrite_of_other (others m hm)

/-- The order's statement comes first, if there is one. -/
theorem changesOf_orderRow {m : Mutation} {rest : List Mutation} {changes : List Change}
    (h : changesOf pg (m :: rest) = .ok changes) (others : ∀ m' ∈ rest, m'.table ≠ .orders) {orderId : String}
    {time : Int} {models : ReadModels}
    (own : ∀ change, m.change pg = .ok change → change.apply models (.order orderId) =
      writeOrder time (m.orderWrite pg) (models (.order orderId))) :
    applyChanges changes models (.order orderId) =
      writeOrder time ((m :: rest).findSome? (Mutation.orderWrite pg)) (models (.order orderId)) := by
  obtain ⟨change, hchange, h⟩ := bind_returns h
  obtain ⟨changes', hrest, h⟩ := bind_returns h
  cases h
  have apart : ∀ m' ∈ rest, (ModelKey.order orderId).table ≠ m'.table := fun m' hm' => (others m' hm').symm
  have hlast : applyChanges changes' (change.apply models) (.order orderId) = change.apply models (.order orderId) :=
    changesOf_frame apart hrest _
  have hwrite : (m :: rest).findSome? (Mutation.orderWrite pg) = m.orderWrite pg := by
    rw [List.findSome?_cons, findSome_others others]
    cases m.orderWrite pg <;> rfl
  rw [hwrite]
  exact hlast.trans (own change hchange)

/-- An event writes the row of its order. -/
theorem changesOfEvent_orderRow {e : EventEnvelope} {changes : List Change} (h : changesOfEvent pg e = .ok changes)
    (m : ReadModels) :
    applyChanges changes m (.order e.aggregateId) =
      writeOrder (eventTime pg e.occurredAt) (orderWrite pg e) (m (.order e.aggregateId)) := by
  unfold changesOfEvent at h
  unfold orderWrite
  unfold mutations at h ⊢
  cases ht : e.eventType <;> simp only [ht] at h ⊢
  case orderCreated => exact changesOf_orderRow h (by simp) fun change hchange => insertOrder_row hchange m
  case paymentRefunded | inventoryReleased | paymentRefundRequested | shipmentFailed | notificationRequested |
      notificationSent | other =>
    rw [findSome_others (by simp [Mutation.table])]
    exact changesOf_frame (by simp [Mutation.table, ModelKey.table]) h m
  all_goals exact changesOf_orderRow h (by simp [Mutation.table]) fun change hchange => updateOrder_row hchange m

/-! ## The timestamps aside -/

def OrderView.timeless (row : OrderView) : OrderView := { row with createdAt := 0, updatedAt := 0 }

end Fulfillment
