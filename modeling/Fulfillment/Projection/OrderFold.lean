import Fulfillment.Projection.OrderRow
import Fulfillment.Projection.ProjectionConsumer
import Fulfillment.Relational.Log

/-!
# The row of an order as a fold

Timestamps aside, the row reflects the store when it is the fold of the stored
events that are marked, in sequence order. An application keeps that when no
later event that writes the row is marked.
-/

namespace Fulfillment

open Js Relational

variable (pg : Postgres)

/-- What an event makes of the row of its order. -/
def orderStep (row : Option OrderView) (e : EventEnvelope) : Option OrderView := writeOrder 0 (orderWrite pg e) row

def orderFold (events : List EventEnvelope) : Option OrderView := events.foldl (orderStep pg) none

def storedStep (row : Option OrderView) (s : StoredEvent) : Option OrderView := orderStep pg row (s.envelope pg)

/-- The stored events of an order that are marked, in sequence order. -/
def appliedEvents (orderId : String) (s : EventStore) (db : ProjectionDb) : List StoredEvent :=
  (s.inOrder orderId).filter fun e => db.isProjectionEventApplied e.eventId

def orderRow (orderId : String) (db : ProjectionDb) : Option OrderView :=
  (db.models (.order orderId)).map OrderView.timeless

def Reflects (orderId : String) (s : EventStore) (db : ProjectionDb) : Prop :=
  orderRow orderId db = orderFold pg ((appliedEvents orderId s db).map (StoredEvent.envelope pg))

/-- The stored form of the event. -/
structure StoredEvent.IsOf (s : StoredEvent) (e : EventEnvelope) : Prop where
  eventId : s.eventId = e.eventId
  aggregateId : s.aggregateId = e.aggregateId
  eventType : s.eventType = e.eventType
  payload : s.payload = e.payload

/-- Of the later events of the order, those that are marked do not write its row. -/
def InPlace (s : StoredEvent) (store : EventStore) (db : ProjectionDb) : Prop :=
  ∀ t ∈ store.events, t.aggregateId = s.aggregateId → s.sequenceNumber < t.sequenceNumber →
    db.isProjectionEventApplied t.eventId = true → orderWrite pg (t.envelope pg) = none

variable {pg} {orderId : String}

/-! ## The timestamps aside -/

theorem writeOrder_timeless (time : Int) (write : Option OrderWrite) (row : Option OrderView) :
    (writeOrder time write row).map OrderView.timeless = writeOrder 0 write (row.map OrderView.timeless) := by
  cases write with
  | none => rfl
  | some write =>
    cases write with
    | insert userId totalAmount currency items => cases row <;> rfl
    | set status columns => cases row <;> rfl

theorem orderWrite_retime (m : Mutation) (time : String) : (m.retime time).orderWrite pg = m.orderWrite pg := by
  cases m <;> rfl

theorem orderWrite_congr {e e' : EventEnvelope} (sameType : e'.eventType = e.eventType)
    (sameAggregate : e'.aggregateId = e.aggregateId) (samePayload : e'.payload = e.payload) :
    orderWrite pg e' = orderWrite pg e := by
  rw [orderWrite, mutations_retime sameType sameAggregate samePayload, List.findSome?_map, orderWrite]
  congr 1
  funext m
  exact orderWrite_retime m _

theorem StoredEvent.IsOf.orderWrite {s : StoredEvent} {e : EventEnvelope} (h : s.IsOf e) :
    orderWrite pg (s.envelope pg) = orderWrite pg e :=
  orderWrite_congr h.eventType h.aggregateId h.payload

theorem changes_orderRow {e : EventEnvelope} {changes : List Change} (h : changesOfEvent pg e = .ok changes)
    (about : e.aggregateId = orderId) (m : ReadModels) :
    (applyChanges changes m (.order orderId)).map OrderView.timeless =
      orderStep pg ((m (.order orderId)).map OrderView.timeless) e := by
  subst about
  rw [changesOfEvent_orderRow h, writeOrder_timeless, orderStep]

/-- The order row after the mutations of events, one after another. -/
theorem foldEvents_orderRow {events : List EventEnvelope} {m m' : ReadModels} (h : foldEvents pg events m = .ok m')
    (about : ∀ e ∈ events, e.aggregateId = orderId) :
    (m' (.order orderId)).map OrderView.timeless =
      events.foldl (orderStep pg) ((m (.order orderId)).map OrderView.timeless) := by
  induction events generalizing m with
  | nil =>
    cases h
    rfl
  | cons e events ih =>
    unfold foldEvents at h
    rw [mutate_eq] at h
    cases hchanges : changesOfEvent pg e with
    | error err =>
      rw [hchanges] at h
      cases h
    | ok changes =>
      rw [hchanges] at h
      rw [ih h fun e' he' => about e' (List.mem_cons_of_mem _ he'), List.foldl_cons,
        changes_orderRow hchanges (about e List.mem_cons_self)]

/-- Events that apply have a fold. -/
theorem foldEvents_of_applies {events : List EventEnvelope} (h : ∀ e ∈ events, Applies pg e) (m : ReadModels) :
    ∃ m', foldEvents pg events m = .ok m' := by
  induction events generalizing m with
  | nil => exact ⟨m, rfl⟩
  | cons e events ih =>
    obtain ⟨changes, ok⟩ := ok_of_isOk (h e List.mem_cons_self).2.1
    obtain ⟨m', hrest⟩ := ih (fun e' he' => h e' (List.mem_cons_of_mem _ he')) (applyChanges changes m)
    refine ⟨m', ?_⟩
    rw [foldEvents, mutate_eq, ok]
    exact hrest

/-! ## The store -/

instance : Std.Total StoredEvent.Before where
  total a b := by
    unfold StoredEvent.Before
    omega

instance : IsTrans StoredEvent StoredEvent.Before where
  trans a b c hab hbc := by
    unfold StoredEvent.Before at *
    omega

theorem inOrder_sorted (s : EventStore) (orderId : String) : (s.inOrder orderId).Pairwise StoredEvent.Before :=
  List.pairwise_insertionSort _ _

theorem inOrder_nodup (s : EventStore) (orderId : String) : (s.inOrder orderId).Nodup := by
  rw [EventStore.inOrder, (List.perm_insertionSort _ _).nodup_iff]
  exact (List.Nodup.of_map _ s.uniqueId).filter _

/-- Stored events are told apart by their ids. -/
theorem stored_eq {s : EventStore} {a b : StoredEvent} (ha : a ∈ s.events) (hb : b ∈ s.events)
    (same : a.eventId = b.eventId) : a = b :=
  List.inj_on_of_nodup_map s.uniqueId ha hb same

/-- The sequence numbers of an aggregate differ. -/
theorem sequence_lt {s : EventStore} {a b : StoredEvent} (ha : a ∈ s.events) (hb : b ∈ s.events)
    (same : b.aggregateId = a.aggregateId) (before : a.Before b) (other : b ≠ a) :
    a.sequenceNumber < b.sequenceNumber := by
  rcases before with lt | ⟨eq, -⟩
  · exact lt
  · have position : b.position = a.position := Prod.ext same eq.symm
    exact absurd (List.inj_on_of_nodup_map s.uniquePosition hb ha position) other

/-! ## Steps -/

theorem reflects_iff {s : EventStore} {db : ProjectionDb} :
    Reflects pg orderId s db ↔ orderRow orderId db = (appliedEvents orderId s db).foldl (storedStep pg) none := by
  rw [Reflects, orderFold, List.foldl_map]
  rfl

/-- A stored event that is not marked yet changes nothing. -/
theorem appliedEvents_cons {s s' : EventStore} {db : ProjectionDb} {e : StoredEvent} (events : s'.events = e :: s.events)
    (unmarked : db.isProjectionEventApplied e.eventId = false) :
    appliedEvents orderId s' db = appliedEvents orderId s db := by
  unfold appliedEvents EventStore.inOrder EventStore.ofAggregate
  rw [events, List.filter_cons]
  split
  · rw [List.insertionSort_cons]
    exact filter_orderedInsert (p := fun e : StoredEvent => db.isProjectionEventApplied e.eventId) unmarked _
  · rfl

theorem Reflects.append {s s' : EventStore} {db : ProjectionDb} {e : EventEnvelope} (h : Reflects pg orderId s db)
    (appended : appendToEventStore pg e s = .ok s')
    (unmarked : e.eventId ∉ s.events.map StoredEvent.eventId → db.isProjectionEventApplied e.eventId = false) :
    Reflects pg orderId s' db := by
  obtain ⟨-, time, -, ⟨-, rfl⟩ | ⟨fresh, hevents⟩⟩ := appendToEventStore_returns appended
  · exact h
  · unfold Reflects
    rw [appliedEvents_cons hevents (unmarked fresh)]
    exact h

/-- The event is applied in its place. -/
theorem Reflects.apply {s : EventStore} {db db' : ProjectionDb} {e : EventEnvelope} {clock : Int}
    (h : Reflects pg orderId s db) (once : applyOnce pg clock e db = .ok db') (about : e.aggregateId = orderId)
    {stored : StoredEvent} (hstored : stored ∈ s.events) (isOf : stored.IsOf e)
    (inPlace : db.isProjectionEventApplied e.eventId = true ∨ orderWrite pg e = none ∨ InPlace pg stored s db) :
    Reflects pg orderId s db' := by
  cases marked : db.isProjectionEventApplied e.eventId with
  | true =>
    rw [applyOnce_marked once marked]
    exact h
  | false =>
    obtain ⟨hmutate, happlied⟩ := applyOnce_unmarked once marked
    obtain ⟨changes, ok, hmodels⟩ : ∃ changes, changesOfEvent pg e = .ok changes ∧
        db'.models = applyChanges changes db.models := by
      rw [mutate_eq] at hmutate
      cases hchanges : changesOfEvent pg e with
      | error err =>
        rw [hchanges] at hmutate
        cases hmutate
      | ok changes =>
        rw [hchanges] at hmutate
        exact ⟨changes, rfl, (Except.ok.inj hmutate).symm⟩
    have hrow : orderRow orderId db' = orderStep pg (orderRow orderId db) e := by
      rw [orderRow, hmodels]
      exact changes_orderRow ok about _
    -- the marked events are those from before and this one
    have hevents : appliedEvents orderId s db' =
        (s.inOrder orderId).filter fun x => db.isProjectionEventApplied x.eventId || x = stored := by
      unfold appliedEvents
      apply List.filter_congr
      intro x hx
      rw [congrFun (marked_update happlied) x.eventId]
      congr 1
      have hmem := (mem_inOrder.mp hx).1
      by_cases same : x = stored
      · subst same
        simp [isOf.eventId]
      · have other : x.eventId ≠ e.eventId := fun hid => same (stored_eq hmem hstored (hid.trans isOf.eventId.symm))
        simp [same, other]
    have step : ∀ row, storedStep pg row stored = orderStep pg row e := by
      intro row
      rw [storedStep, orderStep, isOf.orderWrite, orderStep]
    have own : stored ∈ s.inOrder orderId := mem_inOrder.mpr ⟨hstored, isOf.aggregateId.trans about⟩
    have unmarked : db.isProjectionEventApplied stored.eventId = false := by rw [isOf.eventId, marked]
    rw [reflects_iff] at h ⊢
    rw [hrow, hevents, h, ← step]
    rcases inPlace with hmarked | silent | inPlace
    · rw [marked] at hmarked
      cases hmarked
    · have idle : ∀ row, storedStep pg row stored = row := by
        intro row
        rw [step, orderStep, silent, writeOrder]
      rw [idle, foldl_filter_silent idle]
      rfl
    · have later : ∀ x ∈ s.inOrder orderId, stored.Before x → x ≠ stored → db.isProjectionEventApplied x.eventId = true →
          ∀ row, storedStep pg row x = row := by
        intro x hx before other applied row
        obtain ⟨hmem, hown⟩ := mem_inOrder.mp hx
        have same : x.aggregateId = stored.aggregateId := hown.trans (about.symm.trans isOf.aggregateId.symm)
        rw [storedStep, orderStep, inPlace x hmem same (sequence_lt hstored hmem same before other) applied, writeOrder]
      rw [foldl_filter_insert (inOrder_sorted s orderId) (inOrder_nodup s orderId) own later, unmarked]
      rfl

end Fulfillment
