import Fulfillment.Contracts.RoundTrip
import Fulfillment.Projection.ProjectionConsumer

/-!
# Sequence numbers that a producer chooses

`sequence_number` is an `INT`, unique for an aggregate. The contract lets a
producer choose any positive number, and the store numbers the other events
after the largest it has; `ON CONFLICT` speaks of `event_id` only.
-/

namespace Fulfillment

open Js

variable (pg : Postgres)

/-- An append that throws leaves the store as it was. -/
def EventStore.after (s : EventStore) (e : EventEnvelope) : EventStore :=
  match appendToEventStore pg e s with
  | .ok s' => s'
  | .error _ => s

def appendAll (es : List EventEnvelope) : EventStore := es.foldl (EventStore.after pg) .empty

/-- No stored event has the identifier. -/
def NewEvent (e : EventEnvelope) (s : EventStore) : Prop := e.eventId ∉ s.events.map StoredEvent.eventId

/-- The event is stored under the number it asks for, or one larger than all of its aggregate. -/
def StoredAsAsked (e : EventEnvelope) (s : EventStore) : Prop :=
  ∃ s' number time, appendToEventStore pg e s = .ok s' ∧ s'.events = e.stored number time :: s.events ∧
    match e.sequenceNumber with
    | some asked => number = asked
    | none => ∀ row ∈ s.ofAggregate e.aggregateId, row.sequenceNumber < number

/-- The number asked for is an `INT` that no event of the aggregate has, or a number is left after the last. -/
def NumberFree (e : EventEnvelope) (s : EventStore) : Prop :=
  match e.sequenceNumber with
  | some asked => asked ≤ 2147483647 ∧ ∀ row ∈ s.ofAggregate e.aggregateId, row.sequenceNumber ≠ asked
  | none => ∀ row ∈ s.ofAggregate e.aggregateId, row.sequenceNumber < 2147483647

/-- The other columns take the event. -/
def ColumnsTake (e : EventEnvelope) : Prop := e.fitsEventStore = true ∧ (pg.readTimestamp e.occurredAt).isOk = true

variable {pg} {e : EventEnvelope} {s : EventStore}

/-- A new event is stored when its number, given or computed, fits and is not taken. -/
theorem append_new (new : NewEvent e s) {number : Nat}
    (computed : (sequenceParam e.sequenceNumber).getD (s.nextSequence e.aggregateId) = number) :
    (appendToEventStore pg e s).isOk = true ↔
      ColumnsTake pg e ∧ number ≤ 2147483647 ∧ (e.aggregateId, number) ∉ s.events.map StoredEvent.position := by
  unfold appendToEventStore ColumnsTake
  cases pg.readTimestamp e.occurredAt with
  | error err =>
    constructor
    · intro h
      cases h
    · intro h
      cases h.1.2
  | ok time =>
    simp only [Except.bind, bind, computed]
    have small : fitsInt number = true ↔ number ≤ 2147483647 := by
      unfold fitsInt
      rw [decide_eq_true_eq]
      omega
    by_cases columns : e.fitsEventStore = true
    · by_cases fits : fitsInt number = true
      · simp only [columns, fits, Bool.and_self, Bool.not_true, Bool.false_eq_true, if_false]
        rw [dif_neg new]
        by_cases taken : (e.aggregateId, number) ∈ s.events.map StoredEvent.position
        · rw [dif_pos taken]
          constructor
          · intro h
            cases h
          · intro h
            exact absurd taken h.2.2
        · rw [dif_neg taken]
          exact ⟨fun _ => ⟨⟨trivial, rfl⟩, small.mp fits, taken⟩, fun _ => rfl⟩
      · simp only [columns, fits, Bool.and_false, Bool.not_false, if_true]
        constructor
        · intro h
          cases h
        · intro h
          exact absurd (small.mpr h.2.1) fits
    · simp only [columns, Bool.false_and, Bool.not_false, if_true]
      constructor
      · intro h
        cases h
      · intro h
        cases h.1.1

theorem position_taken_iff {number : Nat} : (e.aggregateId, number) ∈ s.events.map StoredEvent.position ↔
    ∃ row ∈ s.ofAggregate e.aggregateId, row.sequenceNumber = number := by
  simp only [List.mem_map, EventStore.ofAggregate, List.mem_filter, decide_eq_true_eq, Prod.mk.injEq]
  constructor
  · rintro ⟨row, stored, own, same⟩
    exact ⟨row, ⟨stored, own⟩, same⟩
  · rintro ⟨row, ⟨stored, own⟩, same⟩
    exact ⟨row, stored, own, same⟩

/-- The number that the store computes is free when it is an `INT`. -/
theorem nextSequence_free : (e.aggregateId, s.nextSequence e.aggregateId) ∉ s.events.map StoredEvent.position := by
  rw [position_taken_iff]
  rintro ⟨row, own, same⟩
  have := (nextSequence_le.mp le_rfl).2 row own
  omega

theorem sequenceParam_valid (valid : e.Valid) : sequenceParam e.sequenceNumber = e.sequenceNumber := by
  unfold sequenceParam
  split
  · rename_i zero
    exact absurd zero valid.sequenceNumber
  · rfl

/-- What the store makes of a new event. -/
theorem storedAsAsked_iff (valid : e.Valid) (new : NewEvent e s) :
    StoredAsAsked pg e s ↔ ColumnsTake pg e ∧ NumberFree e s := by
  have accepted : StoredAsAsked pg e s ↔ (appendToEventStore pg e s).isOk = true := by
    constructor
    · rintro ⟨s', number, time, appended, -⟩
      exact isOk_of_ok appended
    · intro accepted
      obtain ⟨s', appended⟩ := ok_of_isOk accepted
      obtain ⟨-, time, -, ⟨known, -⟩ | ⟨-, events⟩⟩ := appendToEventStore_returns appended
      · exact absurd known new
      refine ⟨s', _, time, appended, events, ?_⟩
      rw [sequenceParam_valid valid]
      cases e.sequenceNumber with
      | some asked => rfl
      | none => exact (nextSequence_le.mp le_rfl).2
  rw [accepted]
  unfold NumberFree
  cases asked : e.sequenceNumber with
  | some number =>
    have computed : (sequenceParam e.sequenceNumber).getD (s.nextSequence e.aggregateId) = number := by
      rw [sequenceParam_valid valid, asked]
      rfl
    rw [append_new new computed, position_taken_iff]
    simp only [not_exists, not_and]
  | none =>
    have computed : (sequenceParam e.sequenceNumber).getD (s.nextSequence e.aggregateId) = s.nextSequence e.aggregateId := by
      rw [sequenceParam_valid valid, asked]
      rfl
    rw [append_new new computed, and_iff_left nextSequence_free]
    apply and_congr_right'
    rw [nextSequence_le, and_iff_right (by decide)]

def numbered (eventId : String) (sequenceNumber : Option Nat) : EventEnvelope where
  eventId := eventId
  eventType := .notificationSent
  eventVersion := 1
  sequenceNumber := sequenceNumber
  aggregateId := "ord_1"
  aggregateType := "Order"
  occurredAt := "2026-01-01T10:00:00.000Z"
  producer := "notification-consumer"
  correlationId := "ord_1"
  causationId := "evt_0"
  schemaVersion := 1
  payload := []

/-- Nothing the schema asks of it depends on the identifier or the number. -/
theorem numbered_valid {eventId : String} {sequenceNumber : Option Nat} (named : eventId ≠ "")
    (positive : sequenceNumber ≠ some 0) : (numbered eventId sequenceNumber).Valid where
  eventId := named
  eventType := show "NotificationSent" ≠ "" by decide
  named := show EventType.ofName EventType.notificationSent.name = .notificationSent by decide
  eventVersion := Nat.one_pos
  sequenceNumber := positive
  aggregateId := show "ord_1" ≠ "" by decide
  aggregateType := show "Order" ≠ "" by decide
  occurredAt := show datetimeField (some (.str "2026-01-01T10:00:00.000Z")) = some "2026-01-01T10:00:00.000Z" by decide +kernel
  producer := show "notification-consumer" ≠ "" by decide
  correlationId := show "ord_1" ≠ "" by decide
  causationId := show "evt_0" ≠ "" by decide
  schemaVersion := Nat.one_pos
  payload := nofun

end Fulfillment
