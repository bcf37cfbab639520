import Fulfillment.Projection.EventStore
import Fulfillment.Projection.Sequential

/-!
# Whether an event applies

An application fails of itself only for what the event says, and the time it
says counts only in so far as it can be read.
-/

namespace Fulfillment

open Js

/-- An application of the event succeeds, unless it is skipped. -/
def Applies (pg : Postgres) (e : EventEnvelope) : Prop :=
  fitsText e.eventId = true ∧ (changesOfEvent pg e).isOk = true ∧ markerFits e.eventId e.aggregateId = true

instance (pg : Postgres) (e : EventEnvelope) : Decidable (Applies pg e) := inferInstanceAs (Decidable (_ ∧ _ ∧ _))

variable {pg : Postgres}

theorem applies_iff {clock : Int} {e : EventEnvelope} {db : ProjectionDb}
    (unmarked : db.isProjectionEventApplied e.eventId = false) :
    Applies pg e ↔ ∃ db', applyOnce pg clock e db = .ok db' := by
  unfold Applies applyOnce
  rw [unmarked, mutate_eq]
  cases changesOfEvent pg e with
  | error err =>
    constructor
    · rintro ⟨-, hok, -⟩
      cases hok
    · rintro ⟨db', happlied⟩
      split at happlied <;> cases happlied
  | ok changes =>
    by_cases text : fitsText e.eventId = true
    · by_cases marker : markerFits e.eventId e.aggregateId = true
      · simp [text, marker, Except.map, Except.bind, Except.isOk, Except.toBool]
      · simp [text, marker, Except.map, Except.bind]
    · simp [text]

/-- Distinct events stay unmarked until their turn. -/
theorem unmarked_after {clock : Int} {e e' : EventEnvelope} {db db' : ProjectionDb}
    (h : applyOnce pg clock e db = .ok db') (unmarked : db.isProjectionEventApplied e.eventId = false)
    (other : e'.eventId ≠ e.eventId) (unmarked' : db.isProjectionEventApplied e'.eventId = false) :
    db'.isProjectionEventApplied e'.eventId = false := by
  have marks := congrFun (marked_update (applyOnce_unmarked h unmarked).2) e'.eventId
  simp only [unmarked', other, decide_false, Bool.or_self] at marks
  exact marks

theorem later_unmarked {clock : Int} {e : EventEnvelope} {events : List EventEnvelope} {db db' : ProjectionDb}
    (h : applyOnce pg clock e db = .ok db') (fresh : e.eventId ∉ events.map EventEnvelope.eventId)
    (unmarked : ∀ e' ∈ e :: events, db.isProjectionEventApplied e'.eventId = false) :
    ∀ e' ∈ events, db'.isProjectionEventApplied e'.eventId = false := by
  intro e' he'
  apply unmarked_after h (unmarked e List.mem_cons_self)
  · intro same
    exact fresh (same ▸ List.mem_map_of_mem he')
  · exact unmarked e' (List.mem_cons_of_mem _ he')

/-! ## Another time -/

/-- The statement at another time. -/
def Mutation.retime (time : String) : Mutation → Mutation
  | .insertOrder orderId userId totalAmount currency items _ =>
    .insertOrder orderId userId totalAmount currency items time
  | .updateOrder orderId status columns _ => .updateOrder orderId status columns time
  | .insertPayment paymentId orderId userId amount authorizationCode _ =>
    .insertPayment paymentId orderId userId amount authorizationCode time
  | .refundPayments orderId refundId _ => .refundPayments orderId refundId time
  | .reserveStock item _ => .reserveStock item time
  | .releaseStock item _ => .releaseStock item time
  | .insertShipment shipmentId orderId trackingNumber carrier estimatedDelivery _ =>
    .insertShipment shipmentId orderId trackingNumber carrier estimatedDelivery time

theorem mutations_retime {e e' : EventEnvelope} (sameType : e'.eventType = e.eventType)
    (sameAggregate : e'.aggregateId = e.aggregateId) (samePayload : e'.payload = e.payload) :
    mutations e' = (mutations e).map (Mutation.retime e'.occurredAt) := by
  unfold mutations
  rw [sameType, sameAggregate, samePayload]
  cases e.eventType <;> simp [Mutation.retime, Function.comp_def]

theorem isOk_bind {α β : Type} {x : Except JsError α} {f : α → Except JsError β} :
    (x >>= f).isOk = true ↔ ∃ a, x = .ok a ∧ (f a).isOk = true := by
  cases x with
  | error err =>
    constructor
    · intro h
      cases h
    · rintro ⟨a, h, -⟩
      cases h
  | ok a =>
    constructor
    · intro h
      exact ⟨a, rfl, h⟩
    · rintro ⟨a', h, hok⟩
      cases h
      exact hok

theorem ok_of_isOk {α : Type} {x : Except JsError α} (h : x.isOk = true) : ∃ a, x = .ok a := by
  cases x with
  | error err => cases h
  | ok a => exact ⟨a, rfl⟩

theorem isOk_of_ok {α : Type} {x : Except JsError α} {a : α} (h : x = .ok a) : x.isOk = true := by
  rw [h]
  rfl

theorem stockChange_retime {set : Int → InventoryView → InventoryView} {item : Json} {occurredAt time : String} {t : Int}
    (ht : pg.readTimestamp time = .ok t) (h : (stockChange pg set item occurredAt).isOk = true) :
    (stockChange pg set item time).isOk = true := by
  simp only [stockChange, isOk_bind] at h ⊢
  obtain ⟨quantity, hquantity, sku, hsku, amount, hamount, -, -, named, hnamed, -⟩ := h
  refine ⟨quantity, hquantity, sku, hsku, amount, hamount, t, ht, named, hnamed, ?_⟩
  cases named <;> rfl

theorem change_retime {m : Mutation} {time : String} (readable : (pg.readTimestamp time).isOk = true)
    (h : (m.change pg).isOk = true) : ((m.retime time).change pg).isOk = true := by
  obtain ⟨t, ht⟩ := ok_of_isOk readable
  cases m with
  | insertOrder orderId userId totalAmount currency items occurredAt =>
    simp only [Mutation.change, Mutation.retime, isOk_bind] at h ⊢
    obtain ⟨a, ha, b, hb, c, hc, d, hd, f, hf, -, -, -⟩ := h
    exact ⟨a, ha, b, hb, c, hc, d, hd, f, hf, t, ht, rfl⟩
  | updateOrder orderId status columns occurredAt =>
    simp only [Mutation.change, Mutation.retime, isOk_bind] at h ⊢
    obtain ⟨a, ha, b, hb, -, -, -⟩ := h
    exact ⟨a, ha, b, hb, t, ht, rfl⟩
  | insertPayment paymentId orderId userId amount authorizationCode occurredAt =>
    simp only [Mutation.change, Mutation.retime, isOk_bind] at h ⊢
    obtain ⟨a, ha, b, hb, c, hc, d, hd, f, hf, -, -, -⟩ := h
    exact ⟨a, ha, b, hb, c, hc, d, hd, f, hf, t, ht, rfl⟩
  | refundPayments orderId refundId occurredAt =>
    simp only [Mutation.change, Mutation.retime, isOk_bind] at h ⊢
    obtain ⟨a, ha, b, hb, -, -, -⟩ := h
    exact ⟨a, ha, b, hb, t, ht, rfl⟩
  | reserveStock item occurredAt => exact stockChange_retime ht h
  | releaseStock item occurredAt => exact stockChange_retime ht h
  | insertShipment shipmentId orderId trackingNumber carrier estimatedDelivery occurredAt =>
    simp only [Mutation.change, Mutation.retime, isOk_bind] at h ⊢
    obtain ⟨a, ha, b, hb, c, hc, d, hd, f, hf, -, -, -⟩ := h
    exact ⟨a, ha, b, hb, c, hc, d, hd, f, hf, t, ht, rfl⟩

theorem changesOf_retime {ms : List Mutation} {time : String} (readable : (pg.readTimestamp time).isOk = true)
    (h : (changesOf pg ms).isOk = true) : (changesOf pg (ms.map (Mutation.retime time))).isOk = true := by
  induction ms with
  | nil => rfl
  | cons m ms ih =>
    simp only [changesOf, List.map_cons, isOk_bind] at h ⊢
    obtain ⟨change, hchange, rest, hrest, -⟩ := h
    obtain ⟨change', hchange'⟩ := ok_of_isOk (change_retime readable (isOk_of_ok hchange))
    obtain ⟨rest', hrest'⟩ := ok_of_isOk (ih (isOk_of_ok hrest))
    exact ⟨change', hchange', rest', hrest', rfl⟩

/-- An event that applies does so at any time that can be read. -/
theorem applies_retime {e e' : EventEnvelope} (h : Applies pg e) (sameId : e'.eventId = e.eventId)
    (sameType : e'.eventType = e.eventType) (sameAggregate : e'.aggregateId = e.aggregateId)
    (samePayload : e'.payload = e.payload) (readable : (pg.readTimestamp e'.occurredAt).isOk = true) :
    Applies pg e' := by
  obtain ⟨text, changes, marker⟩ := h
  rw [Applies, changesOfEvent, sameId, sameAggregate, mutations_retime sameType sameAggregate samePayload]
  exact ⟨text, changesOf_retime readable changes, marker⟩

/-- A stored timestamp can be read again. -/
theorem readTimestamp_isoString {text : String} {time : Int} (read : pg.readTimestamp text = .ok time) :
    (pg.readTimestamp (pg.isoString time)).isOk = true := by
  have parsed : pg.timestamp text = some time := by
    unfold Postgres.readTimestamp at read
    split at read
    · rename_i t ht
      cases read
      exact ht
    · cases read
  obtain ⟨t, ht⟩ := Option.isSome_iff_exists.mp (pg.reads_back _ _ parsed)
  rw [Postgres.readTimestamp, ht]
  rfl

/-- An event that was applied applies again when it is read back from the store. -/
theorem applies_stored {e : EventEnvelope} {time : Int} (read : pg.readTimestamp e.occurredAt = .ok time)
    (sequenceNumber : Nat) (h : Applies pg e) : Applies pg ((e.stored sequenceNumber time).envelope pg) :=
  applies_retime h rfl rfl rfl rfl (readTimestamp_isoString read)

end Fulfillment
