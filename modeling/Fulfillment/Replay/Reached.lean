import Fulfillment.Projection.Concerns
import Fulfillment.Replay.Alone

/-!
# How far a replay gets

The reset takes the markers of the aggregate, so a replay applies its stored
events again, and its stock moves with them. It ends with the first event whose
moves would take a counter beyond its column. `stockAfter` follows the counters
from one replay to the next.
-/

namespace Fulfillment

open Js Effects

variable {pg : Postgres} {orderId : String}

/-! ## The events of an aggregate -/

theorem getEvents_own {s : EventStore} : ∀ e ∈ getEventsByAggregateId pg orderId s, e.aggregateId = orderId := by
  intro e he
  obtain ⟨stored, hstored, rfl⟩ := List.mem_map.mp he
  exact (mem_inOrder.mp hstored).2

theorem getEvents_distinct {s : EventStore} :
    ((getEventsByAggregateId pg orderId s).map EventEnvelope.eventId).Nodup := by
  have ids : (getEventsByAggregateId pg orderId s).map EventEnvelope.eventId =
      (s.inOrder orderId).map StoredEvent.eventId := by
    simp only [getEventsByAggregateId, List.map_map]
    rfl
  have perm : ((s.inOrder orderId).map StoredEvent.eventId).Perm ((s.ofAggregate orderId).map StoredEvent.eventId) :=
    (List.perm_insertionSort _ _).map _
  rw [ids, perm.nodup_iff]
  exact s.uniqueId.sublist (List.filter_sublist.map _)

/-- Every marker of a stored event of the aggregate carries the aggregate's id. -/
def MarkersOwned (pg : Postgres) (orderId : String) (w : ProjectionWorld) : Prop :=
  ∀ e ∈ getEventsByAggregateId pg orderId w.store, ∀ row,
    w.projection.applied (markerOf e.eventId) = some row → row.aggregateId = orderId

theorem reset_unmarked {w : ProjectionWorld} (marked : MarkersOwned pg orderId w) :
    ∀ e ∈ getEventsByAggregateId pg orderId w.store,
      (resetProjection orderId w.projection).isProjectionEventApplied e.eventId = false := by
  intro e he
  simp only [ProjectionDb.isProjectionEventApplied, resetProjection, ProjectionWorld.deleteAppliedEvents]
  cases hrow : w.projection.applied (markerOf e.eventId) with
  | none => rfl
  | some row => simp [marked e he row hrow]

/-! ## Until the moves of an event do not hold -/

variable (pg) in
/-- What some events do to the stock. -/
def stockBy (events : List EventEnvelope) (levels : StockLevels) : StockLevels :=
  fun sku => (levels sku).map (runMoves (events.flatMap (stockMoves pg sku)))

variable (pg) in
/-- The events before the first one whose moves do not hold. -/
def untilOverflow : List EventEnvelope → StockLevels → List EventEnvelope
  | [], _ => []
  | e :: events, levels =>
    if EventHolds pg e levels then e :: untilOverflow events (stockBy pg [e] levels) else []

theorem mem_untilOverflow {events : List EventEnvelope} {levels : StockLevels} {e : EventEnvelope}
    (h : e ∈ untilOverflow pg events levels) : e ∈ events := by
  induction events generalizing levels with
  | nil => cases h
  | cons first events ih =>
    rw [untilOverflow] at h
    split at h
    · rcases List.mem_cons.mp h with rfl | h
      · exact List.mem_cons_self
      · exact List.mem_cons_of_mem _ (ih h)
    · cases h

/-- Events that move no stock are never in the way. -/
theorem untilOverflow_unmoved {events : List EventEnvelope} {levels : StockLevels}
    (unmoved : ∀ e ∈ events, ∀ sku, stockMoves pg sku e = []) : untilOverflow pg events levels = events := by
  induction events generalizing levels with
  | nil => rfl
  | cons e events ih =>
    obtain ⟨first, others⟩ := List.forall_mem_cons.mp unmoved
    have holds : EventHolds pg e levels := by
      intro sku level _
      rw [first]
      trivial
    rw [untilOverflow, if_pos holds, ih others]

theorem foldEvents_cons {e : EventEnvelope} {events : List EventEnvelope} {m m' : ReadModels}
    (h : foldEvents pg (e :: events) m = .ok m') :
    ∃ changes, changesOfEvent pg e = .ok changes ∧ foldEvents pg events (applyChanges changes m) = .ok m' := by
  obtain ⟨m₁, hmutate, hrest⟩ := bind_returns h
  rw [mutate_eq] at hmutate
  cases hchanges : changesOfEvent pg e with
  | error err =>
    rw [hchanges] at hmutate
    cases hmutate
  | ok changes =>
    rw [hchanges] at hmutate
    cases hmutate
    exact ⟨changes, rfl, hrest⟩

theorem foldEvents_stock {events : List EventEnvelope} {m m' : ReadModels} (h : foldEvents pg events m = .ok m') :
    stockLevel m' = stockBy pg events (stockLevel m) := by
  funext sku
  rw [stockBy]
  induction events generalizing m with
  | nil =>
    cases h
    simp
  | cons e events ih =>
    obtain ⟨changes, hchanges, hrest⟩ := foldEvents_cons h
    rw [ih hrest, changesOfEvent_stock hchanges, Option.map_map, List.flatMap_cons]
    congr 1
    funext s
    exact (runMoves_append _ _ s).symm

/-- Only events that PostgreSQL takes are all applied. -/
theorem applyEvents_applies {clock : Int} {events : List EventEnvelope} {db : ProjectionDb}
    (distinct : (events.map EventEnvelope.eventId).Nodup)
    (unmarked : ∀ e ∈ events, db.isProjectionEventApplied e.eventId = false)
    (applied : (applyEvents pg clock events db).1 = .ok ()) : ∀ e ∈ events, Applies pg e := by
  induction events generalizing db with
  | nil => simp
  | cons e events ih =>
    obtain ⟨fresh, distinct⟩ := List.nodup_cons.mp distinct
    have first : db.isProjectionEventApplied e.eventId = false := unmarked e List.mem_cons_self
    rw [applyEvents] at applied
    cases happlied : applyBounded pg clock e db with
    | error err =>
      rw [happlied] at applied
      cases applied
    | ok db' =>
      rw [happlied] at applied
      have once := applyBounded_once happlied
      exact List.forall_mem_cons.mpr
        ⟨(applies_iff first).mpr ⟨db', once⟩, ih distinct (later_unmarked once fresh unmarked) applied⟩

/-- Distinct new events are folded up to the first whose moves do not hold. -/
theorem applyEvents_fold {clock : Int} {events : List EventEnvelope} {db : ProjectionDb}
    (distinct : (events.map EventEnvelope.eventId).Nodup)
    (unmarked : ∀ e ∈ events, db.isProjectionEventApplied e.eventId = false) (applies : ∀ e ∈ events, Applies pg e) :
    foldEvents pg (untilOverflow pg events (stockLevel db.models)) db.models =
      .ok (applyEvents pg clock events db).2.models ∧
    ((applyEvents pg clock events db).1 = .ok () ↔ untilOverflow pg events (stockLevel db.models) = events) := by
  induction events generalizing db with
  | nil => exact ⟨rfl, iff_of_true rfl rfl⟩
  | cons e events ih =>
    obtain ⟨fresh, distinct⟩ := List.nodup_cons.mp distinct
    have first : db.isProjectionEventApplied e.eventId = false := unmarked e List.mem_cons_self
    obtain ⟨db', once⟩ := (@applies_iff pg clock e db first).mp (applies e List.mem_cons_self)
    rw [untilOverflow, applyEvents]
    by_cases holds : EventHolds pg e (stockLevel db.models)
    · rw [applyBounded_iff.mpr ⟨once, fun _ => holds⟩, if_pos holds]
      have mutated := (applyOnce_unmarked once first).1
      have moved : stockLevel db'.models = stockBy pg [e] (stockLevel db.models) := by
        apply foldEvents_stock
        rw [foldEvents, mutated]
        rfl
      obtain ⟨folds, all⟩ := ih distinct (later_unmarked once fresh unmarked) fun e' he' =>
        applies e' (List.mem_cons_of_mem _ he')
      rw [← moved, foldEvents, mutated]
      refine ⟨folds, all.trans ?_⟩
      simp
    · rw [if_neg holds]
      cases happlied : applyBounded pg clock e db with
      | error err => exact ⟨rfl, iff_of_false (by simp) (by simp)⟩
      | ok db' => exact absurd ((applyBounded_iff.mp happlied).2 first) holds

/-- Applications add markers with the aggregate of their events only. -/
theorem applyEvents_markers {clock : Int} {events : List EventEnvelope} {db : ProjectionDb}
    (own : ∀ e ∈ events, e.aggregateId = orderId) {key : String × String} {row : AppliedEvent}
    (h : (applyEvents pg clock events db).2.applied key = some row) :
    db.applied key = some row ∨ row.aggregateId = orderId := by
  induction events generalizing db with
  | nil => exact .inl h
  | cons e events ih =>
    rw [applyEvents] at h
    cases happlied : applyBounded pg clock e db with
    | error err =>
      rw [happlied] at h
      exact .inl h
    | ok db' =>
      rw [happlied] at h
      rcases ih (fun e' he' => own e' (List.mem_cons_of_mem _ he')) h with hold | hrow
      · cases hm : db.isProjectionEventApplied e.eventId with
        | true =>
          rw [applyOnce_marked (applyBounded_once happlied) hm] at hold
          exact .inl hold
        | false =>
          rw [(applyOnce_unmarked (applyBounded_once happlied) hm).2] at hold
          by_cases same : key = markerOf e.eventId
          · subst same
            rw [Function.update_self, Option.some.injEq] at hold
            subst hold
            exact .inr (own e List.mem_cons_self)
          · rw [Function.update_of_ne same] at hold
            exact .inl hold
      · exact .inr hrow

/-- No stored event of the aggregate is refused or skipped, but for the stock. -/
structure Replayable (pg : Postgres) (orderId : String) (w : ProjectionWorld) : Prop where
  fits : fitsText orderId = true
  marked : MarkersOwned pg orderId w
  applies : ∀ e ∈ getEventsByAggregateId pg orderId w.store, Applies pg e

/-! ## Replays -/

theorem reset_stock (db : ProjectionDb) : stockLevel (resetProjection orderId db).models = stockLevel db.models := rfl

variable (pg) in
/-- The events that a replay applies. -/
def reached (orderId : String) (w : ProjectionWorld) : List EventEnvelope :=
  untilOverflow pg (getEventsByAggregateId pg orderId w.store) (stockLevel w.projection.models)

/-- A replay of owned rows and markers returns `SUCCESS` just when its events apply and their moves hold. -/
theorem success_iff {w : ProjectionWorld} (marked : MarkersOwned pg orderId w) (fits : fitsText orderId = true) :
    (∃ r, (replayed pg orderId w).value = .ok r ∧ r.status = .success) ↔
      (∀ e ∈ getEventsByAggregateId pg orderId w.store, Applies pg e) ∧
        reached pg orderId w = getEventsByAggregateId pg orderId w.store := by
  rw [(replayed_run fits w).2]
  constructor
  · intro applied
    have applies := applyEvents_applies getEvents_distinct (reset_unmarked marked) applied
    exact ⟨applies, (applyEvents_fold getEvents_distinct (reset_unmarked marked) applies).2.mp applied⟩
  · rintro ⟨applies, all⟩
    exact (applyEvents_fold getEvents_distinct (reset_unmarked marked) applies).2.mpr all

theorem replayable_of_success {w : ProjectionWorld} (marked : MarkersOwned pg orderId w)
    (success : ∃ r, (replayed pg orderId w).value = .ok r ∧ r.status = .success) : Replayable pg orderId w := by
  have fits : fitsText orderId = true := by
    by_contra unfit
    exact (replayed_unfit (Bool.eq_false_iff.mpr unfit) w).2 success
  exact ⟨fits, marked, ((success_iff marked fits).mp success).1⟩

namespace Replayable

/-- A replay folds the events that it reaches. -/
theorem folds {w : ProjectionWorld} (h : Replayable pg orderId w) :
    foldEvents pg (reached pg orderId w) (resetProjection orderId w.projection).models =
      .ok (replayed pg orderId w).state.projection.models := by
  rw [(replayed_run h.fits w).1]
  exact (applyEvents_fold getEvents_distinct (reset_unmarked h.marked) h.applies).1

/-- A replay leaves the event store alone. -/
theorem store {w : ProjectionWorld} (h : Replayable pg orderId w) : (replayed pg orderId w).state.store = w.store := by
  rw [(replayed_run h.fits w).1]

/-- A replay can be repeated. -/
theorem again {w : ProjectionWorld} (h : Replayable pg orderId w) :
    Replayable pg orderId (replayed pg orderId w).state := by
  rw [(replayed_run h.fits w).1]
  refine ⟨h.fits, ?_, h.applies⟩
  intro e he row hrow
  rcases applyEvents_markers getEvents_own hrow with hreset | howner
  · obtain ⟨hold, -⟩ := Option.filter_eq_some_iff.mp hreset
    exact h.marked e he row hold
  · exact howner

theorem stock {w : ProjectionWorld} (h : Replayable pg orderId w) :
    stockLevel (replayed pg orderId w).state.projection.models =
      stockBy pg (reached pg orderId w) (stockLevel w.projection.models) := by
  rw [foldEvents_stock h.folds, reset_stock]

end Replayable

variable (pg) in
/-- The state after `n` replays, one after another. -/
def replays (orderId : String) : Nat → ProjectionWorld → ProjectionWorld
  | 0, w => w
  | n + 1, w => replays orderId n (replayed pg orderId w).state

variable (pg) in
/-- The stock after some events are replayed `n` times, each time as far as their moves hold. -/
def stockAfter (events : List EventEnvelope) : Nat → StockLevels → StockLevels
  | 0, levels => levels
  | n + 1, levels => stockAfter events n (stockBy pg (untilOverflow pg events levels) levels)

theorem replays_stockAfter {w : ProjectionWorld} (h : Replayable pg orderId w) (n : Nat) :
    stockLevel (replays pg orderId n w).projection.models =
      stockAfter pg (getEventsByAggregateId pg orderId w.store) n (stockLevel w.projection.models) := by
  induction n generalizing w with
  | zero => rfl
  | succ n ih =>
    rw [replays, ih h.again, h.store, h.stock]
    rfl

end Fulfillment
