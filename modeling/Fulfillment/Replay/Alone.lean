import Fulfillment.Projection.ProjectionConsumer
import Fulfillment.Replay.EventReplayService

/-!
# A replay alone

What `replayAggregate` does to the tables when nothing fails of itself: the
reset, and then the applications up to the first that raises.
-/

namespace Fulfillment

open Js Effects

variable (pg : Postgres)

def replayed (aggregateId : String) (w : ProjectionWorld) : Ran JsError ProjectionWorld ProjectionCall ReplayResult :=
  runAlone pg (replayAggregate aggregateId) w

/-- The tables after the four statements of the reset. -/
def resetProjection (aggregateId : String) (db : ProjectionDb) : ProjectionDb :=
  ProjectionWorld.deleteAppliedEvents aggregateId
    { db with models := ((db.models.deleteOrder aggregateId).deletePayments aggregateId).deleteShipments aggregateId }

/-- Applications up to the first one that raises. -/
def applyEvents (clock : Int) : List EventEnvelope → ProjectionDb → Except JsError Unit × ProjectionDb
  | [], db => (.ok (), db)
  | e :: events, db =>
    match applyBounded pg clock e db with
    | .ok db' => applyEvents clock events db'
    | .error err => (.error err, db)

variable {pg}

theorem applyAll_run (events : List EventEnvelope) (past : List ProjectionCall) (w : ProjectionWorld) :
    ((applyAll events).run (boundedPlatform pg) (fun _ _ => .ok) past w).value =
      (applyEvents pg w.clock events w.projection).1 ∧
    ((applyAll events).run (boundedPlatform pg) (fun _ _ => .ok) past w).state =
      { w with projection := (applyEvents pg w.clock events w.projection).2 } := by
  induction events generalizing past w with
  | nil => exact ⟨rfl, rfl⟩
  | cons e events ih =>
    rw [applyAll, applyEvents]
    cases h : applyBounded pg w.clock e w.projection with
    | error err =>
      have heffect : (boundedPlatform pg).effect (.applyHistoricalEvent e) true w = .error err := by
        simp only [boundedPlatform, h, Except.map]
      rw [run_await_error (exec_error heffect)]
      exact ⟨rfl, rfl⟩
    | ok db' =>
      have heffect : (boundedPlatform pg).effect (.applyHistoricalEvent e) true w =
          .ok ((), { w with projection := db' }) := by
        simp only [boundedPlatform, h, Except.map]
      rw [run_await_ok (exec_ok heffect)]
      exact ih _ _

theorem reset_run {aggregateId : String} (fits : fitsText aggregateId = true) (past : List ProjectionCall)
    (w : ProjectionWorld) :
    ∃ past', (resetReadModelForAggregate aggregateId).run (boundedPlatform pg) (fun _ _ => .ok) past w =
      ⟨.ok (), { w with projection := resetProjection aggregateId w.projection }, past'⟩ := by
  simp only [resetReadModelForAggregate, run_bind, run_await, Ran.andThen, Semantics.exec, boundedPlatform, projectionPlatform, guarded,
    fits, if_true]
  exact ⟨_, rfl⟩

/-- The events and the reset. -/
theorem tryReplay_run {aggregateId : String} (fits : fitsText aggregateId = true) (w : ProjectionWorld) :
    ∃ past, (tryReplay aggregateId).run (boundedPlatform pg) (fun _ _ => .ok) [] w =
      ((applyAll (getEventsByAggregateId pg aggregateId w.store)).run (boundedPlatform pg) (fun _ _ => .ok) past
        { w with projection := resetProjection aggregateId w.projection }).andThen (boundedPlatform pg)
        (fun _ _ => .ok) fun _ => do
          let reconstructedState : Option OrderSummary ← perform (.getOrder aggregateId)
          return ⟨aggregateId, (getEventsByAggregateId pg aggregateId w.store).length, .success,
            reconstructedState, none⟩ := by
  have fetched : (boundedPlatform pg).exec (.getEventsByAggregateId aggregateId) .ok w =
      (.ok (getEventsByAggregateId pg aggregateId w.store), w) := by
    simp only [Semantics.exec, boundedPlatform, projectionPlatform, guarded, fits, if_true]
  obtain ⟨past, hreset⟩ := @reset_run pg _ fits [.getEventsByAggregateId aggregateId] w
  refine ⟨past, ?_⟩
  rw [tryReplay, run_await_ok fetched, run_bind, hreset, Ran.andThen, run_bind]

/-- A replay resets the aggregate and applies its events until one raises. -/
theorem replayed_run {aggregateId : String} (fits : fitsText aggregateId = true) (w : ProjectionWorld) :
    let applied := applyEvents pg w.clock (getEventsByAggregateId pg aggregateId w.store)
      (resetProjection aggregateId w.projection)
    (replayed pg aggregateId w).state = { w with projection := applied.2 } ∧
    ((∃ r, (replayed pg aggregateId w).value = .ok r ∧ r.status = .success) ↔ applied.1 = .ok ()) := by
  intro applied
  obtain ⟨past, htry⟩ := @tryReplay_run pg _ fits w
  obtain ⟨hvalue, hstate⟩ := @applyAll_run pg (getEventsByAggregateId pg aggregateId w.store) past
    { w with projection := resetProjection aggregateId w.projection }
  unfold replayed runAlone replayAggregate
  rw [run_bind, run_settle, htry]
  generalize (applyAll (getEventsByAggregateId pg aggregateId w.store)).run (boundedPlatform pg) (fun _ _ => .ok) past
    { w with projection := resetProjection aggregateId w.projection } = r at hvalue hstate
  change r.value = applied.1 at hvalue
  change r.state = { w with projection := applied.2 } at hstate
  cases happlied : applied.1 with
  | error err =>
    rw [happlied] at hvalue
    simp only [Ran.andThen, hvalue]
    refine ⟨hstate, ⟨?_, fun h => by cases h⟩⟩
    rintro ⟨result, hresult, hsuccess⟩
    cases hresult
    cases hsuccess
  | ok a =>
    rw [happlied] at hvalue
    have found : (boundedPlatform pg).exec (.getOrder aggregateId) .ok r.state =
        (.ok (r.state.getOrder aggregateId), r.state) := by
      simp only [Semantics.exec, boundedPlatform, projectionPlatform, guarded, fits, if_true]
    simp only [Ran.andThen, hvalue]
    rw [run_await_ok found]
    refine ⟨hstate, iff_of_true ⟨_, rfl, rfl⟩ trivial⟩

theorem status_of_toOption {x : Except JsError ReplayResult} {status : ReplayStatus}
    (h : x.toOption.map (·.status) = some status) : ∃ result, x = .ok result ∧ result.status = status := by
  cases x with
  | error err => cases h
  | ok result => exact ⟨result, rfl, Option.some.inj h⟩

/-- A replay of an identifier that PostgreSQL cannot hold reads and changes nothing. -/
theorem replayed_unfit {aggregateId : String} (unfit : fitsText aggregateId = false) (w : ProjectionWorld) :
    (replayed pg aggregateId w).state = w ∧
    ¬∃ r, (replayed pg aggregateId w).value = .ok r ∧ r.status = .success := by
  have refused : (boundedPlatform pg).exec (.getEventsByAggregateId aggregateId) .ok w = (.error columnError, w) := by
    simp [Semantics.exec, boundedPlatform, projectionPlatform, guarded, unfit]
  unfold replayed runAlone replayAggregate
  rw [run_bind, run_settle, tryReplay, run_await_error refused]
  refine ⟨rfl, ?_⟩
  rintro ⟨result, hresult, hsuccess⟩
  cases hresult
  cases hsuccess

end Fulfillment
