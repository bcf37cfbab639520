import Fulfillment.Projection.Applies
import Fulfillment.Projection.StockRange

/-!
# `ProjectionConsumer.processEvent`

An event is stored, recorded and applied, each in a transaction of its own. The
live notifications go to sockets only and are left out.
-/

namespace Fulfillment

open Js Effects

def ProjectionConsumer.processEvent (e : EventEnvelope) : ProjectionProgram Unit := do
  perform (.appendToEventStore e)
  perform (.recordEvent e.aggregateId e.eventType.name (orString e.producer "system"))
  perform (.applyHistoricalEvent e)

variable (pg : Postgres)

/-- A program run alone, no call failing of itself. -/
def runAlone {α : Type} (p : ProjectionProgram α) (w : ProjectionWorld) :
    Ran JsError ProjectionWorld ProjectionCall α :=
  p.run (boundedPlatform pg) (fun _ _ => .ok) [] w

def ProjectionWorld.atTime (time : Int) (w : ProjectionWorld) : ProjectionWorld :=
  { w with world := { w.world with clock := time } }

/-- Events processed one after another, each at its time; `none` when one raises. -/
def processAll : List (Int × EventEnvelope) → ProjectionWorld → Option ProjectionWorld
  | [], w => some w
  | (time, e) :: events, w =>
    let r := runAlone pg (ProjectionConsumer.processEvent e) (w.atTime time)
    if r.value.isOk then processAll events r.state else none

variable {pg}

/-- A call that succeeds when nothing fails of itself. -/
theorem run_perform_returns {α : Type} {c : ProjectionCall} {k : ProjectionAnswer c → ProjectionProgram α}
    {past : List ProjectionCall} {w : ProjectionWorld}
    (h : ((perform c >>= k).run (boundedPlatform pg) (fun _ _ => .ok) past w).value.isOk = true) :
    ∃ r w', (boundedPlatform pg).effect c true w = .ok (r, w') ∧
      (perform c >>= k).run (boundedPlatform pg) (fun _ _ => .ok) past w =
        (k r).run (boundedPlatform pg) (fun _ _ => .ok) (c :: past) w' := by
  cases heffect : (boundedPlatform pg).effect c true w with
  | error err =>
    rw [run_await_error (exec_error heffect)] at h
    cases h
  | ok r => exact ⟨r.1, r.2, rfl, run_await_ok (exec_ok heffect) _⟩

/-- An event that is processed is stored and applied. -/
theorem processEvent_returns {e : EventEnvelope} {w : ProjectionWorld}
    (h : (runAlone pg (ProjectionConsumer.processEvent e) w).value.isOk = true) :
    let w' := (runAlone pg (ProjectionConsumer.processEvent e) w).state
    appendToEventStore pg e w.store = .ok w'.store ∧
    applyOnce pg w.clock e w.projection = .ok w'.projection ∧ w'.world = w.world := by
  intro w'
  have hw' : w' = (runAlone pg (ProjectionConsumer.processEvent e) w).state := rfl
  clear_value w'
  unfold runAlone ProjectionConsumer.processEvent at h hw'
  obtain ⟨_, w₁, happend, hrun⟩ := run_perform_returns h
  rw [hrun] at h hw'
  obtain ⟨_, w₂, hrecord, hrun⟩ := run_perform_returns h
  rw [hrun] at h hw'
  rw [← bind_pure (perform (.applyHistoricalEvent e))] at h hw'
  obtain ⟨_, w₃, happly, hrun⟩ := run_perform_returns h
  rw [hrun] at hw'
  obtain ⟨store, happended, rfl⟩ := append_returns (boundedPlatform_restricts _ _ _ _ happend)
  cases guarded_returns hrecord
  obtain ⟨db', once, rfl⟩ := application_returns (boundedPlatform_restricts _ _ _ _ happly)
  subst hw'
  exact ⟨happended, once, rfl⟩

/-! ## What live processing leaves -/

/-- Nothing is stored and nothing is marked; there may be rows already. -/
def Fresh (w : ProjectionWorld) : Prop := w.store.events = [] ∧ ∀ key, w.projection.applied key = none

/-- The markers are those of the stored events, and every stored event applies. -/
structure Settled (pg : Postgres) (w : ProjectionWorld) : Prop where
  marked : ∀ e ∈ w.store.events, ∃ time, w.projection.applied (markerOf e.eventId) = some ⟨e.aggregateId, time⟩
  stored : ∀ eventId, w.projection.isProjectionEventApplied eventId = true → eventId ∈ w.store.events.map StoredEvent.eventId
  applies : ∀ e ∈ w.store.events, Applies pg (e.envelope pg)

theorem Fresh.settled {w : ProjectionWorld} (h : Fresh w) : Settled pg w := by
  obtain ⟨hevents, hmarkers⟩ := h
  constructor
  · rw [hevents]
    nofun
  · intro eventId marked
    rw [ProjectionDb.isProjectionEventApplied, hmarkers] at marked
    cases marked
  · rw [hevents]
    nofun

/-- An append stores the event, or the event was stored before. -/
theorem appendToEventStore_returns {e : EventEnvelope} {s s' : EventStore} (h : appendToEventStore pg e s = .ok s') :
    e.fitsEventStore = true ∧ ∃ time, pg.readTimestamp e.occurredAt = .ok time ∧
    (e.eventId ∈ s.events.map StoredEvent.eventId ∧ s' = s ∨
      e.eventId ∉ s.events.map StoredEvent.eventId ∧
        s'.events = e.stored ((sequenceParam e.sequenceNumber).getD (s.nextSequence e.aggregateId)) time :: s.events) := by
  unfold appendToEventStore at h
  obtain ⟨time, htime, h⟩ := bind_returns h
  simp only at h
  split at h
  · cases h
  · rename_i fits
    have hfits : e.fitsEventStore = true := by
      by_contra unfit
      exact fits (by simp [unfit])
    refine ⟨hfits, time, htime, ?_⟩
    split at h
    · rename_i known
      cases h
      exact .inl ⟨known, rfl⟩
    · rename_i fresh
      split at h
      · cases h
      · cases h
        exact .inr ⟨fresh, rfl⟩

theorem Settled.processEvent {w : ProjectionWorld} (settled : Settled pg w) {e : EventEnvelope}
    (h : (runAlone pg (ProjectionConsumer.processEvent e) w).value.isOk = true) : Settled pg (runAlone pg (ProjectionConsumer.processEvent e) w).state := by
  obtain ⟨happended, once, -⟩ := processEvent_returns h
  generalize (runAlone pg (ProjectionConsumer.processEvent e) w).state = w' at happended once
  obtain ⟨-, time, htime, ⟨known, same⟩ | ⟨fresh, hevents⟩⟩ := appendToEventStore_returns happended
  · have hmarked : w.projection.isProjectionEventApplied e.eventId = true := by
      obtain ⟨stored, hstored, hid⟩ := List.mem_map.mp known
      obtain ⟨time', hrow⟩ := settled.marked stored hstored
      rw [ProjectionDb.isProjectionEventApplied, ← hid, hrow]
      rfl
    have hprojection := applyOnce_marked once hmarked
    constructor
    · rw [same, hprojection]
      exact settled.marked
    · rw [same, hprojection]
      exact settled.stored
    · rw [same]
      exact settled.applies
  · have unmarked : w.projection.isProjectionEventApplied e.eventId = false := by
      by_contra marked
      exact fresh (settled.stored _ (Bool.not_eq_false _ ▸ marked))
    have happlied := (applyOnce_unmarked once unmarked).2
    constructor
    · rw [hevents, List.forall_mem_cons]
      refine ⟨⟨w.clock, ?_⟩, ?_⟩
      · rw [happlied]
        exact Function.update_self ..
      · intro stored hstored
        obtain ⟨time', hrow⟩ := settled.marked stored hstored
        have other : stored.eventId ≠ e.eventId := fun hid => fresh (hid ▸ List.mem_map_of_mem hstored)
        refine ⟨time', ?_⟩
        rw [happlied, Function.update_of_ne fun hm => other (markerOf_inj.mp hm)]
        exact hrow
    · intro eventId marked
      rw [hevents, List.map_cons, List.mem_cons]
      rw [congrFun (marked_update happlied) eventId] at marked
      rcases Bool.or_eq_true_iff.mp marked with marked | same
      · exact .inr (settled.stored eventId marked)
      · exact .inl (of_decide_eq_true same)
    · rw [hevents, List.forall_mem_cons]
      exact ⟨applies_stored htime _ ((applies_iff unmarked).mpr ⟨_, once⟩), settled.applies⟩

theorem Settled.atTime {w : ProjectionWorld} (settled : Settled pg w) (time : Int) : Settled pg (w.atTime time) :=
  ⟨settled.marked, settled.stored, settled.applies⟩

/-- The first of several events was processed, and the others after it. -/
theorem processAll_cons {time : Int} {e : EventEnvelope} {events : List (Int × EventEnvelope)} {w w' : ProjectionWorld}
    (h : processAll pg ((time, e) :: events) w = some w') :
    (runAlone pg (ProjectionConsumer.processEvent e) (w.atTime time)).value.isOk = true ∧
    processAll pg events (runAlone pg (ProjectionConsumer.processEvent e) (w.atTime time)).state = some w' := by
  rw [processAll] at h
  split at h
  · rename_i returned
    exact ⟨returned, h⟩
  · cases h

theorem processAll_settled {events : List (Int × EventEnvelope)} {w w' : ProjectionWorld} (settled : Settled pg w)
    (h : processAll pg events w = some w') : Settled pg w' := by
  induction events generalizing w with
  | nil =>
    cases h
    exact settled
  | cons event events ih =>
    obtain ⟨returned, hrest⟩ := processAll_cons h
    exact ih ((settled.atTime event.1).processEvent returned) hrest

theorem processAll_fits {events : List (Int × EventEnvelope)} {w w' : ProjectionWorld}
    (h : processAll pg events w = some w') : ∀ event ∈ events, event.2.fitsEventStore = true := by
  induction events generalizing w with
  | nil => nofun
  | cons event events ih =>
    obtain ⟨returned, hrest⟩ := processAll_cons h
    obtain ⟨happended, -, -⟩ := processEvent_returns returned
    rw [List.forall_mem_cons]
    exact ⟨(appendToEventStore_returns happended).1, ih hrest⟩

end Fulfillment
