import Fulfillment.Projection.Apply

/-!
# Applications one after another

Each event counts once, in the order of its first committed call, whatever
calls fail and however often an event comes again.
-/

namespace Fulfillment

open Js Effects

/-- A call of `applyHistoricalEvent`, with how its steps end and when. -/
structure ApplyCall where
  envelope : EventEnvelope
  outcomes : TxOutcomes JsError ProjectionStatement
  clock : Int

variable (pg : Postgres)

namespace ApplyCall

def run (c : ApplyCall) (db : ProjectionDb) : Except JsError Unit × ProjectionDb :=
  applyHistoricalEvent pg c.clock c.outcomes c.envelope db

/-- The transaction was committed, whether or not its caller learned of it. -/
def commits (c : ApplyCall) (db : ProjectionDb) : Bool :=
  (bodyRun (projectionStatements pg c.clock) c.outcomes (executeInTx c.envelope) db).toBool && c.outcomes.commit.acted

end ApplyCall

def afterCalls : List ApplyCall → ProjectionDb → ProjectionDb
  | [], db => db
  | c :: calls, db => afterCalls calls (c.run pg db).2

/-- The envelopes of the committed calls, in order. -/
def committedEvents : List ApplyCall → ProjectionDb → List EventEnvelope
  | [], _ => []
  | c :: calls, db =>
    if c.commits pg db then c.envelope :: committedEvents calls (c.run pg db).2
    else committedEvents calls (c.run pg db).2

/-- The first envelope of each event that was not marked before. -/
def onceEach (marked : String → Bool) : List EventEnvelope → List EventEnvelope
  | [] => []
  | e :: events =>
    if marked e.eventId then onceEach marked events
    else e :: onceEach (fun eventId => marked eventId || eventId = e.eventId) events

/-- The mutations of events, one after another. -/
def foldEvents : List EventEnvelope → ReadModels → Except JsError ReadModels
  | [], m => .ok m
  | e :: events, m => (mutate pg e m).bind fun m => foldEvents events m

variable {pg}

theorem run_of_commits {c : ApplyCall} {db : ProjectionDb} (h : c.commits pg db = true) :
    applyOnce pg c.clock c.envelope db = .ok (c.run pg db).2 := by
  unfold ApplyCall.commits at h
  unfold ApplyCall.run applyHistoricalEvent
  cases hb : bodyRun (projectionStatements pg c.clock) c.outcomes (executeInTx c.envelope) db with
  | error err =>
    rw [hb] at h
    cases h
  | ok r =>
    rw [hb] at h
    have once : applyOnce pg c.clock c.envelope db = .ok r.2 :=
      bodyRun_returns (P := fun _ db' => applyOnce pg c.clock c.envelope db = .ok db') hb fun h => executeInTx_returns h
    rw [transact_of_ok hb]
    cases hc : c.outcomes.commit with
    | ok | unacked err => exact once
    | rejected err =>
      rw [hc] at h
      cases h

theorem run_of_not_commits {c : ApplyCall} {db : ProjectionDb} (h : c.commits pg db = false) :
    (c.run pg db).2 = db := by
  unfold ApplyCall.commits at h
  unfold ApplyCall.run applyHistoricalEvent
  cases hb : bodyRun (projectionStatements pg c.clock) c.outcomes (executeInTx c.envelope) db with
  | error err => rw [transact_of_error hb]
  | ok r =>
    rw [hb] at h
    rw [transact_of_ok hb]
    cases hc : c.outcomes.commit with
    | ok | unacked err =>
      rw [hc] at h
      cases h
    | rejected err => rfl

theorem applyOnce_marked {clock : Int} {e : EventEnvelope} {db db' : ProjectionDb}
    (h : applyOnce pg clock e db = .ok db') (marked : db.isProjectionEventApplied e.eventId = true) : db' = db := by
  unfold applyOnce at h
  split at h
  · exact (Except.ok.inj h).symm
  · cases h

theorem applyOnce_unmarked {clock : Int} {e : EventEnvelope} {db db' : ProjectionDb}
    (h : applyOnce pg clock e db = .ok db') (unmarked : db.isProjectionEventApplied e.eventId = false) :
    mutate pg e db.models = .ok db'.models ∧
    db'.applied = Function.update db.applied (markerOf e.eventId) (some ⟨e.aggregateId, clock⟩) := by
  have fresh : db.applied (markerOf e.eventId) = none := by
    simpa [ProjectionDb.isProjectionEventApplied] using unmarked
  unfold applyOnce at h
  split at h
  · rw [unmarked] at h
    cases hm : mutate pg e db.models with
    | error err =>
      rw [hm] at h
      cases h
    | ok models =>
      rw [hm] at h
      simp only [Except.bind, Bool.false_eq_true, if_false] at h
      split at h
      · cases h
        refine ⟨rfl, ?_⟩
        simp only [ProjectionDb.markProjectionEventApplied, fresh, Option.getD_none]
      · cases h
  · cases h

theorem markerOf_inj {a b : String} : markerOf a = markerOf b ↔ a = b := by
  simp [markerOf]

/-- What the marker table says after one more event. -/
theorem marked_update {db db' : ProjectionDb} {e : EventEnvelope} {row : AppliedEvent}
    (h : db'.applied = Function.update db.applied (markerOf e.eventId) (some row)) :
    db'.isProjectionEventApplied = fun eventId => db.isProjectionEventApplied eventId || eventId = e.eventId := by
  funext eventId
  unfold ProjectionDb.isProjectionEventApplied
  rw [h]
  by_cases same : eventId = e.eventId
  · subst same
    simp
  · rw [Function.update_of_ne (fun hm => same (markerOf_inj.mp hm))]
    simp [same]

/-- The marker table after the events were marked, each at some time. -/
structure MarkedFor (events : List EventEnvelope) (db db' : ProjectionDb) : Prop where
  fresh : ∀ e ∈ events, db.applied (markerOf e.eventId) = none
  marked : ∀ e ∈ events, ∃ time, db'.applied (markerOf e.eventId) = some ⟨e.aggregateId, time⟩
  others : ∀ key, (∀ e ∈ events, key ≠ markerOf e.eventId) → db'.applied key = db.applied key

theorem MarkedFor.cons {e : EventEnvelope} {events : List EventEnvelope} {db db₁ db₂ : ProjectionDb} {time : Int}
    (fresh : db.applied (markerOf e.eventId) = none)
    (first : db₁.applied = Function.update db.applied (markerOf e.eventId) (some ⟨e.aggregateId, time⟩))
    (h : MarkedFor events db₁ db₂) : MarkedFor (e :: events) db db₂ := by
  have distinct : ∀ e' ∈ events, markerOf e.eventId ≠ markerOf e'.eventId := by
    intro e' he' same
    have := h.fresh e' he'
    rw [first, ← same, Function.update_self] at this
    cases this
  constructor
  · intro e' he'
    rcases List.mem_cons.mp he' with rfl | he'
    · exact fresh
    · have := h.fresh e' he'
      rwa [first, Function.update_of_ne (distinct e' he').symm] at this
  · intro e' he'
    rcases List.mem_cons.mp he' with rfl | he'
    · refine ⟨time, ?_⟩
      rw [h.others _ distinct, first, Function.update_self]
    · exact h.marked e' he'
  · intro key other
    have hne : key ≠ markerOf e.eventId := other e List.mem_cons_self
    rw [h.others key fun e' he' => other e' (List.mem_cons_of_mem e he'), first, Function.update_of_ne hne]

/-- Every run is the fold of the events that count, and marks them. -/
theorem afterCalls_fold (calls : List ApplyCall) (db : ProjectionDb) :
    let events := onceEach db.isProjectionEventApplied (committedEvents pg calls db)
    foldEvents pg events db.models = .ok (afterCalls pg calls db).models ∧
    MarkedFor events db (afterCalls pg calls db) := by
  induction calls generalizing db with
  | nil => exact ⟨rfl, ⟨nofun, nofun, fun _ _ => rfl⟩⟩
  | cons c calls ih =>
    intro events
    obtain ⟨hfold, hmarked⟩ := ih (c.run pg db).2
    cases hc : c.commits pg db with
    | false =>
      have same := run_of_not_commits hc
      have hevents : events = onceEach db.isProjectionEventApplied (committedEvents pg calls (c.run pg db).2) := by
        simp only [events, committedEvents, hc, Bool.false_eq_true, if_false]
      rw [hevents, afterCalls]
      rw [same] at hfold hmarked ⊢
      exact ⟨hfold, hmarked⟩
    | true =>
      have once := run_of_commits hc
      have hcommitted : committedEvents pg (c :: calls) db = c.envelope :: committedEvents pg calls (c.run pg db).2 := by
        simp only [committedEvents, hc, if_true]
      cases hm : db.isProjectionEventApplied c.envelope.eventId with
      | true =>
        have same := applyOnce_marked once hm
        have hevents : events = onceEach db.isProjectionEventApplied (committedEvents pg calls (c.run pg db).2) := by
          simp only [events, hcommitted, onceEach, hm, if_true]
        rw [hevents, afterCalls]
        rw [same] at hfold hmarked ⊢
        exact ⟨hfold, hmarked⟩
      | false =>
        obtain ⟨hmutate, happlied⟩ := applyOnce_unmarked once hm
        have hevents : events = c.envelope ::
            onceEach (c.run pg db).2.isProjectionEventApplied (committedEvents pg calls (c.run pg db).2) := by
          simp only [events, hcommitted, onceEach, hm, Bool.false_eq_true, if_false, marked_update happlied]
        have fresh : db.applied (markerOf c.envelope.eventId) = none := by
          simpa [ProjectionDb.isProjectionEventApplied] using hm
        rw [hevents, afterCalls]
        refine ⟨?_, hmarked.cons fresh happlied⟩
        rw [foldEvents, hmutate]
        exact hfold

end Fulfillment
